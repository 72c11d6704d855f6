import AssetAtlas.Text.Blank

/-!
A place in a YAML text, and the kinds of characters that matter there. Lines can end in several ways,
which are made one before anything else is looked at; after that every break is one character.
-/

namespace AssetAtlas.Yaml

/-- Whether a character may stand in a text at all. -/
def isAllowed (c : Char) : Bool :=
  let n := c.toNat
  n = 0x09 || n = 0x0A || n = 0x0D || (0x20 ≤ n && n ≤ 0x7E) || n = 0x85 ||
    (0xA0 ≤ n && n ≤ 0xD7FF) || (0xE000 ≤ n && n ≤ 0xFFFD) || 0x10000 ≤ n

/-- Writes a carriage return, alone or in front of a line feed, and a next-line character as a line
feed. -/
def unifyBreaks : List Char → List Char
  | [] => []
  | '\r' :: '\n' :: rest => '\n' :: unifyBreaks rest
  | c :: rest => (if c = '\r' ∨ c = '\x85' then '\n' else c) :: unifyBreaks rest

def isBreak (c : Char) : Bool :=
  c = '\n' || c = '\u2028' || c = '\u2029'

def isWhite (c : Char) : Bool :=
  c = ' ' || c = '\t'

def isGap (c : Char) : Bool :=
  isWhite c || isBreak c

def atGap : List Char → Bool
  | [] => true
  | c :: _ => isGap c

/-- Whether a character may stand in the name of an anchor or a tag. -/
def isWord (c : Char) : Bool :=
  c.isAlphanum || c = '_' || c = '-'

/-- Whether a character structures a collection that is written in brackets. -/
def isBracketing (c : Char) : Bool :=
  c = ',' || c = '[' || c = ']' || c = '\x7b' || c = '\x7d'

/-- How far a text was read. Lines and columns count from zero. -/
structure Mark where
  index : Nat := 0
  line : Nat := 0
  column : Nat := 0
deriving DecidableEq, Repr

def Mark.after (m : Mark) (c : Char) : Mark :=
  if isBreak c then ⟨m.index + 1, m.line + 1, 0⟩ else ⟨m.index + 1, m.line, m.column + 1⟩

/-- A place in a text: how far it was read, and what is left. -/
structure Cursor where
  mark : Mark := {}
  rest : List Char

namespace Cursor

def skip (n : Nat) (c : Cursor) : Cursor :=
  ⟨(c.rest.take n).foldl Mark.after c.mark, c.rest.drop n⟩

def skipWhile (p : Char → Bool) (c : Cursor) : Cursor :=
  c.skip (c.rest.takeWhile p).length

/-- Whether one of the two marks between documents stands here: the mark at the beginning of a line,
alone or before a gap. -/
def isAtDocumentMark (c : Cursor) (char : Char) : Bool :=
  c.mark.column = 0 && [char, char, char].isPrefixOf c.rest && atGap (c.rest.drop 3)

def isAtDocumentBorder (c : Cursor) : Bool :=
  c.isAtDocumentMark '-' || c.isAtDocumentMark '.'

end Cursor

/-- Goes on to the next token, over space, comments and line ends. Tabs are space only where they
cannot be taken for indentation: in brackets, and where no key can begin. At the end of a line a key
can begin again, but not in brackets. Answers also whether a key can begin. -/
def toNextToken (inBrackets : Bool) (keyAllowed inComment : Bool) (m : Mark) :
    List Char → Cursor × Bool
  | [] => (⟨m, []⟩, keyAllowed)
  | c :: rest =>
    if isBreak c then toNextToken inBrackets (keyAllowed || !inBrackets) false (m.after c) rest
    else if inComment || c = ' ' || (c = '\t' && (inBrackets || !keyAllowed)) ||
        (c = '\uFEFF' && m.index = 0) then
      toNextToken inBrackets keyAllowed inComment (m.after c) rest
    else if c = '#' then toNextToken inBrackets keyAllowed true (m.after c) rest
    else (⟨m, c :: rest⟩, keyAllowed)

end AssetAtlas.Yaml

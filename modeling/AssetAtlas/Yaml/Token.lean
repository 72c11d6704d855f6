import AssetAtlas.Decimal.Reading
import AssetAtlas.Text.Encoding
import AssetAtlas.Yaml.Scalar

/-!
YAML texts as tokens. A collection that is written by indentation gets tokens for its beginning and
end, and a key gets one in front of it. Whether something is a key shows only at the colon behind it,
so the reader remembers, for every open collection, where a key may have begun, and puts the token
there when the colon comes.

A text that stops making sense still has the tokens in front of that place. A step may add several
tokens; of a step that fails none counts, nor do tokens that a key might still begin at.
-/

namespace AssetAtlas.Yaml

/-- A smallest meaningful part of a text. -/
inductive Token where
  | version (major minor : Nat)
  | handle (name expansion : List Char)
  | documentStart | documentEnd | streamEnd
  | sequenceStart | mappingStart | blockEnd
  | openSequence | closeSequence | openMapping | closeMapping
  | entry | comma | key | value
  | alias (name : List Char)
  | anchor (name : List Char)
  | tag (handle suffix : List Char)
  | scalar (style : Style) (text : List Char)
deriving DecidableEq, Repr

/-! ## Names, tags and directives -/

def endsName : List Char → Bool
  | [] => true
  | c :: _ => isGap c || "?:,]\x7d%@\x60".toList.contains c

/-- Reads the name of an anchor behind its mark. -/
def anchorName? (c : Cursor) : Option (List Char × Cursor) :=
  let name := c.rest.takeWhile isWord
  let after := c.skip name.length
  if name.isEmpty || !endsName after.rest then none else some (name, after)

/-- Whether a character may stand for itself in a tag; `verbatim` tags may hold commas and square
brackets. -/
def isTagChar (verbatim : Bool) (c : Char) : Bool :=
  isWord c || ";/?:@&=+$.!~*\x27()".toList.contains c || (verbatim && ",[]".toList.contains c)

/-- Reads an octet that is written as two hexadecimal digits behind a percent sign. -/
def octet? : List Char → Option (Nat × List Char)
  | '%' :: a :: b :: rest => (Text.hexValue? [a, b]).map (·, rest)
  | _ => none

def octetCount? (first : Nat) : Option Nat :=
  if first < 0x80 then some 1
  else if 0xC0 ≤ first ∧ first < 0xE0 then some 2
  else if 0xE0 ≤ first ∧ first < 0xF0 then some 3
  else if 0xF0 ≤ first ∧ first < 0xF8 then some 4
  else none

def octets? : Nat → List Char → Option (List Nat × List Char)
  | 0, cs => some ([], cs)
  | n + 1, cs => do
    let (o, cs) ← octet? cs
    let (os, cs) ← octets? n cs
    return (o :: os, cs)

/-- Reads one character of a tag that is written in octets. -/
def escapedTagChar? (cs : List Char) : Option (List Char × List Char) := do
  let (first, _) ← octet? cs
  let (os, rest) ← octets? (← octetCount? first) cs
  let text ← Text.ofUtf8? ⟨(os.map UInt8.ofNat).toArray⟩
  return (text.toList, rest)

/-- Reads the characters of a tag. At most `bound` steps are taken. -/
def tagChars? (verbatim : Bool) (done : List Char) : Nat → List Char → Option (List Char × List Char)
  | 0, _ => none
  | bound + 1, cs =>
    match cs with
    | '%' :: _ => do
      let (text, rest) ← escapedTagChar? cs
      tagChars? verbatim (text.reverse ++ done) bound rest
    | c :: rest =>
      if isTagChar verbatim c then tagChars? verbatim (c :: done) bound rest
      else some (done.reverse, cs)
    | [] => some (done.reverse, [])

/-- Reads the characters of a tag behind those that were read as its handle. There must be some. -/
def tagText? (verbatim : Bool) (head : List Char) (c : Cursor) : Option (List Char × Cursor) := do
  let (text, rest) ← tagChars? verbatim [] (c.rest.length + 1) c.rest
  if head.isEmpty && text.isEmpty then none
  else return (head.drop 1 ++ text, c.skip (c.rest.length - rest.length))

/-- Reads the handle of a tag: an exclamation mark, and a name with another one if that follows. -/
def tagHandle? (c : Cursor) : Option (List Char × Cursor) :=
  match c.rest with
  | '!' :: rest =>
    let name := rest.takeWhile isWord
    let closed := if (rest.drop name.length).head? = some '!' then ['!'] else []
    let handle := '!' :: name ++ closed
    some (handle, c.skip handle.length)
  | _ => none

/-- Whether a handle stands for a text of its own and is not the beginning of the tag. -/
def isNamedHandle (handle : List Char) : Bool :=
  1 < handle.length && handle.getLast? = some '!'

/-- Reads a tag without what has to follow it. -/
def bareTag? (c : Cursor) : Option (Token × Cursor) :=
  match c.rest with
  | '!' :: '<' :: _ => do
    let (text, after) ← tagText? true [] (c.skip 2)
    if after.rest.head? = some '>' then return (.tag [] text, after.skip 1) else none
  | _ => do
    let (handle, after) ← tagHandle? c
    if isNamedHandle handle then
      let (suffix, after) ← tagText? false [] after
      return (.tag handle suffix, after)
    else
      let (suffix, after) ← tagText? false handle after
      return (if suffix.isEmpty then .tag [] ['!'] else .tag ['!'] suffix, after)

/-- Reads a tag; a gap has to follow it, or a comma in brackets. -/
def tag? (inBrackets : Bool) (c : Cursor) : Option (Token × Cursor) := do
  let (token, after) ← bareTag? c
  if atGap after.rest || (inBrackets && after.rest.head? = some ',') then return (token, after)
  else none

/-- Reads one number of a version, of at most nine digits. -/
def versionNumber? (c : Cursor) : Option (Nat × Cursor) :=
  let ds := c.rest.takeWhile Decimal.isDigit
  if ds.isEmpty ∨ 9 < ds.length then none else some (Decimal.valueOf ds, c.skip ds.length)

def version? (c : Cursor) : Option (Token × Cursor) := do
  let (major, c) ← versionNumber? (c.skipWhile isWhite)
  if c.rest.head? ≠ some '.' then none
  let (minor, c) ← versionNumber? (c.skip 1)
  return (.version major minor, c)

def handle? (c : Cursor) : Option (Token × Cursor) := do
  let (handle, c) ← tagHandle? (c.skipWhile isWhite)
  if handle ≠ ['!'] ∧ !isNamedHandle handle then none
  if !c.rest.head?.any isWhite then none
  let (expansion, c) ← tagText? true [] (c.skipWhile isWhite)
  if atGap c.rest then return (.handle handle expansion, c) else none

def directive? (c : Cursor) : Option (Token × Cursor) := do
  let name := c.rest.takeWhile isWord
  let after := c.skip name.length
  if !atGap after.rest then none
  let (token, after) ←
    if name = "YAML".toList then version? after
    else if name = "TAG".toList then handle? after
    else none
  return (token, ← nextLine? after)

/-! ## Steps -/

/-- Where a key may have begun: before which token and at which place. A key that is required has to
come, since nothing else can stand at its column. -/
structure KeyStart where
  number : Nat
  mark : Mark
  isRequired : Bool

/-- How far behind the beginning of a key its colon may be. -/
def maxKeyLength : Nat := 1024

def KeyStart.isStale (k : KeyStart) (m : Mark) : Bool :=
  k.mark.line < m.line || k.mark.index + maxKeyLength < m.index

structure Scan where
  cursor : Cursor
  /-- The columns of the open collections that are written by indentation, innermost first. -/
  columns : List Nat := []
  /-- The beginning of a key in each open collection that is written in brackets, innermost first,
  and around them. -/
  keys : List (Option KeyStart) := [none]
  keyAllowed : Bool := true
  /-- The tokens, latest first. -/
  tokens : List Token := []
  count : Nat := 0
  isFinished : Bool := false

namespace Scan

def inBrackets (s : Scan) : Bool :=
  1 < s.keys.length

/-- The least column at which something can stand inside the innermost open collection. -/
def inner (s : Scan) : Nat :=
  match s.columns with
  | [] => 0
  | column :: _ => column + 1

/-- The first of the tokens at which a key may still begin. -/
def firstKey? (s : Scan) : Option Nat :=
  (s.keys.filterMap id).getLast?.map (·.number)

/-- The tokens up to the first at which a key may still begin, first to last. -/
def settled (s : Scan) : List Token :=
  match s.firstKey? with
  | some n => (s.tokens.drop (s.count - n)).reverse
  | none => s.tokens.reverse

def push (s : Scan) (t : Token) : Scan :=
  { s with tokens := t :: s.tokens, count := s.count + 1 }

/-- Puts tokens in front of the one with the given number. -/
def insert (s : Scan) (number : Nat) (ts : List Token) : Scan :=
  let after := s.count - number
  { s with
    tokens := s.tokens.take after ++ ts.reverse ++ s.tokens.drop after
    count := s.count + ts.length }

def goto (s : Scan) (c : Cursor) : Scan :=
  { s with cursor := c }

def take (s : Scan) (n : Nat) (t : Token) : Scan :=
  (s.goto (s.cursor.skip n)).push t

def allowKey (s : Scan) (allowed : Bool) : Scan :=
  { s with keyAllowed := allowed }

/-- Forgets the keys for which it is too late; a required one must not be among them. -/
def dropStale (s : Scan) : Option Scan :=
  let isLate (k : Option KeyStart) : Bool := k.any (·.isStale s.cursor.mark)
  if s.keys.any fun k => isLate k && k.any (·.isRequired) then none
  else some { s with keys := s.keys.map fun k => if isLate k then none else k }

/-- Forgets the beginning of a key in the innermost collection; it must not be required. -/
def forgetKey (s : Scan) : Option Scan :=
  match s.keys with
  | some k :: outer => if k.isRequired then none else some { s with keys := none :: outer }
  | _ => some s

def rememberKey (s : Scan) : Option Scan := do
  if !s.keyAllowed then return s
  let mark := s.cursor.mark
  let key : KeyStart :=
    { number := s.count, mark, isRequired := !s.inBrackets && s.columns.head? = some mark.column }
  let s ← s.forgetKey
  return { s with keys := some key :: s.keys.drop 1 }

/-- Opens a collection at a column, if it is further in than the innermost open one. -/
def indent (s : Scan) (column : Nat) (number : Nat) (t : Token) : Scan :=
  if s.inBrackets || column < s.inner then s
  else { s.insert number [t] with columns := column :: s.columns }

/-- Closes the collections that are further in than a column, or all. -/
def dedent (s : Scan) (column : Option Nat) : Scan :=
  if s.inBrackets then s
  else
    let closed := s.columns.takeWhile fun c => column.all (· < c)
    closed.foldl (fun s _ => s.push .blockEnd) { s with columns := s.columns.drop closed.length }

/-- The end of the text. It is too late then for every key. -/
def finish (s : Scan) : Option Scan :=
  if s.keys.any fun k => k.any (·.isRequired) then none
  else some { (s.dedent none).push .streamEnd with isFinished := true }

def documentMark (s : Scan) (t : Token) : Option Scan := do
  let s ← (s.dedent none).forgetKey
  return (s.take 3 t).allowKey false

def directive (s : Scan) : Option Scan := do
  let s ← (s.dedent none).forgetKey
  let (token, after) ← directive? (s.cursor.skip 1)
  return ((s.goto after).push token).allowKey false

def openBracket (s : Scan) (t : Token) : Option Scan := do
  let s ← s.rememberKey
  return ({ s with keys := none :: s.keys }.take 1 t).allowKey true

def closeBracket (s : Scan) (t : Token) : Option Scan := do
  let s ← s.forgetKey
  let keys := match s.keys with
    | _ :: k :: outer => k :: outer
    | keys => keys
  return ({ s with keys }.take 1 t).allowKey false

def comma (s : Scan) : Option Scan := do
  let s ← s.forgetKey
  return (s.take 1 .comma).allowKey true

def entry (s : Scan) : Option Scan := do
  if !s.inBrackets && !s.keyAllowed then none
  let s ← (s.indent s.cursor.mark.column s.count .sequenceStart).forgetKey
  return (s.take 1 .entry).allowKey true

/-- The mark in front of a key that is not simple. -/
def key (s : Scan) : Option Scan := do
  if !s.inBrackets && !s.keyAllowed then none
  let s ← (s.indent s.cursor.mark.column s.count .mappingStart).forgetKey
  return (s.take 1 .key).allowKey (!s.inBrackets)

/-- The colon between a key and its value. -/
def value (s : Scan) : Option Scan :=
  match s.keys with
  | some k :: outer =>
    let s := { s.insert k.number [.key] with keys := none :: outer }
    let s := s.indent k.mark.column k.number .mappingStart
    some ((s.take 1 .value).allowKey false)
  | _ =>
    if s.inBrackets then some ((s.take 1 .value).allowKey false)
    else if s.keyAllowed then
      let s := s.indent s.cursor.mark.column s.count .mappingStart
      some ((s.take 1 .value).allowKey true)
    else none

/-- A token at which a key can begin. -/
def word (s : Scan) (read : Cursor → Option (Token × Cursor)) : Option Scan := do
  let s ← s.rememberKey
  let (token, after) ← read s.cursor
  return ((s.goto after).push token).allowKey false

/-- A plain scalar. If it ends on a later line, a key can begin there. -/
def plain (s : Scan) : Option Scan := do
  let s ← s.rememberKey
  let (text, isLeft, after) ← Yaml.plain s.inBrackets s.inner [] {} s.cursor.mark s.cursor.rest
  return ((s.goto after).push (.scalar .plain text)).allowKey isLeft

def block (s : Scan) (literal : Bool) : Option Scan := do
  let s ← s.forgetKey
  let (text, after) ← Yaml.block literal s.inner (s.cursor.skip 1)
  let style := if literal then .literal else .quotedOrFolded
  return ((s.goto after).push (.scalar style text)).allowKey true

def quoted? (read : Cursor → Option (List Char × Cursor)) (c : Cursor) : Option (Token × Cursor) :=
  (read (c.skip 1)).map fun (text, after) => (.scalar .quotedOrFolded text, after)

def startsPlain (s : Scan) (c : Char) (rest : List Char) : Bool :=
  !isGap c && !"-?:,[]\x7b\x7d#&*!|>\x27\x22%@\x60".toList.contains c ||
    c = '-' && !rest.head?.any isWhite ||
    !s.inBrackets && (c = '?' || c = ':') && !atGap rest

def takeToken (s : Scan) (c : Char) (rest : List Char) : Option Scan :=
  if s.cursor.mark.column = 0 ∧ c = '%' then s.directive
  else if s.cursor.isAtDocumentMark '-' then s.documentMark .documentStart
  else if s.cursor.isAtDocumentMark '.' then s.documentMark .documentEnd
  else if c = '[' then s.openBracket .openSequence
  else if c = '\x7b' then s.openBracket .openMapping
  else if c = ']' then s.closeBracket .closeSequence
  else if c = '\x7d' then s.closeBracket .closeMapping
  else if c = ',' then s.comma
  else if c = '-' ∧ atGap rest then s.entry
  else if c = '?' ∧ (s.inBrackets ∨ atGap rest) then s.key
  else if c = ':' ∧ (s.inBrackets ∨ atGap rest) then s.value
  else if c = '*' then
    s.word fun c => (anchorName? (c.skip 1)).map fun (name, after) => (.alias name, after)
  else if c = '&' then
    s.word fun c => (anchorName? (c.skip 1)).map fun (name, after) => (.anchor name, after)
  else if c = '!' then s.word (tag? s.inBrackets)
  else if c = '|' ∧ !s.inBrackets then s.block true
  else if c = '>' ∧ !s.inBrackets then s.block false
  else if c = '\x27' then s.word (quoted? fun c => singleQuoted [] {} c.mark c.rest)
  else if c = '\x22' then s.word (quoted? fun c => doubleQuoted [] {} (c.rest.length + 1) c)
  else if s.startsPlain c rest then s.plain
  else none

def step (s : Scan) : Option Scan := do
  let (cursor, keyAllowed) :=
    toNextToken s.inBrackets s.keyAllowed false s.cursor.mark s.cursor.rest
  let s ← { s with cursor, keyAllowed }.dropStale
  match cursor.rest with
  | [] => s.finish
  | c :: rest =>
    let s ← (s.dedent (some cursor.mark.column)).takeToken c rest
    s.dropStale

/-- Takes step after step. Each takes at least one character. -/
def run : Nat → Scan → List Token
  | 0, s => s.settled
  | bound + 1, s =>
    if s.isFinished then s.tokens.reverse
    else match s.step with
      | some next => run bound next
      | none => s.settled

end Scan

/-- The tokens of a text; the last is the end of the text unless that stops making sense. -/
def tokens (s : String) : List Token :=
  if s.toList.all isAllowed then
    let cs := unifyBreaks s.toList
    Scan.run (cs.length + 2) { cursor := { rest := cs } }
  else []

end AssetAtlas.Yaml

import AssetAtlas.Text.Hexadecimal
import AssetAtlas.Yaml.Cursor

/-!
Scalars, in the three ways in which they are written: plain, in quotes, and as a block of lines. In
each of them a line end inside the text may stand for a space or be left out.
-/

namespace AssetAtlas.Yaml

/-- How a scalar is written, as far as it matters for its meaning. -/
inductive Style where
  | plain
  | literal
  | quotedOrFolded
deriving DecidableEq, Repr

/-- What stands between two parts of a text that is folded: space on a line, or line ends. -/
structure Gap where
  /-- The space on the line, latest first. -/
  whites : List Char := []
  /-- The first line end, if there is one; it is empty if it was escaped. -/
  lineEnd : Option (List Char) := none
  /-- The further line ends, latest first. -/
  moreEnds : List Char := []

namespace Gap

def isEmpty (g : Gap) : Bool :=
  g.whites.isEmpty && g.lineEnd.isNone

/-- The gap with one more space or line end. Space around line ends is dropped. -/
def add (g : Gap) (c : Char) : Gap :=
  match isBreak c, g.lineEnd with
  | false, none => { g with whites := c :: g.whites }
  | false, some _ => g
  | true, none => { whites := [], lineEnd := some [c] }
  | true, some _ => { g with moreEnds := c :: g.moreEnds }

/-- What a gap stands for. A single line feed is a space, and of several the first is left out; other
line ends are kept. -/
def text (g : Gap) : List Char :=
  match g.lineEnd with
  | none => g.whites.reverse
  | some ['\n'] => if g.moreEnds.isEmpty then [' '] else g.moreEnds.reverse
  | some first => first ++ g.moreEnds.reverse

end Gap

/-- Puts a gap and what follows it behind a text; both texts have their latest character first. -/
def append (done : List Char) (g : Gap) (next : List Char) : List Char :=
  next ++ g.text.reverse ++ done

/-! ## Plain scalars -/

/-- Whether a plain scalar ends before what is left: at the colon of a key, and in brackets at a
bracket or comma. -/
def endsPlain (inBrackets : Bool) : List Char → Bool
  | ':' :: rest => atGap rest
  | c :: _ => inBrackets && isBracketing c
  | [] => true

/-- Whether what is left cannot stand in brackets: a colon in front of a bracket or comma. -/
def isStrayColon (inBrackets : Bool) : List Char → Bool
  | ':' :: c :: _ => inBrackets && (isBracketing c || c = '?')
  | _ => false

/-- Reads a plain scalar. It goes on over line ends as long as the lines are indented by at least
`indent` columns, and stops before a comment and between documents. Answers the text, whether it was
left for another line, and the place. -/
def plain (inBrackets : Bool) (indent : Nat) (done : List Char) (gap : Gap) (m : Mark) :
    List Char → Option (List Char × Bool × Cursor)
  | [] => some (done.reverse, gap.lineEnd.isSome, ⟨m, []⟩)
  | c :: rest =>
    let here : Cursor := ⟨m, c :: rest⟩
    let stop := some (done.reverse, gap.lineEnd.isSome, here)
    if isGap c then
      if c = '\t' && gap.lineEnd.isSome && m.column < indent then none
      else plain inBrackets indent done (gap.add c) (m.after c) rest
    else if !gap.isEmpty && (c = '#' || here.isAtDocumentBorder ||
        (!inBrackets && gap.lineEnd.isSome && m.column < indent)) then stop
    else if isStrayColon inBrackets (c :: rest) then none
    else if endsPlain inBrackets (c :: rest) then stop
    else plain inBrackets indent (append done gap [c]) {} (m.after c) rest

/-! ## Quoted scalars -/

/-- Reads a scalar in single quotes behind the opening one; a quote inside is written twice. -/
def singleQuoted (done : List Char) (gap : Gap) (m : Mark) :
    List Char → Option (List Char × Cursor)
  | [] => none
  | '\x27' :: '\x27' :: rest =>
    singleQuoted (append done gap ['\x27']) {} ((m.after '\x27').after '\x27') rest
  | '\x27' :: rest => some ((append done gap []).reverse, ⟨m.after '\x27', rest⟩)
  | c :: rest =>
    if isGap c then singleQuoted done (gap.add c) (m.after c) rest
    else if Cursor.isAtDocumentBorder ⟨m, c :: rest⟩ then none
    else singleQuoted (append done gap [c]) {} (m.after c) rest

def escaped? : Char → Option Char
  | '0' => some '\x00'
  | 'a' => some '\x07'
  | 'b' => some '\x08'
  | 't' | '\t' => some '\t'
  | 'n' => some '\n'
  | 'v' => some '\x0b'
  | 'f' => some '\x0c'
  | 'r' => some '\r'
  | 'e' => some '\x1b'
  | ' ' => some ' '
  | '\x22' => some '\x22'
  | '/' => some '/'
  | '\\' => some '\\'
  | 'N' => some '\x85'
  | '_' => some '\xa0'
  | 'L' => some '\u2028'
  | 'P' => some '\u2029'
  | _ => none

/-- How many hexadecimal digits follow the letter of a numeric escape. -/
def escapeLength? : Char → Option Nat
  | 'x' => some 2
  | 'u' => some 4
  | 'U' => some 8
  | _ => none

/-- Reads an escape behind its backslash: the character it stands for and how many characters it
takes. -/
def escape? (cs : List Char) : Option (Char × Nat) := do
  let c ← cs.head?
  match escapeLength? c with
  | none => return (← escaped? c, 1)
  | some n =>
    let ds := (cs.drop 1).take n
    if ds.length < n then none
    else return (← Text.character? (← Text.hexValue? ds), 1 + n)

/-- Reads a scalar in double quotes behind the opening one. At most `bound` steps are taken; a text
needs no more of them than it has characters. -/
def doubleQuoted (done : List Char) (gap : Gap) : Nat → Cursor → Option (List Char × Cursor)
  | 0, _ => none
  | bound + 1, here =>
    match here.rest with
    | [] => none
    | c :: rest =>
      if isGap c then doubleQuoted done (gap.add c) bound (here.skip 1)
      else if here.isAtDocumentBorder then none
      else if c = '\x22' then some ((append done gap []).reverse, here.skip 1)
      else if c = '\\' then
        if rest.head?.any isBreak then
          doubleQuoted (append done gap []) { lineEnd := some [] } bound (here.skip 2)
        else do
          let (e, n) ← escape? rest
          doubleQuoted (append done gap [e]) {} bound (here.skip (1 + n))
      else doubleQuoted (append done gap [c]) {} bound (here.skip 1)

/-! ## Blocks -/

/-- What becomes of the line ends at the end of a block. -/
inductive Chomping where
  | strip | clip | keep
deriving DecidableEq, Repr

def chomping? : List Char → Option (Chomping × List Char)
  | '+' :: rest => some (.keep, rest)
  | '-' :: rest => some (.strip, rest)
  | _ => none

/-- Reads the indentation of a block, a digit from 1 to 9. -/
def increment? : List Char → Option (Nat × List Char)
  | c :: rest => if '1' ≤ c ∧ c ≤ '9' then some (c.toNat - '0'.toNat, rest) else none
  | [] => none

/-- Reads the marks of a block in either order, each of which may be missing. -/
def blockMarks (cs : List Char) : Chomping × Option Nat × List Char :=
  match chomping? cs with
  | some (chomping, rest) =>
    match increment? rest with
    | some (n, rest) => (chomping, some n, rest)
    | none => (chomping, none, rest)
  | none =>
    match increment? cs with
    | some (n, rest) =>
      match chomping? rest with
      | some (chomping, rest) => (chomping, some n, rest)
      | none => (.clip, some n, rest)
    | none => (.clip, none, cs)

/-- The place on the next line, over space and a comment. -/
def nextLine? (c : Cursor) : Option Cursor :=
  let c := c.skipWhile isWhite
  let c := if c.rest.head? = some '#' then c.skipWhile (!isBreak ·) else c
  match c.rest with
  | [] => some c
  | b :: _ => if isBreak b then some (c.skip 1) else none

/-- Goes over empty lines and the indentation of a line, of at most `indent` columns if that is
known. Answers the line ends, latest first, the widest indentation, and the place. -/
def blockBreaks (indent : Option Nat) (breaks : List Char) (widest : Nat) (m : Mark) :
    List Char → Option (List Char × Nat × Cursor)
  | [] => some (breaks, max widest m.column, ⟨m, []⟩)
  | c :: rest =>
    let inside := indent.all (m.column < ·)
    if inside && c = ' ' then blockBreaks indent breaks widest (m.after c) rest
    else if inside && c = '\t' then none
    else if isBreak c then
      blockBreaks indent (c :: breaks) (max widest m.column) (m.after c) rest
    else some (breaks, max widest m.column, ⟨m, c :: rest⟩)

structure Block where
  /-- The text without the line end of the last line, latest character first. -/
  done : List Char := []
  /-- The end of the last line, if there is one. -/
  lineEnd : List Char := []
  /-- The ends of the empty lines behind it, latest first. -/
  breaks : List Char
  /-- Whether the last line starts with space; such lines are not folded. -/
  isIndented : Bool := false

def Block.addLine (literal : Bool) (b : Block) (line : List Char) : Block :=
  let isIndented := line.head?.any isWhite
  let isFolded := !literal && b.lineEnd = ['\n'] && !b.isIndented && !isIndented
  let between := if isFolded then (if b.breaks.isEmpty then [' '] else []) else b.lineEnd
  { b with done := line.reverse ++ b.breaks ++ between ++ b.done, isIndented }

def Block.text (chomping : Chomping) (b : Block) : List Char :=
  let tail := match chomping with
    | .strip => []
    | .clip => b.lineEnd
    | .keep => b.breaks ++ b.lineEnd
  (tail ++ b.done).reverse

/-- Reads the lines of a block, each indented by `indent` columns. At most `bound` of them; a text
has no more lines than characters. -/
def blockLines (literal : Bool) (indent : Nat) : Nat → Block → Cursor → Option (Block × Cursor)
  | 0, _, _ => none
  | bound + 1, b, here =>
    if here.mark.column = indent ∧ !here.rest.isEmpty then do
      let b := b.addLine literal (here.rest.takeWhile (!isBreak ·))
      let lineEnd := here.skipWhile (!isBreak ·)
      let next := lineEnd.skip 1
      let (breaks, _, after) ← blockBreaks (some indent) [] 0 next.mark next.rest
      blockLines literal indent bound
        { b with lineEnd := lineEnd.rest.take 1, breaks } after
    else some (b, here)

/-- Reads a block behind its first character. Its indentation is more than that of the collection
around it, if there is one, and `outer` is the least such indentation. A given one counts from that
of the collection, or from zero. -/
def block (literal : Bool) (outer : Nat) (start : Cursor) : Option (List Char × Cursor) := do
  let (chomping, increment, rest) := blockMarks start.rest
  let first ← nextLine? (start.skip (start.rest.length - rest.length))
  let given := increment.map (outer - 1 + ·)
  let (breaks, widest, here) ← blockBreaks given [] 0 first.mark first.rest
  let indent := given.getD (max (max widest outer) 1)
  let (b, after) ← blockLines literal indent (here.rest.length + 1) { breaks } here
  return (b.text chomping, after)

end AssetAtlas.Yaml

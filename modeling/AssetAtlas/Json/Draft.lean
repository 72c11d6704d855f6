import AssetAtlas.Json.Value
import AssetAtlas.Text.Hexadecimal

/-!
JSON texts. Reading goes in three steps: the text is cut into lexemes, the lexemes are assembled
into a draft, and the draft is turned into a value. A draft keeps what the text says before anything
is decided about it: members in their order and with repetitions, and literals that are well formed
but denote nothing, such as a number out of range. A record can therefore ignore members that no
value could be made of, and refuse a member that is written twice.
-/

namespace AssetAtlas

/-- What a JSON text says. A number or string that denotes nothing is absent. -/
inductive Draft where
  | null
  | bool (b : Bool)
  | number (n : Option Number)
  | string (s : Option String)
  | array (items : List Draft)
  | object (members : List (Option String × Draft))
deriving Inhabited

namespace Draft

/-! ## Lexemes -/

/-- A smallest meaningful part of a JSON text. -/
inductive Lexeme where
  | openArray | closeArray | openObject | closeObject | comma | colon
  | null
  | bool (b : Bool)
  | number (n : Option Number)
  | string (s : Option String)
  /-- What is no lexeme; nothing after it is looked at. -/
  | malformed

def escaped? : Char → Option Char
  | '\x22' => some '\x22'
  | '\\' => some '\\'
  | '/' => some '/'
  | 'b' => some '\x08'
  | 'f' => some '\x0c'
  | 'n' => some '\n'
  | 'r' => some '\r'
  | 't' => some '\t'
  | _ => none

/-- Reads the inside of a string up to its closing quote: plain characters, and the code units of
numeric escapes on the right. The units so far are in front, latest first. -/
def units? (done : List (Sum Char Nat)) : List Char → Option (List (Sum Char Nat) × List Char)
  | [] => none
  | '\x22' :: rest => some (done.reverse, rest)
  | '\\' :: 'u' :: a :: b :: c :: d :: rest =>
    match Text.hexValue? [a, b, c, d] with
    | some u => units? (.inr u :: done) rest
    | none => none
  | '\\' :: c :: rest =>
    match escaped? c with
    | some c => units? (.inl c :: done) rest
    | none => none
  | c :: rest => if c.toNat < 0x20 ∨ c = '\\' then none else units? (.inl c :: done) rest

/-- Joins surrogate pairs; a surrogate without its partner denotes nothing. -/
def joinUnits? (done : List Char) : List (Sum Char Nat) → Option (List Char)
  | [] => some done.reverse
  | .inl c :: rest => joinUnits? (c :: done) rest
  | .inr u :: rest =>
    if 0xD800 ≤ u ∧ u ≤ 0xDBFF then
      match rest with
      | .inr v :: rest =>
        if 0xDC00 ≤ v ∧ v ≤ 0xDFFF then
          joinUnits? (Char.ofNat (0x10000 + 1024 * (u - 0xD800) + (v - 0xDC00)) :: done) rest
        else none
      | _ => none
    else if 0xDC00 ≤ u ∧ u ≤ 0xDFFF then none
    else joinUnits? (Char.ofNat u :: done) rest

/-- The fraction of a number, its digits without the point, or the text as it is. -/
def fraction? : List Char → Option (Option (List Char) × List Char)
  | '.' :: rest =>
    let ds := rest.takeWhile Decimal.isDigit
    if ds.isEmpty then none else some (some ds, rest.dropWhile Decimal.isDigit)
  | cs => some (none, cs)

/-- The exponent of a number, or the text as it is. -/
def exponent? : List Char → Option (Option Int × List Char)
  | c :: rest =>
    if c = 'e' ∨ c = 'E' then
      let (negative, rest) := match rest with
        | '-' :: rest => (true, rest)
        | '+' :: rest => (false, rest)
        | _ => (false, rest)
      let ds := rest.takeWhile Decimal.isDigit
      if ds.isEmpty then none
      else
        let e : Int := Decimal.valueOf ds
        some (some (if negative then -e else e), rest.dropWhile Decimal.isDigit)
    else some (none, c :: rest)
  | [] => some (none, [])

/-- The number with the given parts. Without fraction and exponent it is a whole number if one of 64
bits denotes it. -/
def numberOf (negative : Bool) (whole : List Char) (fraction : Option (List Char))
    (exponent : Option Int) : Option Number :=
  let n := Decimal.valueOf whole
  let isWhole := fraction.isNone && exponent.isNone
  if isWhole && !negative && n ≤ Decimal.wordMax then some (.natural (.ofNat n))
  else if isWhole && negative && n ≠ 0 && n ≤ Nat.pow 2 63 then some (.negative (.ofInt (-n)))
  else
    (Decimal.Parts.scaled? ⟨whole, fraction.getD [], exponent.getD 0⟩).map fun x =>
      .real (if negative then -x else x)

/-- Reads an unsigned number; a zero is not followed by digits. -/
def number? (negative : Bool) (cs : List Char) : Option (Option Number × List Char) :=
  let whole := cs.takeWhile Decimal.isDigit
  if whole.isEmpty ∨ whole.head? = some '0' ∧ 1 < whole.length then none
  else do
    let (fraction, rest) ← fraction? (cs.dropWhile Decimal.isDigit)
    let (exponent, rest) ← exponent? rest
    return (numberOf negative whole fraction exponent, rest)

def isSpace (c : Char) : Bool :=
  c = ' ' || c = '\n' || c = '\t' || c = '\r'

/-- The first lexeme of a text that does not start with space, and what follows it. -/
def lexeme : List Char → Lexeme × List Char
  | '[' :: rest => (.openArray, rest)
  | ']' :: rest => (.closeArray, rest)
  | '\x7b' :: rest => (.openObject, rest)
  | '\x7d' :: rest => (.closeObject, rest)
  | ',' :: rest => (.comma, rest)
  | ':' :: rest => (.colon, rest)
  | '\x22' :: rest =>
    match units? [] rest with
    | some (units, rest) => (.string ((joinUnits? [] units).map String.ofList), rest)
    | none => (.malformed, rest)
  | 'n' :: 'u' :: 'l' :: 'l' :: rest => (.null, rest)
  | 't' :: 'r' :: 'u' :: 'e' :: rest => (.bool true, rest)
  | 'f' :: 'a' :: 'l' :: 's' :: 'e' :: rest => (.bool false, rest)
  | '-' :: rest =>
    match number? true rest with
    | some (n, rest) => (.number n, rest)
    | none => (.malformed, rest)
  | cs =>
    match number? false cs with
    | some (n, rest) => (.number n, rest)
    | none => (.malformed, cs)

/-- The lexemes of a text, each with the number of characters behind it. At most `bound` of them;
a text has no more lexemes than characters. -/
def lexemesWithin : Nat → List Char → List (Lexeme × Nat)
  | 0, _ => []
  | bound + 1, cs =>
    match cs.dropWhile isSpace with
    | [] => []
    | c :: rest =>
      match lexeme (c :: rest) with
      | (.malformed, rest) => [(.malformed, rest.length)]
      | (l, rest) => (l, rest.length) :: lexemesWithin bound rest

/-! ## Assembly -/

/-- A container that is still open, its parts latest first. -/
inductive Frame where
  | array (done : List Draft)
  | object (done : List (Option String × Draft))
  | member (done : List (Option String × Draft)) (key : Option String)

inductive Slot where
  | value | firstValue | key | firstKey | colon | separator
  | finished (d : Draft)

/-- Puts a finished draft into the innermost open container. -/
def place (d : Draft) : List Frame → List Frame × Slot
  | [] => ([], .finished d)
  | .array done :: outer => (.array (d :: done) :: outer, .separator)
  | .member done key :: outer => (.object ((key, d) :: done) :: outer, .separator)
  | .object done :: outer => (.object done :: outer, .separator)

def takeValue (stack : List Frame) : Lexeme → Option (List Frame × Slot)
  | .openArray => some (.array [] :: stack, .firstValue)
  | .openObject => some (.object [] :: stack, .firstKey)
  | .null => some (place .null stack)
  | .bool b => some (place (.bool b) stack)
  | .number n => some (place (.number n) stack)
  | .string s => some (place (.string s) stack)
  | _ => none

def close : List Frame → Lexeme → Option (List Frame × Slot)
  | .array done :: outer, .closeArray => some (place (.array done.reverse) outer)
  | .object done :: outer, .closeObject => some (place (.object done.reverse) outer)
  | _, _ => none

/-- Takes one lexeme, if it may come next. -/
def step (stack : List Frame) : Slot → Lexeme → Option (List Frame × Slot)
  | .value, l => takeValue stack l
  | .firstValue, .closeArray => close stack .closeArray
  | .firstValue, l => takeValue stack l
  | .firstKey, .closeObject => close stack .closeObject
  | .firstKey, .string key | .key, .string key =>
    match stack with
    | .object done :: outer => some (.member done key :: outer, .colon)
    | _ => none
  | .colon, .colon => some (stack, .value)
  | .separator, .comma =>
    match stack with
    | .array _ :: _ => some (stack, .value)
    | .object _ :: _ => some (stack, .key)
    | _ => none
  | .separator, l => close stack l
  | _, _ => none

/-- What a text turned out to be: a whole draft, or a text that stops making sense, with the items of
its outermost array that were complete by then and the number of characters that were left. -/
inductive Outcome where
  | complete (d : Draft)
  | broken (items : List Draft) (left : Nat)

def outerItems (stack : List Frame) (slot : Slot) : List Draft :=
  match stack.getLast?, slot with
  | some (.array done), _ => done.reverse
  | none, .finished (.array items) => items
  | _, _ => []

def assemble (stack : List Frame) (slot : Slot) : List (Lexeme × Nat) → Outcome
  | [] =>
    match slot with
    | .finished d => .complete d
    | _ => .broken (outerItems stack slot) 0
  | (l, left) :: rest =>
    match step stack slot l with
    | some (stack, slot) => assemble stack slot rest
    | none => .broken (outerItems stack slot) left

def ofText (s : String) : Outcome :=
  assemble [] .value (lexemesWithin s.length s.toList)

/-! ## Values -/

mutual

/-- The value that a draft denotes, if no array or object in it is nested deeper than `depth`. -/
def value? : Nat → Draft → Option Json
  | _, .null => some .null
  | _, .bool b => some (.bool b)
  | _, .number n => n.map .number
  | _, .string s => s.map .string
  | 0, .array _ => none
  | 0, .object _ => none
  | depth + 1, .array items => (values? depth items).map .array
  | depth + 1, .object members =>
    (members? depth members).map fun l => Json.ofProperties (.ofList l)

def values? : Nat → List Draft → Option (List Json)
  | _, [] => some []
  | depth, d :: rest => do
    let v ← value? depth d
    let vs ← values? depth rest
    return v :: vs

def members? : Nat → List (Option String × Draft) → Option (List (String × Json))
  | _, [] => some []
  | depth, (key, d) :: rest => do
    let key ← key
    let v ← value? depth d
    let vs ← members? depth rest
    return (key, v) :: vs

end

mutual

def ofJson : Json → Draft
  | .null => .null
  | .bool b => .bool b
  | .number n => .number (some n)
  | .string s => .string (some s)
  | .array items => .array (ofItems items)
  | .object members => .object (ofMembers members)

def ofItems : List Json → List Draft
  | [] => []
  | j :: rest => ofJson j :: ofItems rest

def ofMembers : List (String × Json) → List (Option String × Draft)
  | [] => []
  | (key, j) :: rest => (some key, ofJson j) :: ofMembers rest

end

def maxDepth : Nat := 127

end Draft

inductive JsonFault where
  /-- The text stops making sense at this place. -/
  | malformed (line column : Nat)
  /-- It is well formed, but a part of it denotes nothing or is nested too deeply. -/
  | meaningless (line column : Nat)
deriving DecidableEq, Repr

/-- The text of a fault, which ends in the place. -/
def JsonFault.message : JsonFault → String
  | .malformed line column => s!"unexpected text at line {line} column {column}"
  | .meaningless line column => s!"value out of range at line {line} column {column}"

namespace Draft

/-- The line and the column of the character that has `left` characters behind it. -/
def placeOf (s : String) (left : Nat) : Nat × Nat :=
  let before := s.toList.take (s.length - left)
  (1 + before.count '\n', (before.reverse.takeWhile (· != '\n')).length)

end Draft

def Json.ofText (s : String) : Except JsonFault Json :=
  match Draft.ofText s with
  | .complete d =>
    match d.value? Draft.maxDepth with
    | some j => .ok j
    | none =>
      let (line, column) := Draft.placeOf s 0
      .error (.meaningless line column)
  | .broken _ left =>
    let (line, column) := Draft.placeOf s left
    .error (.malformed line column)

end AssetAtlas

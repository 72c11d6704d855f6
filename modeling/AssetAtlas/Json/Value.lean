import AssetAtlas.Decimal.Style
import AssetAtlas.Decimal.Reading
import AssetAtlas.Dictionary
import AssetAtlas.Text.Blank

/-!
JSON values. Whole numbers that fit a 64-bit word are kept apart from binary64 numbers, because the
two are written differently and only the former are exact. The members of an object ascend by key
when the value comes from a text or from a dictionary.
-/

namespace AssetAtlas

inductive Number where
  /-- A whole number from 0 to 2⁶⁴ - 1. -/
  | natural (n : UInt64)
  /-- A whole number from -2⁶³ to -1. -/
  | negative (n : Int64)
  /-- Every other number. -/
  | real (x : Float)
deriving DecidableEq, Inhabited

namespace Number

/-- The decimal text of a number; one that is not whole keeps a point or an exponent. -/
def text : Number → String
  | .natural n => toString n.toNat
  | .negative n => toString n.toInt
  | .real x => if x.isFinite then Decimal.Style.data.text x else "null"

def toFloat : Number → Float
  | .natural n => n.toFloat
  | .negative n => n.toFloat
  | .real x => x

/-- The count that a number stands for: its whole part, capped at the largest word. Negative numbers
are no counts. -/
def count? : Number → Option UInt64
  | .natural n => some n
  | .negative _ => none
  | .real x => if 0 ≤ x then some x.toUInt64 else none

end Number

inductive Json where
  | null
  | bool (b : Bool)
  | number (n : Number)
  | string (s : String)
  | array (items : List Json)
  | object (members : List (String × Json))
deriving Inhabited

abbrev Properties := Dictionary Json

namespace Json

mutual

def decEq : (a b : Json) → Decidable (a = b)
  | .null, .null => isTrue rfl
  | .bool a, .bool b => if h : a = b then isTrue (h ▸ rfl) else isFalse (by simpa using h)
  | .number a, .number b => if h : a = b then isTrue (h ▸ rfl) else isFalse (by simpa using h)
  | .string a, .string b => if h : a = b then isTrue (h ▸ rfl) else isFalse (by simpa using h)
  | .array a, .array b =>
    match decEqItems a b with
    | isTrue h => isTrue (h ▸ rfl)
    | isFalse h => isFalse (by simpa using h)
  | .object a, .object b =>
    match decEqMembers a b with
    | isTrue h => isTrue (h ▸ rfl)
    | isFalse h => isFalse (by simpa using h)
  | .null, .bool _ | .null, .number _ | .null, .string _ | .null, .array _ | .null, .object _
  | .bool _, .null | .bool _, .number _ | .bool _, .string _ | .bool _, .array _
  | .bool _, .object _
  | .number _, .null | .number _, .bool _ | .number _, .string _ | .number _, .array _
  | .number _, .object _
  | .string _, .null | .string _, .bool _ | .string _, .number _ | .string _, .array _
  | .string _, .object _
  | .array _, .null | .array _, .bool _ | .array _, .number _ | .array _, .string _
  | .array _, .object _
  | .object _, .null | .object _, .bool _ | .object _, .number _ | .object _, .string _
  | .object _, .array _ => isFalse (by simp)

def decEqItems : (a b : List Json) → Decidable (a = b)
  | [], [] => isTrue rfl
  | [], _ :: _ | _ :: _, [] => isFalse (by simp)
  | a :: as, b :: bs =>
    match decEq a b, decEqItems as bs with
    | isTrue h, isTrue hs => isTrue (h ▸ hs ▸ rfl)
    | isFalse h, _ => isFalse (by simp [h])
    | _, isFalse hs => isFalse (by simp [hs])

def decEqMembers : (a b : List (String × Json)) → Decidable (a = b)
  | [], [] => isTrue rfl
  | [], _ :: _ | _ :: _, [] => isFalse (by simp)
  | (k, a) :: as, (l, b) :: bs =>
    if h : k = l then
      match decEq a b, decEqMembers as bs with
      | isTrue ha, isTrue hs => isTrue (h ▸ ha ▸ hs ▸ rfl)
      | isFalse ha, _ => isFalse (by simp [ha])
      | _, isFalse hs => isFalse (by simp [hs])
    else isFalse (by simp [h])

end

instance : DecidableEq Json := decEq

def ofProperties (p : Properties) : Json :=
  .object p.entries

def properties? : Json → Option Properties
  | .object members => some (.ofList members)
  | _ => none

/-- The member of an object under a key; of members with one key the last counts. -/
def member? (j : Json) (key : String) : Option Json :=
  j.properties?.bind (·.find? key)

def string? : Json → Option String
  | .string s => some s
  | _ => none

def bool? : Json → Option Bool
  | .bool b => some b
  | _ => none

def items? : Json → Option (List Json)
  | .array items => some items
  | _ => none

def natural? : Json → Option UInt64
  | .number (.natural n) => some n
  | _ => none

def ofNat (n : Nat) : Json :=
  .number (.natural (.ofNat n))

/-- The count that a value stands for: a number that is not negative, or the decimal text of one. -/
def count? : Json → Option UInt64
  | .number n => n.count?
  | .string s => Decimal.word? (Text.trimChars s.toList)
  | _ => none

/-- The columns of a record with the given names: the members of an object under these names, or
the items of an array in the order of the names. Other members are ignored; further items are
refused. -/
def columns? (names : List String) : Json → Option (List (Option Json))
  | .object members => some (names.map (Dictionary.ofList members).find?)
  | .array items =>
    if items.length ≤ names.length then
      some (items.map some ++ List.replicate (names.length - items.length) none)
    else none
  | _ => none

end Json

end AssetAtlas

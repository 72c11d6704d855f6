import AssetAtlas.Decimal.Reading
import AssetAtlas.TreeFormat
import AssetAtlas.Yaml.Node

/-!
What the nodes of a YAML document denote. A text is whatever a scalar says; a number, a truth value
or null has to be plain, or a block of lines with the tag of its kind. What is written as nothing is
an empty record and an empty list.
-/

namespace AssetAtlas.Yaml

def coreTag (kind : String) : List Char :=
  "tag:yaml.org,2002:".toList ++ kind.toList

def isNullText (s : String) : Bool :=
  ["null", "Null", "NULL", "~"].contains s

def boolOf? (s : String) : Option Bool :=
  if ["true", "True", "TRUE"].contains s then some true
  else if ["false", "False", "FALSE"].contains s then some false
  else none

def baseDigit? (base : Nat) (c : Char) : Option Nat :=
  (Text.hexDigit? c).bind fun d => if d < base then some d else none

def natural? (base : Nat) (ds : List Char) : Option Nat :=
  if ds.isEmpty then none
  else ds.foldlM (fun n c => (baseDigit? base c).map (base * n + ·)) 0

/-- The number that digits denote behind a mark for their base. -/
def marked? : List Char → Option Nat
  | '0' :: 'x' :: ds => natural? 16 ds
  | '0' :: 'o' :: ds => natural? 8 ds
  | '0' :: 'b' :: ds => natural? 2 ds
  | _ => none

/-- Whether decimal digits begin with a zero that they do not need; such a text is no number. -/
def isPadded (ds : List Char) : Bool :=
  1 < ds.length && ds.head? = some '0' && ds.all Decimal.isDigit

/-- The number that digits denote, in a base that is marked or in decimal. -/
def magnitude? (ds : List Char) : Option Nat :=
  marked? ds <|> if isPadded ds then none else natural? 10 ds

/-- A text with an optional sign in front: whether it is a minus, and what follows. -/
def signed (cs : List Char) : Bool × List Char :=
  match cs with
  | '-' :: rest => (true, rest)
  | '+' :: rest => (false, rest)
  | _ => (false, cs)

def wholeOf? (s : String) : Option Int :=
  let (negative, ds) := signed s.toList
  (magnitude? ds).map fun n => if negative then -n else n

def wordOf? (s : String) : Option UInt64 := do
  let cs := s.toList
  let ds := if cs.head? = some '+' then cs.drop 1 else cs
  let n ← magnitude? ds
  if n ≤ Decimal.wordMax then return .ofNat n else none

/-- The binary64 number that a text means. Infinities and the number that is none are written with a
point in front. -/
def floatOf? (s : String) : Option Float :=
  let (negative, cs) := signed s.toList
  if [".inf", ".Inf", ".INF"].contains (String.ofList cs) then
    some (if negative then -1 / 0 else 1 / 0)
  else if [".nan", ".NaN", ".NAN"].contains s then some (0 / 0)
  else
    match cs with
    | c :: _ =>
      if c = '+' ∨ c = '-' then none
      else (Decimal.float? s).bind fun x => if x.isFinite then some x else none
    | [] => none

namespace Node

/-- Whether a scalar is written so that it can mean a value of a kind. -/
def canMean (kind : String) (tag : Option (List Char)) : Style → Bool
  | .plain => true
  | .literal => tag = some (coreTag kind)
  | .quotedOrFolded => false

def meaning? {α : Type} (kind : String) (of? : String → Option α) : Node → Option α
  | .scalar tag style text =>
    if canMean kind tag style then of? (String.ofList text) else none
  | _ => none

def isVoid : Node → Bool
  | .scalar _ .plain [] => true
  | _ => false

def scalarText? : Node → Option String
  | .scalar _ _ text => some (String.ofList text)
  | _ => none

/-- Reads a value that may be null: null is plain, and a scalar that is tagged as null is nothing
else. -/
def nullable? {α : Type} (read? : Node → Option α) (n : Node) : Option (Option α) :=
  match n with
  | .scalar tag .plain text =>
    let isNull := isNullText (String.ofList text)
    if tag = some (coreTag "null") then if isNull then some none else none
    else if tag.isNone && (text.isEmpty || isNull) then some none
    else (read? n).map some
  | _ => (read? n).map some

mutual

/-- Whether the text made sense up to the end of a node. -/
def isWhole : Node → Bool
  | .scalar _ _ _ | .endless => true
  | .cut => false
  | .sequence _ items => areWhole items
  | .mapping _ members => areWholeMembers members

def areWhole : List Node → Bool
  | [] => true
  | n :: rest => isWhole n && areWhole rest

def areWholeMembers : List (Node × Node) → Bool
  | [] => true
  | (key, value) :: rest => isWhole key && isWhole value && areWholeMembers rest

end

def members? : Node → Option (List (String × Node))
  | .mapping _ members =>
    members.mapM fun (key, value) => key.scalarText?.map (·, value)
  | n => if n.isVoid then some [] else none

def valuesAt (members : List (String × Node)) (key : String) : List Node :=
  (members.filter (·.1 = key)).map (·.2)

/-- The columns of a mapping are its values; those with other names are ignored whatever they are. -/
def columns? (names : List String) (n : Node) : Option (List (Option Node)) := do
  if !n.isWhole then none
  let members ← n.members?
  names.mapM fun name =>
    match valuesAt members name with
    | [] => some none
    | [value] => some (some value)
    | _ => none

def items? : Node → Option (List Node)
  | .sequence _ items => some items
  | n => if n.isVoid then some [] else none

def format : TreeFormat Node where
  columns? := columns?
  items? := items?
  text? := nullable? scalarText?
  flag? := meaning? "bool" boolOf?

end Node

/-- Reads a document. What follows it is looked at only when it could be read itself. -/
def Document.read {ε α : Type} (d : Document) (malformed : ε) (read : Node → Except ε α) :
    Except ε α := do
  let a ← read d.root
  if d.isAlone then return a else throw malformed

end AssetAtlas.Yaml

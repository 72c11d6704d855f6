import AssetAtlas.Yaml.Reading

/-!
Values of any shape. Where a document may hold what nobody asked for, it still has to be of a kind
that a value can be made of: its tags are those of known kinds and fit what they stand in front of,
its whole numbers fit 64 bits or are too large for 128, and no mapping in it has the same key twice.
-/

namespace AssetAtlas.Yaml

inductive ScalarValue where
  | null
  | bool (b : Bool)
  | whole (n : Int)
  | real (x : Float)
  | text (s : String)
deriving DecidableEq

/-- Whether a whole number can be stored in 64 bits. -/
def isStorable (n : Int) : Bool :=
  -(Nat.pow 2 63 : Int) ≤ n && n < Nat.pow 2 64

/-- Whether a whole number is one that 128 bits hold. -/
def isWide (n : Int) : Bool :=
  -(Nat.pow 2 127 : Int) ≤ n && n < Nat.pow 2 128

/-- What a plain scalar without a known tag denotes; nothing for a number that can be held and not
stored. -/
def plainValue? (s : String) : Option ScalarValue :=
  if s.isEmpty || isNullText s then some .null
  else match boolOf? s with
    | some b => some (.bool b)
    | none =>
      match (wholeOf? s).filter isWide with
      | some n => if isStorable n then some (.whole n) else none
      | none =>
        if isPadded (signed s.toList).2 then some (.text s)
        else match floatOf? s with
          | some x => some (.real x)
          | none => some (.text s)

def scalarValue? (tag : Option (List Char)) (style : Style) (s : String) : Option ScalarValue :=
  match tag with
  | none => if style = .plain then plainValue? s else some (.text s)
  | some tag =>
    if tag.head? = some '!' then none
    else if tag = coreTag "bool" then (boolOf? s).map .bool
    else if tag = coreTag "int" then ((wholeOf? s).filter isStorable).map .whole
    else if tag = coreTag "float" then (floatOf? s).map .real
    else if tag = coreTag "null" then if isNullText s then some .null else none
    else some (.text s)

namespace Node

mutual

/-- Whether a value can be made of a node that is nested at most `depth` levels deep. -/
def isValue : Nat → Node → Bool
  | _, .scalar tag style text => (scalarValue? tag style (String.ofList text)).isSome
  | 0, .sequence _ _ => false
  | 0, .mapping _ _ => false
  | depth + 1, .sequence tag items =>
    !tag.any (·.head? = some '!') && areValues depth items
  | depth + 1, .mapping tag members =>
    !tag.any (·.head? = some '!') && areValueMembers depth members
  | _, .endless => false
  | _, .cut => false

def areValues : Nat → List Node → Bool
  | _, [] => true
  | depth, n :: rest => isValue depth n && areValues depth rest

def areValueMembers : Nat → List (Node × Node) → Bool
  | _, [] => true
  | depth, (key, value) :: rest =>
    isValue depth key && isValue depth value && areValueMembers depth rest

end

def scalarValue? : Node → Option ScalarValue
  | .scalar tag style text => Yaml.scalarValue? tag style (String.ofList text)
  | _ => none

mutual

/-- Whether no mapping in a node has a scalar key twice. -/
def hasDistinctKeys : Node → Bool
  | .sequence _ items => haveDistinctKeys items
  | .mapping _ members =>
    decide (members.filterMap fun m => m.1.scalarValue?).Nodup && membersHaveDistinctKeys members
  | _ => true

def haveDistinctKeys : List Node → Bool
  | [] => true
  | n :: rest => hasDistinctKeys n && haveDistinctKeys rest

def membersHaveDistinctKeys : List (Node × Node) → Bool
  | [] => true
  | (key, value) :: rest =>
    hasDistinctKeys key && hasDistinctKeys value && membersHaveDistinctKeys rest

end

end Node

end AssetAtlas.Yaml

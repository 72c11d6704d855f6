import AssetAtlas.Json.Draft

/-!
Records are read in the same way from every tree-shaped format: by the columns they have, each of
which may be missing, and by what a column holds. A `TreeFormat` says how one format answers these
questions; reading a record is written once, over any of them.
-/

namespace AssetAtlas

/-- What reading a record needs to know of the trees of a format. An answer is absent where the tree
is not of the kind that was asked for. -/
structure TreeFormat (σ : Type) where
  /-- The columns with the given names; a column that is written twice is refused. -/
  columns? : List String → σ → Option (List (Option σ))
  items? : σ → Option (List σ)
  /-- A text that may be null. -/
  text? : σ → Option (Option String)
  flag? : σ → Option Bool

namespace Draft

def membersAt (members : List (Option String × Draft)) (key : String) : List Draft :=
  (members.filter fun m => m.1 = some key).map (·.2)

/-- The columns of an object are its members, those of an array its items. Members with other names
are ignored whatever they hold, as long as their keys denote texts. -/
def columns? (names : List String) : Draft → Option (List (Option Draft))
  | .object members =>
    if members.any (·.1.isNone) then none
    else names.mapM fun name =>
      match membersAt members name with
      | [] => some none
      | [d] => some (some d)
      | _ => none
  | .array items =>
    if items.length ≤ names.length then
      some (items.map some ++ List.replicate (names.length - items.length) none)
    else none
  | _ => none

def format : TreeFormat Draft where
  columns? := columns?
  items?
    | .array items => some items
    | _ => none
  text?
    | .null => some none
    | .string (some s) => some (some s)
    | _ => none
  flag?
    | .bool b => some b
    | _ => none

end Draft

end AssetAtlas

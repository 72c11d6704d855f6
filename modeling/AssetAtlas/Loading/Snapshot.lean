import AssetAtlas.Criteria.Basic
import AssetAtlas.Graph.Model
import AssetAtlas.Instant

/-!
What is known after a fetch: the graph, and how much of the result it shows.
-/

namespace AssetAtlas

/-- What is asked for: criteria, and whether the internet is part of the picture. -/
structure Inquiry where
  criteria : Criteria := .default
  showInternet : Bool := false
deriving DecidableEq

/-- Whether a result goes on behind a limit, and how many more rows another page would show. -/
def paginate (total limit pageSize : Nat) : Bool × Nat :=
  if limit < total then (true, min (total - limit) pageSize) else (false, 0)

theorem paginate_fst_iff (total limit pageSize : Nat) :
    (paginate total limit pageSize).1 = true ↔ limit < total := by
  unfold paginate
  split <;> simp_all

theorem paginate_snd (total limit pageSize : Nat) :
    (paginate total limit pageSize).2 =
      if (paginate total limit pageSize).1 then min pageSize (total - limit) else 0 := by
  unfold paginate
  split
  · exact Nat.min_comm _ _
  · rfl

/-- The outcome of one fetch, as it is published. -/
structure Snapshot where
  graph : Graph
  /-- How many rows there are in the store. -/
  total : Nat
  /-- How many rows were asked for at most. -/
  limit : Nat
  hasMore : Bool
  /-- How many more rows another page would show. -/
  moreAvailable : Nat
  fetchedAt : Instant
  generation : Nat
  dataQuery : String
  countQuery : String
  /-- What could not be used, in words. -/
  warnings : List String

/-- The snapshot before the first fetch and after a failed one. -/
def Snapshot.empty (limit generation : Nat) (at_ : Instant) : Snapshot where
  graph := {}
  total := 0
  limit := limit
  hasMore := false
  moreAvailable := 0
  fetchedAt := at_
  generation := generation
  dataQuery := ""
  countQuery := ""
  warnings := []

end AssetAtlas

import AssetAtlas.Graph.Model

/-!
Where nodes are drawn: on a grid, row by row in their order, centred on the origin. Each node also
gets a level, its distance from the nodes that nothing points to.

Positions are computed over any type with the usual arithmetic, so that the same definition gives
binary64 coordinates and exact rational ones.
-/

namespace AssetAtlas

/-! ## Positions -/

instance natCastFloat : NatCast Float := ⟨Float.ofNat⟩

structure Grid (α : Type) where
  columnWidth : α
  rowHeight : α
  margin : α

namespace Grid

def standard : Grid Float := ⟨220, 160, 100⟩

/-- How many nodes fit in a row; at least one. -/
def perRow (g : Grid Float) (viewport : Float) : Nat :=
  let fit := ((viewport - g.margin) / g.columnWidth).floor
  if fit.isFinite && 1 ≤ fit then fit.toUInt64.toNat else 1

section

variable {α : Type} [Add α] [Sub α] [Mul α] [Div α] [NatCast α] [Min α] [Max α]

/-- The place of the node at an index, counted from the first one. -/
def cell (g : Grid α) (perRow index : Nat) : α × α :=
  (((index % perRow : Nat) : α) * g.columnWidth, ((index / perRow : Nat) : α) * g.rowHeight)

/-- The middle between the least and the greatest of some values. -/
def middle (first : α) (rest : List α) : α :=
  (rest.foldl min first + rest.foldl max first) / ((2 : Nat) : α)

/-- Moves places so that the middle of their bounding box is the origin. -/
def center : List (α × α) → List (α × α)
  | [] => []
  | p :: rest =>
    let x := middle p.1 (rest.map (·.1))
    let y := middle p.2 (rest.map (·.2))
    (p :: rest).map fun q => (q.1 - x, q.2 - y)

def positions (g : Grid α) (perRow count : Nat) : List (α × α) :=
  center ((List.range count).map (g.cell perRow))

end

end Grid

/-! ## Levels -/

namespace Levels

/-- The state of a search: the levels that were given so far, and the nodes whose links are still to
be followed, in the order in which they got their levels. -/
structure Search where
  levels : Dictionary Nat
  queue : List String

namespace Search

/-- Gives a node a level and puts it at the end of the queue, unless it has a level already. -/
def visit (level : Nat) (s : Search) (id : String) : Search :=
  if s.levels.contains id then s
  else { levels := s.levels.insert id level, queue := s.queue ++ [id] }

/-- Visits the nodes to which the links of a node lead, one level further. -/
def follow (ids : List String) (links : List (String × String)) (s : Search) (id : String) :
    Search :=
  let targets := (links.filter (·.1 == id)).map (·.2)
  (targets.filter ids.contains).foldl (visit ((s.levels.find? id).getD 0 + 1)) s

/-- How many nodes have to be taken from the queue at most: those in it and those without a level. -/
def pending (ids : List String) (s : Search) : Nat :=
  (ids.filter (!s.levels.contains ·)).length + s.queue.length

theorem contains_insert (d : Dictionary Nat) (id : String) (level : Nat) (other : String) :
    (d.insert id level).contains other = (other == id || d.contains other) := by
  rw [Dictionary.contains, Dictionary.contains, Dictionary.find?_insert]
  by_cases h : other = id <;> simp [h]

theorem pending_visit_le {ids : List String} {id : String} (h : id ∈ ids) (level : Nat)
    (s : Search) : (s.visit level id).pending ids ≤ s.pending ids := by
  unfold visit
  split
  · exact Nat.le_refl _
  · next hnew =>
    have hfewer : (ids.filter (!(s.levels.insert id level).contains ·)).length <
        (ids.filter (!s.levels.contains ·)).length := by
      have hfilter : ids.filter (!(s.levels.insert id level).contains ·) =
          (ids.filter (!s.levels.contains ·)).filter (· != id) := by
        rw [List.filter_filter]
        refine List.filter_congr fun other _ => ?_
        rw [contains_insert, Bool.not_or, bne]
      rw [hfilter, List.length_filter_lt_length_iff_exists]
      exact ⟨id, List.mem_filter.mpr ⟨h, by simpa using hnew⟩, by simp⟩
    simp only [pending, List.length_append, List.length_singleton]
    omega

theorem pending_foldl_visit_le {ids targets : List String} (h : ∀ id ∈ targets, id ∈ ids)
    (level : Nat) (s : Search) : (targets.foldl (visit level) s).pending ids ≤ s.pending ids := by
  induction targets generalizing s with
  | nil => exact Nat.le_refl _
  | cons id rest ih =>
    obtain ⟨hid, hrest⟩ := List.forall_mem_cons.mp h
    exact Nat.le_trans (ih hrest _) (pending_visit_le hid level s)

theorem pending_follow_le (ids : List String) (links : List (String × String)) (s : Search)
    (id : String) : (s.follow ids links id).pending ids ≤ s.pending ids := by
  refine pending_foldl_visit_le (fun target htarget => ?_) _ s
  exact List.contains_iff_mem.mp (List.mem_filter.mp htarget).2

/-- Follows the links of the nodes in the queue, first come first served, until it is empty. -/
def run (ids : List String) (links : List (String × String)) (s : Search) : Dictionary Nat :=
  match _h : s.queue with
  | [] => s.levels
  | id :: rest => run ids links ({ s with queue := rest }.follow ids links id)
termination_by s.pending ids
decreasing_by
  refine Nat.lt_of_le_of_lt (pending_follow_le ..) ?_
  simp [pending, _h]

end Search

/-- Gives levels to the nodes that can be reached from some starts through nodes without a level. -/
def traverse (ids : List String) (links : List (String × String)) (levels : Dictionary Nat)
    (starts : List String) : Dictionary Nat :=
  (starts.foldl (Search.visit 0) { levels, queue := [] }).run ids links

/-- The level of every node: the length of a shortest way from the nodes that nothing points to.
What cannot be reached from these is reached from the first such node, and so on. Links to unknown
nodes do not count. -/
def ofLinks (ids : List String) (links : List (String × String)) : Dictionary Nat :=
  let links := links.filter fun l => ids.contains l.1 && ids.contains l.2
  let roots := ids.filter fun id => !links.any (·.2 == id)
  ids.foldl
    (fun levels id => if levels.contains id then levels else traverse ids links levels [id])
    (traverse ids links {} roots)

def get (levels : Dictionary Nat) (id : String) : Nat :=
  (levels.find? id).getD 0

end Levels

structure PlacedNode (α : Type) where
  node : Node
  x : α
  y : α
  level : Nat

namespace Graph

def levels (g : Graph) : Dictionary Nat :=
  Levels.ofLinks (g.nodes.map (·.id)) (g.edges.map fun e => (e.source, e.target))

/-- Places the nodes of a graph on a grid, so many of them in a row. -/
def place {α : Type} [Add α] [Sub α] [Mul α] [Div α] [NatCast α] [Min α] [Max α]
    (g : Graph) (grid : Grid α) (perRow : Nat) : List (PlacedNode α) :=
  let levels := g.levels
  let positions := grid.positions perRow g.nodes.length
  (g.nodes.zip positions).map fun (node, x, y) =>
    { node, x, y, level := Levels.get levels node.id }

def layout (g : Graph) (grid : Grid Float) (viewport : Float) : List (PlacedNode Float) :=
  g.place grid (grid.perRow viewport)

end Graph

end AssetAtlas

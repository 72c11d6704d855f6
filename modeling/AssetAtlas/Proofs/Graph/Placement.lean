import Mathlib.Algebra.Group.Prod
import Mathlib.Algebra.Order.Field.Rat
import Mathlib.Data.List.Nodup
import Mathlib.Tactic.Ring
import AssetAtlas.Graph.Layout

/-!
Places on a grid in exact arithmetic. The cells of different nodes differ, because an index is told
by its remainder and its quotient by the length of a row, and moving all cells by the same amount
keeps them apart. What the running minimum and maximum find are the sides of the box around the
cells, so moving its middle to the origin centres the grid, whatever its last row looks like. The
main statement is `places_nodes_on_grid`.
-/

namespace AssetAtlas

namespace Grid

theorem cell_injective {g : Grid ℚ} (hwidth : 0 < g.columnWidth) (hheight : 0 < g.rowHeight)
    (perRow : Nat) : Function.Injective (g.cell perRow) := by
  intro i j h
  obtain ⟨hx, hy⟩ := Prod.mk.inj h
  have hcolumn : i % perRow = j % perRow := by
    exact_mod_cast mul_right_cancel₀ hwidth.ne' hx
  have hrow : i / perRow = j / perRow := by
    exact_mod_cast mul_right_cancel₀ hheight.ne' hy
  rw [← Nat.div_add_mod i perRow, hcolumn, hrow, Nat.div_add_mod]

/-! ## The box around some places -/

/-- The smallest box that some places lie in, from its lowest to its highest corner. -/
structure IsBoundingBox (places : List (ℚ × ℚ)) (low high : ℚ × ℚ) : Prop where
  left : IsLeast {x | x ∈ places.map (·.1)} low.1
  right : IsGreatest {x | x ∈ places.map (·.1)} high.1
  bottom : IsLeast {y | y ∈ places.map (·.2)} low.2
  top : IsGreatest {y | y ∈ places.map (·.2)} high.2

theorem isLeast_foldl_min (first : ℚ) (rest : List ℚ) :
    IsLeast {x | x ∈ first :: rest} (rest.foldl min first) := by
  have hfold : (first :: rest).min? = some (rest.foldl min first) := List.min?_cons'
  obtain ⟨hmem, hle⟩ := List.min?_eq_some_iff.mp hfold
  exact ⟨hmem, fun x hx => hle x hx⟩

theorem isGreatest_foldl_max (first : ℚ) (rest : List ℚ) :
    IsGreatest {x | x ∈ first :: rest} (rest.foldl max first) := by
  have hfold : (first :: rest).max? = some (rest.foldl max first) := List.max?_cons'
  obtain ⟨hmem, hle⟩ := List.max?_eq_some_iff.mp hfold
  exact ⟨hmem, fun x hx => hle x hx⟩

theorem setOf_mem_map_sub (l : List ℚ) (d : ℚ) :
    {x | x ∈ l.map (· - d)} = (· - d) '' {x | x ∈ l} := by
  ext y
  simp

theorem IsBoundingBox.map_sub {places : List (ℚ × ℚ)} {low high : ℚ × ℚ}
    (h : IsBoundingBox places low high) (d : ℚ × ℚ) :
    IsBoundingBox (places.map (· - d)) (low - d) (high - d) := by
  have hx : (places.map (· - d)).map (·.1) = (places.map (·.1)).map (· - d.1) := by simp
  have hy : (places.map (· - d)).map (·.2) = (places.map (·.2)).map (· - d.2) := by simp
  have hmono (c : ℚ) : Monotone (· - c) := fun _ _ hle => sub_le_sub_right hle c
  constructor
  · rw [hx, setOf_mem_map_sub]
    exact (hmono d.1).map_isLeast h.left
  · rw [hx, setOf_mem_map_sub]
    exact (hmono d.1).map_isGreatest h.right
  · rw [hy, setOf_mem_map_sub]
    exact (hmono d.2).map_isLeast h.bottom
  · rw [hy, setOf_mem_map_sub]
    exact (hmono d.2).map_isGreatest h.top

def boxMiddle (low high : ℚ × ℚ) : ℚ × ℚ :=
  ((low.1 + high.1) / 2, (low.2 + high.2) / 2)

theorem boxMiddle_sub (low high : ℚ × ℚ) :
    boxMiddle (low - boxMiddle low high) (high - boxMiddle low high) = 0 := by
  apply Prod.ext
  · simp only [boxMiddle, Prod.fst_sub, Prod.fst_zero]
    ring
  · simp only [boxMiddle, Prod.snd_sub, Prod.snd_zero]
    ring

theorem exists_isBoundingBox {places : List (ℚ × ℚ)} (h : places ≠ []) :
    ∃ low high, IsBoundingBox places low high ∧
      center places = places.map (· - boxMiddle low high) := by
  obtain ⟨p, rest, rfl⟩ := List.exists_cons_of_ne_nil h
  refine ⟨((rest.map (·.1)).foldl min p.1, (rest.map (·.2)).foldl min p.2),
    ((rest.map (·.1)).foldl max p.1, (rest.map (·.2)).foldl max p.2), ⟨?_, ?_, ?_, ?_⟩, ?_⟩
  · exact isLeast_foldl_min _ _
  · exact isGreatest_foldl_max _ _
  · exact isLeast_foldl_min _ _
  · exact isGreatest_foldl_max _ _
  · rfl

theorem center_isCentered {places : List (ℚ × ℚ)} (h : places ≠ []) :
    ∃ low high, IsBoundingBox (center places) low high ∧ boxMiddle low high = 0 := by
  obtain ⟨low, high, hbox, hcenter⟩ := exists_isBoundingBox h
  exact ⟨_, _, hcenter ▸ hbox.map_sub (boxMiddle low high), boxMiddle_sub low high⟩

theorem exists_center_eq_map_sub (places : List (ℚ × ℚ)) :
    ∃ d, center places = places.map (· - d) := by
  rcases eq_or_ne places [] with rfl | h
  · exact ⟨0, rfl⟩
  · obtain ⟨low, high, -, hcenter⟩ := exists_isBoundingBox h
    exact ⟨_, hcenter⟩

theorem exists_positions_eq (g : Grid ℚ) (perRow count : Nat) :
    ∃ d, g.positions perRow count = (List.range count).map fun i => g.cell perRow i - d := by
  obtain ⟨d, hd⟩ := exists_center_eq_map_sub ((List.range count).map (g.cell perRow))
  exact ⟨d, by rw [positions, hd, List.map_map]; rfl⟩

theorem nodup_positions {g : Grid ℚ} (hwidth : 0 < g.columnWidth) (hheight : 0 < g.rowHeight)
    (perRow count : Nat) : (g.positions perRow count).Nodup := by
  obtain ⟨d, hd⟩ := g.exists_positions_eq perRow count
  rw [hd]
  refine List.Nodup.map (fun i j hij => ?_) List.nodup_range
  exact cell_injective hwidth hheight perRow (sub_left_injective hij)

end Grid

/-! ## Nodes -/

def PlacedNode.position {α : Type} (p : PlacedNode α) : α × α :=
  (p.x, p.y)

namespace Graph

variable (g : Graph) (grid : Grid ℚ) (perRow : Nat)

theorem length_positions :
    (grid.positions perRow g.nodes.length).length = g.nodes.length := by
  obtain ⟨d, hd⟩ := grid.exists_positions_eq perRow g.nodes.length
  rw [hd, List.length_map, List.length_range]

theorem map_node_place : (g.place grid perRow).map (·.node) = g.nodes := by
  rw [place, List.map_map]
  exact List.map_fst_zip (length_positions g grid perRow).ge

theorem map_position_place :
    (g.place grid perRow).map (·.position) = grid.positions perRow g.nodes.length := by
  rw [place, List.map_map]
  exact List.map_snd_zip (length_positions g grid perRow).le

theorem exists_position_eq :
    ∃ d, ∀ i, ∀ p ∈ (g.place grid perRow)[i]?, p.position = grid.cell perRow i - d := by
  obtain ⟨d, hd⟩ := grid.exists_positions_eq perRow g.nodes.length
  refine ⟨d, fun i p hp => ?_⟩
  have hposition : ((g.place grid perRow).map (·.position))[i]? = some p.position := by
    rw [List.getElem?_map, hp, Option.map_some]
  rw [map_position_place, hd, List.getElem?_map] at hposition
  obtain ⟨j, hj, hcell⟩ := Option.map_eq_some_iff.mp hposition
  obtain ⟨hi, rfl⟩ := List.getElem?_eq_some_iff.mp hj
  rw [← hcell, List.getElem_range]

/-- Nodes keep their order on a grid and no two of them are drawn at the same place. Seen from the
first one, a node stands in the column and the row that its index says, and the middle of the box
around all nodes is the origin. -/
theorem places_nodes_on_grid (hwidth : 0 < grid.columnWidth) (hheight : 0 < grid.rowHeight) :
    (g.place grid perRow).map (·.node) = g.nodes ∧
      ((g.place grid perRow).map (·.position)).Nodup ∧
      (∀ first ∈ (g.place grid perRow).head?, ∀ i, ∀ p ∈ (g.place grid perRow)[i]?,
        p.x = first.x + (i % perRow : Nat) * grid.columnWidth ∧
          p.y = first.y + (i / perRow : Nat) * grid.rowHeight) ∧
      (g.nodes ≠ [] → ∃ low high,
        Grid.IsBoundingBox ((g.place grid perRow).map (·.position)) low high ∧
          Grid.boxMiddle low high = 0) := by
  refine ⟨map_node_place g grid perRow, ?_, ?_, ?_⟩
  · rw [map_position_place]
    exact Grid.nodup_positions hwidth hheight perRow g.nodes.length
  · intro first hfirst i p hp
    obtain ⟨d, hd⟩ := exists_position_eq g grid perRow
    rw [List.head?_eq_getElem?] at hfirst
    have hcell : p.position = first.position + grid.cell perRow i := by
      have hstart : grid.cell perRow 0 = 0 := by simp [Grid.cell]
      rw [hd i p hp, hd 0 first hfirst, hstart, zero_sub, neg_add_eq_sub]
    exact Prod.mk.inj hcell
  · intro hne
    rw [map_position_place]
    refine Grid.center_isCentered ?_
    simpa using hne

/-- Three nodes, of which the last one stands alone in its row if there are two in a row. -/
def raggedGraph : Graph where
  nodes := ["a", "b", "c"].map fun id =>
    { id, label := id, kind := "aws_vpc", rawLabel := "aws_vpc", properties := {} }

theorem places_nodes_on_grid_ragged :
    let grid : Grid ℚ := ⟨220, 160, 100⟩
    let placed := raggedGraph.place grid 2
    0 < grid.columnWidth ∧ 0 < grid.rowHeight ∧
      placed.map (·.position) = [(-110, -80), (110, -80), (-110, 80)] ∧
      (placed.map (·.position)).Nodup ∧
      ∃ low high, Grid.IsBoundingBox (placed.map (·.position)) low high ∧
        Grid.boxMiddle low high = 0 := by
  intro grid placed
  have hwidth : 0 < grid.columnWidth := by decide +kernel
  have hheight : 0 < grid.rowHeight := by decide +kernel
  obtain ⟨-, hnodup, -, hbox⟩ := places_nodes_on_grid raggedGraph grid 2 hwidth hheight
  refine ⟨hwidth, hheight, ?_, hnodup, hbox (List.cons_ne_nil _ _)⟩
  decide +kernel

end Graph

end AssetAtlas

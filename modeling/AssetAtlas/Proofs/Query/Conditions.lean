import AssetAtlas.Proofs.Query.Evaluation

/-!
Conditions on one variable, read off the node that it stands for. A comparison with a property that
is missing or null is not true, whichever comparison it is; a label is compared as it is spelled.
-/

namespace AssetAtlas.Query

def StoredNode.Gives (n : StoredNode) (key : String) : Prop :=
  ∃ j, n.properties.find? key = some j ∧ j ≠ .null

theorem Literal.isEqual_text_iff {t : String} {j : Json} :
    (Literal.text t).isEqual j = true ↔ j = .string t := by
  cases j <;> simp [Literal.isEqual, eq_comm]

theorem Literal.isEqual_bool_iff {b : Bool} {j : Json} :
    (Literal.bool b).isEqual j = true ↔ j = .bool b := by
  cases j <;> simp [Literal.isEqual, eq_comm]

namespace PropertyGraph

attribute [simp] holds allHold someHolds

variable (g : PropertyGraph)

theorem node?_of_mem {n : StoredNode} (hn : n ∈ g.nodes) : g.node? n.id = some n := by
  cases hfound : g.node? n.id with
  | none =>
      have hnone := List.find?_eq_none.mp hfound n hn
      exact absurd (decide_eq_true rfl) hnone
  | some n' =>
      have hid : n'.id = n.id := by simpa using List.find?_some hfound
      rw [List.inj_on_of_nodup_map g.nodes_nodup (List.mem_of_find?_eq_some hfound) hn hid]

theorem property?_eq_some_iff {n : StoredNode} (hn : n ∈ g.nodes) {key : String} {j : Json} :
    g.property? (.node n.id) key = some j ↔ n.properties.find? key = some j ∧ j ≠ .null := by
  simp only [property?, g.node?_of_mem hn, Option.map_some, Option.bind_some]
  split
  · next hnull => simp [hnull, eq_comm]
  · next hgiven =>
      constructor
      · intro h
        exact ⟨h, fun hj => hgiven (hj ▸ h)⟩
      · exact And.left

theorem someHolds_iff (σ : Assignment) (members : List Predicate) :
    g.someHolds σ members = true ↔ ∃ p ∈ members, g.holds σ p = true := by
  induction members with
  | nil => simp
  | cons p rest ih => simp [ih]

theorem holds_and_pair_iff (σ : Assignment) (p q : Predicate) :
    g.holds σ (.and [p, q]) = true ↔ g.holds σ p = true ∧ g.holds σ q = true := by
  simp

theorem holds_or_pair_iff (σ : Assignment) (p q : Predicate) :
    g.holds σ (.or [p, q]) = true ↔ g.holds σ p = true ∨ g.holds σ q = true := by
  simp

section

variable {g} {n : StoredNode} (hn : n ∈ g.nodes) {σ : Assignment} {var : String}
  (hvar : σ.value var = .node n.id)

include hn hvar

theorem holds_hasLabel_iff (label : String) :
    g.holds σ (.hasLabel var label) = true ↔ label ∈ n.labels := by
  simp [hvar, hasLabel, g.node?_of_mem hn]

theorem holds_equal_text_iff (key t : String) :
    g.holds σ (.equal var key (.text t)) = true ↔ n.properties.find? key = some (.string t) := by
  rw [holds, hvar, Option.any_eq_true]
  simp only [g.property?_eq_some_iff hn, Literal.isEqual_text_iff]
  constructor
  · rintro ⟨j, ⟨hj, -⟩, rfl⟩
    exact hj
  · intro h
    exact ⟨_, ⟨h, nofun⟩, rfl⟩

theorem holds_equal_bool_iff (key : String) (b : Bool) :
    g.holds σ (.equal var key (.bool b)) = true ↔ n.properties.find? key = some (.bool b) := by
  rw [holds, hvar, Option.any_eq_true]
  simp only [g.property?_eq_some_iff hn, Literal.isEqual_bool_iff]
  constructor
  · rintro ⟨j, ⟨hj, -⟩, rfl⟩
    exact hj
  · intro h
    exact ⟨_, ⟨h, nofun⟩, rfl⟩

theorem holds_unequal_text_iff (key t : String) :
    g.holds σ (.unequal var key (.text t)) = true ↔
      n.Gives key ∧ n.properties.find? key ≠ some (.string t) := by
  rw [holds, hvar, Option.any_eq_true]
  simp only [g.property?_eq_some_iff hn, Bool.not_eq_true', ← Bool.not_eq_true,
    Literal.isEqual_text_iff]
  constructor
  · rintro ⟨j, ⟨hj, hgiven⟩, hne⟩
    refine ⟨⟨j, hj, hgiven⟩, ?_⟩
    rw [hj]
    exact fun h => hne (Option.some.inj h)
  · rintro ⟨⟨j, hj, hgiven⟩, hne⟩
    exact ⟨j, ⟨hj, hgiven⟩, fun h => hne (h ▸ hj)⟩

theorem holds_isPresent_iff (key : String) :
    g.holds σ (.isPresent var key) = true ↔ n.Gives key := by
  rw [holds, hvar, Option.isSome_iff_exists]
  simp only [g.property?_eq_some_iff hn]
  rfl

end

end PropertyGraph

end AssetAtlas.Query

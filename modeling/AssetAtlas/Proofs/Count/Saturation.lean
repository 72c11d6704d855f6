import Mathlib.Algebra.Order.BigOperators.Group.List
import Mathlib.Algebra.Order.Group.Nat
import Mathlib.Algebra.Ring.Nat
import AssetAtlas.Count

/-!
Sums of counts. Counts only add up, so a sum stops at the largest word at most once, and stopping
along the way is the same as adding up all of them and stopping at the end.
-/

namespace AssetAtlas

theorem toNat_le_wordMax (n : UInt64) : n.toNat ≤ Decimal.wordMax :=
  Nat.le_of_lt_succ n.toNat_lt

theorem toNat_ofNat_of_le {k : Nat} (h : k ≤ Decimal.wordMax) : (UInt64.ofNat k).toNat = k := by
  rw [UInt64.toNat_ofNat']
  exact Nat.mod_eq_of_lt (Nat.lt_succ_of_le h)

theorem toNat_foldl_saturatingAdd (counts : List UInt64) (a : UInt64) :
    (counts.foldl saturatingAdd a).toNat =
      min (a.toNat + (counts.map UInt64.toNat).sum) Decimal.wordMax := by
  induction counts generalizing a with
  | nil =>
      have hle : a.toNat ≤ Decimal.wordMax := toNat_le_wordMax a
      simp only [List.foldl_nil, List.map_nil, List.sum_nil]
      omega
  | cons count counts ih =>
      rw [List.foldl_cons, ih, toNat_saturatingAdd, List.map_cons, List.sum_cons]
      omega

/-- The sum of counts, or the largest word where the sum is larger. -/
def cappedSum (counts : List UInt64) : Nat :=
  min (counts.map UInt64.toNat).sum Decimal.wordMax

theorem cappedSum_perm {a b : List UInt64} (h : a.Perm b) : cappedSum a = cappedSum b := by
  rw [cappedSum, cappedSum, (h.map UInt64.toNat).sum_eq]

theorem cappedSum_append (a b : List UInt64) :
    cappedSum (a ++ b) = min (cappedSum a + cappedSum b) Decimal.wordMax := by
  rw [cappedSum, cappedSum, cappedSum, List.map_append, List.sum_append]
  omega

theorem cappedSum_toList (count? : Option UInt64) :
    cappedSum count?.toList = (count?.getD 0).toNat := by
  cases count? with
  | none => rfl
  | some count => simpa [cappedSum] using toNat_le_wordMax count

theorem toNat_saturatingSum (counts : List UInt64) :
    (saturatingSum counts).toNat = cappedSum counts := by
  rw [saturatingSum, toNat_foldl_saturatingAdd, cappedSum]
  simp

theorem sum_toNat_filterMap {α : Type} (xs : List α) (f : α → Option UInt64) :
    ((xs.filterMap f).map UInt64.toNat).sum = (xs.map fun x => ((f x).getD 0).toNat).sum := by
  induction xs with
  | nil => rfl
  | cons x xs ih => cases hx : f x <;> simp [hx, ih]

theorem saturatingSum_filterMap {α : Type} (xs : List α) (f : α → Option UInt64) :
    saturatingSum (xs.filterMap f) = saturatingSum (xs.map fun x => (f x).getD 0) := by
  apply UInt64.toNat_inj.mp
  rw [toNat_saturatingSum, toNat_saturatingSum, cappedSum, cappedSum, sum_toNat_filterMap,
    List.map_map]
  rfl

theorem saturatingSum_map_le {α : Type} {xs : List α} {f g : α → UInt64}
    (h : ∀ x ∈ xs, f x ≤ g x) : saturatingSum (xs.map f) ≤ saturatingSum (xs.map g) := by
  have hsum : ((xs.map f).map UInt64.toNat).sum ≤ ((xs.map g).map UInt64.toNat).sum := by
    rw [List.map_map, List.map_map]
    exact List.sum_le_sum fun x hx => UInt64.le_iff_toNat_le.mp (h x hx)
  rw [UInt64.le_iff_toNat_le, toNat_saturatingSum, toNat_saturatingSum, cappedSum, cappedSum]
  omega

end AssetAtlas

import AssetAtlas.Proofs.Count.Reading
import AssetAtlas.Proofs.Dictionary
import AssetAtlas.Store.Response

/-!
The total of a result that has rows. Each row adds one count to it: the one in its column `count`, or
else the one in the first of its columns that holds a count, or else none. The counts only add up, to
the largest word at most, so neither the order of the rows nor their distribution over several
results matters, nor do rows that are no objects.
-/

namespace AssetAtlas.Reply

/-! ## What a row adds -/

def CountUnder (row : Properties) (column : String) (k : Nat) : Prop :=
  ∃ value, row.find? column = some value ∧ value.CountsAs k

inductive Adds (row : Properties) : Nat → Prop where
  | named {k : Nat} (h : CountUnder row "count" k) : Adds row k
  | first {column : String} {k : Nat} (hnamed : ∀ j, ¬ CountUnder row "count" j)
      (h : CountUnder row column k) (hfirst : ∀ other < column, ∀ j, ¬ CountUnder row other j) :
      Adds row k
  | nothing (h : ∀ column j, ¬ CountUnder row column j) : Adds row 0

section Rows

variable {row : Properties} {column : String}

theorem countUnder_iff {k : Nat} : CountUnder row column k ↔
    ∃ c, (row.find? column).bind Json.count? = some c ∧ c.toNat = k := by
  unfold CountUnder
  cases row.find? column with
  | none => simp
  | some value => simp [Json.countsAs_iff]

theorem forall_not_countUnder_iff :
    (∀ k, ¬ CountUnder row column k) ↔ (row.find? column).bind Json.count? = none := by
  rw [Option.eq_none_iff_forall_ne_some]
  constructor
  · intro h c hc
    exact h c.toNat (countUnder_iff.mpr ⟨c, hc, rfl⟩)
  · intro h k hk
    obtain ⟨c, hc, -⟩ := countUnder_iff.mp hk
    exact h c hc

theorem Adds.toNat_rowCount {k : Nat} (h : Adds row k) : ((rowCount? row).getD 0).toNat = k := by
  rw [rowCount?]
  cases h with
  | named h =>
      obtain ⟨c, hc, rfl⟩ := countUnder_iff.mp h
      rw [hc]
      rfl
  | first hnamed h hfirst =>
      obtain ⟨c, hc, rfl⟩ := countUnder_iff.mp h
      have hvalues : row.values.findSome? Json.count? = some c :=
        Dictionary.findSome?_values_eq_some_iff.mpr
          ⟨_, hc, fun other hother => forall_not_countUnder_iff.mp (hfirst other hother)⟩
      rw [forall_not_countUnder_iff.mp hnamed, hvalues]
      rfl
  | nothing h =>
      have hvalues : row.values.findSome? Json.count? = none :=
        Dictionary.findSome?_values_eq_none_iff.mpr fun other =>
          forall_not_countUnder_iff.mp (h other)
      rw [forall_not_countUnder_iff.mp (h "count"), hvalues]
      rfl

theorem adds_rowCount (row : Properties) : Adds row ((rowCount? row).getD 0).toNat := by
  rw [rowCount?]
  cases hnamed : (row.find? "count").bind Json.count? with
  | some c => exact .named (countUnder_iff.mpr ⟨c, hnamed, rfl⟩)
  | none =>
      cases hvalues : row.values.findSome? Json.count? with
      | some c =>
          obtain ⟨column, hcolumn, hfirst⟩ := Dictionary.findSome?_values_eq_some_iff.mp hvalues
          refine .first (forall_not_countUnder_iff.mpr hnamed)
            (countUnder_iff.mpr ⟨c, hcolumn, rfl⟩) fun other hother => ?_
          exact forall_not_countUnder_iff.mpr (hfirst other hother)
      | none =>
          have hnone := Dictionary.findSome?_values_eq_none_iff.mp hvalues
          exact .nothing fun other => forall_not_countUnder_iff.mpr (hnone other)

end Rows

theorem forall₂_adds_iff {rows : List Properties} {counts : List Nat} :
    List.Forall₂ Adds rows counts ↔
      (rows.map fun row => ((rowCount? row).getD 0).toNat) = counts := by
  rw [← List.forall₂_eq_eq_eq, List.forall₂_map_left_iff]
  constructor
  · exact fun h => h.imp fun _ _ => Adds.toNat_rowCount
  · exact fun h => h.imp fun row _ heq => heq ▸ adds_rowCount row

/-! ## What the rows add up to -/

def rowCounts (records : List Json) : List UInt64 :=
  (records.filterMap Json.properties?).filterMap rowCount?

theorem toNat_total_eq (r : Reply) (h : r.records ≠ []) :
    r.total.toNat = cappedSum (rowCounts r.records) := by
  rw [total, if_neg (by simpa using h), toNat_saturatingSum, rowCounts]

theorem rowCounts_perm {records others : List Json} (h : records.Perm others) :
    (rowCounts records).Perm (rowCounts others) :=
  (h.filterMap Json.properties?).filterMap rowCount?

theorem rowCounts_append (records others : List Json) :
    rowCounts (records ++ others) = rowCounts records ++ rowCounts others := by
  rw [rowCounts, List.filterMap_append, List.filterMap_append]
  rfl

theorem rowCounts_filter (records : List Json) :
    rowCounts (records.filter (·.properties?.isSome)) = rowCounts records := by
  rw [rowCounts, rowCounts, List.filterMap_filter]
  congr 2
  funext record
  cases record.properties? <;> rfl

/-- Some records may be left out, but none that is an object. -/
structure KeepsObjects (kept records : List Json) : Prop where
  sublist : kept.Sublist records
  objects : kept.filter (·.properties?.isSome) = records.filter (·.properties?.isSome)

theorem KeepsObjects.rowCounts_eq {kept records : List Json} (h : KeepsObjects kept records) :
    rowCounts kept = rowCounts records := by
  rw [← rowCounts_filter, h.objects, rowCounts_filter]

/-- The total is the sum of what the rows add, or the largest word if that is smaller. So it stays
the same when rows change places or others than objects are left out, and the totals of two results
add up to that of both. -/
theorem total_counts_rows (r : Reply) (hrows : r.records ≠ []) :
    ((∃! counts, List.Forall₂ Adds (r.records.filterMap Json.properties?) counts) ∧
      ∀ counts, List.Forall₂ Adds (r.records.filterMap Json.properties?) counts →
        r.total.toNat = min counts.sum Decimal.wordMax) ∧
    (∀ s : Reply, s.records.Perm r.records → s.total = r.total) ∧
    (∀ s : Reply, s.records ≠ [] → KeepsObjects s.records r.records → s.total = r.total) ∧
    ∀ s t : Reply, s.records ≠ [] → t.records = r.records ++ s.records →
      t.total.toNat = min (r.total.toNat + s.total.toNat) Decimal.wordMax := by
  refine ⟨⟨?_, ?_⟩, ?_, ?_, ?_⟩
  · exact ⟨_, forall₂_adds_iff.mpr rfl, fun counts hcounts => (forall₂_adds_iff.mp hcounts).symm⟩
  · intro counts hcounts
    obtain rfl := forall₂_adds_iff.mp hcounts
    rw [r.toNat_total_eq hrows, cappedSum, rowCounts, sum_toNat_filterMap]
  · intro s hperm
    have hs : s.records ≠ [] := fun hnone => hrows (List.nil_perm.mp (hnone ▸ hperm))
    apply UInt64.toNat_inj.mp
    rw [r.toNat_total_eq hrows, s.toNat_total_eq hs, cappedSum_perm (rowCounts_perm hperm)]
  · intro s hs hkeeps
    apply UInt64.toNat_inj.mp
    rw [r.toNat_total_eq hrows, s.toNat_total_eq hs, hkeeps.rowCounts_eq]
  · intro s t hs ht
    have hboth : t.records ≠ [] := by
      rw [ht]
      exact List.append_ne_nil_of_left_ne_nil hrows _
    rw [t.toNat_total_eq hboth, r.toNat_total_eq hrows, s.toNat_total_eq hs, ht, rowCounts_append,
      cappedSum_append]

def mixedReply : Reply where
  records := [
    .object [("count", .string " +7 ")],
    .null,
    .object [("count", .string "-1"), ("failed", .bool true), ("kept", .number (.natural 5))],
    .object [("count", .null)],
    .object [("count", .number (.natural 0xFFFFFFFFFFFFFFFF))]]

theorem total_counts_rows_mixed :
    mixedReply.records ≠ [] ∧
      mixedReply.total.toNat = min [7, 5, 0, 0xFFFFFFFFFFFFFFFF].sum Decimal.wordMax ∧
      { mixedReply with records := mixedReply.records.reverse }.total = mixedReply.total ∧
      { mixedReply with records := mixedReply.records.eraseIdx 1 }.total = mixedReply.total ∧
      { mixedReply with records := mixedReply.records ++ mixedReply.records }.total.toNat =
        min (mixedReply.total.toNat + mixedReply.total.toNat) Decimal.wordMax := by
  have hrows : mixedReply.records ≠ [] := nofun
  obtain ⟨⟨-, hsum⟩, hperm, hothers, happend⟩ := total_counts_rows mixedReply hrows
  refine ⟨hrows, hsum _ (forall₂_adds_iff.mpr (by decide +kernel)), hperm _ (List.reverse_perm _),
    hothers _ nofun ⟨List.eraseIdx_sublist _ 1, rfl⟩, happend mixedReply _ hrows rfl⟩

end AssetAtlas.Reply

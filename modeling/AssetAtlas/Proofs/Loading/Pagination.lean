import AssetAtlas.Loading.Loader
import AssetAtlas.Proofs.Query.Shortfall
import AssetAtlas.Proofs.Store.Totals

/-!
What it means that there is no more. The loader compares its limit with the counts that the store
gives for the count program, added up. If the limit is not exceeded, the rows behind the limit are
at most those that the count program leaves out.
-/

namespace AssetAtlas

open Query

/-- A record of a count. A count that no word can hold reads as the largest word. -/
def Json.Says (record : Json) (k : Nat) : Prop :=
  ∃ row c, record.properties? = some row ∧ (row.find? "count").bind Json.count? = some c ∧
    c.toNat = min k Decimal.wordMax

/-- The reply of a store that counts: one record for each count. -/
def Reply.Tells (r : Reply) (answers : List Answer) : Prop :=
  List.Forall₂ (fun record answer => ∃ k, answer = .count k ∧ record.Says k) r.records answers

theorem map_rowCounts {records : List Json} {counts : List Nat}
    (h : List.Forall₂ Json.Says records counts) :
    (Reply.rowCounts records).map UInt64.toNat = counts.map (min · Decimal.wordMax) := by
  unfold Reply.rowCounts
  induction h with
  | nil => rfl
  | cons hsays _ ih =>
      obtain ⟨row, c, hrow, hc, hk⟩ := hsays
      have hcount : Reply.rowCount? row = some c := by
        rw [Reply.rowCount?, hc]
        rfl
      rw [List.filterMap_cons_some hrow, List.filterMap_cons_some hcount, List.map_cons, ih, hk,
        List.map_cons]

theorem min_sum_map_min (counts : List Nat) (most : Nat) :
    min (counts.map (min · most)).sum most = min counts.sum most := by
  induction counts with
  | nil => rfl
  | cons k counts ih =>
      rw [List.map_cons, List.sum_cons, List.sum_cons]
      omega

theorem Reply.toNat_total {r : Reply} {counts : List Nat} (h : r.Tells (counts.map .count))
    (hne : counts ≠ []) : r.total.toNat = min counts.sum Decimal.wordMax := by
  have hrecords : List.Forall₂ Json.Says r.records counts := by
    refine (List.forall₂_map_right_iff.mp h).imp ?_
    rintro record k ⟨k', hk, hsays⟩
    obtain rfl := Answer.count.inj hk
    exact hsays
  have hsome : r.records ≠ [] := by
    intro hnone
    rw [hnone] at hrecords
    exact hne (List.forall₂_nil_left_iff.mp hrecords)
  rw [r.toNat_total_eq hsome, cappedSum, map_rowCounts hrecords, min_sum_map_min]

/-- As long as there are no more rows than the limit by the count of the store, the data program has
no more than that without its limit either, but for the rows that are never counted. Criteria that
go one way have no such rows. -/
theorem rows_within_limit (g : PropertyGraph) (criteria : List Criterion) (limit : Nat)
    (hlimit : limit < Decimal.wordMax) (reply : Reply)
    (htells : reply.Tells (g.eval (program .count criteria limit false)))
    (hmore : (paginate reply.total.toNat limit pageSize).1 = false) :
    (g.eval { program .data criteria limit false with limit := none }).length ≤
        limit + g.uncounted criteria ∧
      (g.uncounted criteria = 0 →
        g.eval (program .data criteria limit false) =
          g.eval { program .data criteria limit false with limit := none }) ∧
      (OneWay criteria → g.uncounted criteria = 0) := by
  rw [g.eval_count] at htells
  have hne : g.counts criteria ≠ [] := fun hnone =>
    criteriaBranches_ne_nil .count criteria (List.map_eq_nil_iff.mp hnone)
  have htotal := reply.toNat_total htells hne
  have hcounted : (g.counts criteria).sum ≤ limit := by
    have hle : ¬ limit < reply.total.toNat := by
      rw [← paginate_fst_iff reply.total.toNat limit pageSize, hmore]
      decide
    omega
  have hrows := g.length_unite_data_le criteria limit
  refine ⟨?_, ?_, g.uncounted_of_oneWay⟩
  · exact Nat.le_trans hrows (Nat.add_le_add_right hcounted _)
  · intro hall
    rw [hall, Nat.add_zero] at hrows
    exact List.take_of_length_le (Nat.le_trans hrows hcounted)

def traffic : PropertyGraph where
  nodes := [{ id := 0, labels := ["Server"] }, { id := 1, labels := ["Database"] }]
  links := (List.range 26).map fun i =>
    { id := i, kind := "uses", source := i % 2, target := (i + 1) % 2 }
  nodes_nodup := by decide
  links_nodup := by decide
  ends_mem := by decide

def countReply (k : UInt64) : Reply where
  records := [.object [("count", .number (.natural k))]]

theorem tells_countReply (k : UInt64) : (countReply k).Tells [.count k.toNat] := by
  have hword : k.toNat = min k.toNat Decimal.wordMax := by
    have hle : k.toNat ≤ Decimal.wordMax := toNat_le_wordMax k
    omega
  exact .cons ⟨k.toNat, rfl, .ofList [("count", .number (.natural k))], k, rfl, rfl, hword⟩ .nil

theorem rows_within_limit_one_way :
    let criteria := [Criterion.between "Server" "uses" "Database"]
    25 < Decimal.wordMax ∧
      (countReply 13).Tells (traffic.eval (program .count criteria 25 false)) ∧
      (paginate (countReply 13).total.toNat 25 pageSize).1 = false ∧
      OneWay criteria ∧
      traffic.eval (program .data criteria 25 false) =
        traffic.eval { program .data criteria 25 false with limit := none } := by
  intro criteria
  have hcount : traffic.eval (program .count criteria 25 false) = [.count 13] := by
    decide +kernel
  have htells : (countReply 13).Tells (traffic.eval (program .count criteria 25 false)) := by
    rw [hcount]
    exact tells_countReply 13
  have hmore : (paginate (countReply 13).total.toNat 25 pageSize).1 = false := by
    decide +kernel
  have honeWay : OneWay criteria := ⟨rfl, List.forall_mem_singleton.mpr nofun⟩
  obtain ⟨-, hall, huncounted⟩ :=
    rows_within_limit traffic criteria 25 (by decide) (countReply 13) htells hmore
  exact ⟨by decide, htells, hmore, honeWay, hall (huncounted honeWay)⟩

/-- There are no more rows than the limit by the count of the store, but more without it. -/
structure CutOff (g : PropertyGraph) (criteria : List Criterion) (limit : Nat) (reply : Reply) :
    Prop where
  tells : reply.Tells (g.eval (program .count criteria limit false))
  no_more : (paginate reply.total.toNat limit pageSize).1 = false
  limit_lt : limit < (g.eval { program .data criteria limit false with limit := none }).length

/-- Relationships are cut off where everything is asked for, and where both directions are. -/
theorem cutOff_uncounted :
    CutOff traffic [.blank] 25 (countReply 2) ∧ CutOff traffic [bothWays] 25 (countReply 13) := by
  constructor
  · have hcount : traffic.eval (program .count [.blank] 25 false) = [.count 2] := by
      decide +kernel
    refine ⟨?_, by decide +kernel, by decide +kernel⟩
    rw [hcount]
    exact tells_countReply 2
  · have hcount : traffic.eval (program .count [bothWays] 25 false) = [.count 13] := by
      decide +kernel
    refine ⟨?_, by decide +kernel, by decide +kernel⟩
    rw [hcount]
    exact tells_countReply 13

end AssetAtlas

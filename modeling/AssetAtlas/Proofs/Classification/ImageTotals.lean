import Mathlib.Data.List.Induction
import AssetAtlas.Proofs.Classification.ImageCounts

/-!
Counts by severity of a container image that is seen several times. Each observation adds up the
counts that it gives itself, and the counts and the total are merged key by key. So the total that is
shown is that of the last observation that counted anything. It is the sum of the counts that are
shown if that observation left out none of them, and otherwise it may fall behind.
-/

namespace AssetAtlas

namespace RawNode

/-- A container image that gives neither a map of counts nor a total. -/
structure CountsApart (n : RawNode) : Prop where
  rule : NodeRule.select n = .containerImage
  without_map : (imageCounts n).1 = none
  without_total : n.count? "total_vulnerabilities" = none

def countOf? (n : RawNode) (severity : String) : Option UInt64 :=
  n.count? (severity ++ "_vulnerabilities")

def givenCounts (n : RawNode) : List UInt64 :=
  severities.filterMap n.countOf?

/-- The sum of the counts that an image gives, if it gives any. -/
def givenTotal? (n : RawNode) : Option UInt64 :=
  if n.givenCounts = [] then none else some (saturatingSum n.givenCounts)

theorem severityCount?_eq_countOf? (n : RawNode) (severity : String) :
    severityCount? n "vulnerabilities" none severity = n.countOf? severity := by
  rw [severityCount?, countOf?, String.append_assoc]
  rfl

theorem knownTotal?_eq_givenTotal? (n : RawNode) :
    knownTotal? n "vulnerabilities" none = n.givenTotal? := by
  have hgiven : knownCounts n "vulnerabilities" none = n.givenCounts :=
    List.filterMap_congr fun severity _ => n.severityCount?_eq_countOf? severity
  rw [knownTotal?, givenTotal?, hgiven]

theorem countOf?_of_givenCounts_eq_nil {n : RawNode} (h : n.givenCounts = []) {severity : String}
    (hseverity : severity ∈ severities) : n.countOf? severity = none :=
  List.filterMap_eq_nil_iff.mp h severity hseverity

end RawNode

namespace Image

/-! ## What is written -/

section Findings

variable {n : RawNode}

theorem fills_givenCount (h : n.CountsApart) {severity : String}
    (hseverity : severity ∈ severities) :
    n.classify.Fills (severity ++ "_vulnerabilities") ((n.countOf? severity).map .ofCount)
      (.ofCount 0) := by
  have hfills := fills_count h.rule hseverity
  rw [h.without_map, n.severityCount?_eq_countOf?] at hfills
  exact hfills

theorem fills_givenTotal (h : n.CountsApart) :
    n.classify.Fills "total_vulnerabilities" (n.givenTotal?.map .ofCount) (.ofCount 0) := by
  have hfills := fills_total h.rule
  rw [RawNode.imageTotal?, h.without_map] at hfills
  dsimp only at hfills
  rw [h.without_total, Option.none_or, n.knownTotal?_eq_givenTotal?] at hfills
  exact hfills

end Findings

/-! ## What was counted last -/

/-- The count of a severity that was given last, or zero. -/
def lastCount (ns : List RawNode) (severity : String) : UInt64 :=
  (ns.filterMap (·.countOf? severity)).getLast?.getD 0

/-- The last observation that gives any count. -/
def lastCounting? (ns : List RawNode) : Option RawNode :=
  ns.reverse.find? (·.givenCounts ≠ [])

/-- The total of the last observation that gives any count, or zero. -/
def lastTotal (ns : List RawNode) : UInt64 :=
  ((lastCounting? ns).map fun n => saturatingSum n.givenCounts).getD 0

theorem lastCount_concat (ns : List RawNode) (n : RawNode) (severity : String) :
    lastCount (ns ++ [n]) severity = (n.countOf? severity).getD (lastCount ns severity) := by
  rw [lastCount, Classification.getLast?_filterMap_concat, Option.getD_or]
  rfl

theorem lastCounting?_concat (ns : List RawNode) (n : RawNode) :
    lastCounting? (ns ++ [n]) = if n.givenCounts = [] then lastCounting? ns else some n := by
  rw [lastCounting?, List.reverse_append, List.reverse_singleton, List.singleton_append]
  split
  · next hnone => exact List.find?_cons_of_neg (by simpa using hnone)
  · next hsome => exact List.find?_cons_of_pos (by simpa using hsome)

/-- The last observation that counts anything decides about the severities that it counts. -/
theorem lastCount_cases (ns : List RawNode) {severity : String} (hseverity : severity ∈ severities) :
    ∃ earlier,
      lastCount ns severity = ((lastCounting? ns).bind (·.countOf? severity)).getD earlier ∧
        (lastCounting? ns = none → earlier = 0) := by
  induction ns using List.reverseRecOn with
  | nil => exact ⟨0, rfl, fun _ => rfl⟩
  | append_singleton ns n ih =>
      rw [lastCount_concat, lastCounting?_concat]
      split
      · -- an observation without counts changes neither side
        next hnone =>
          rw [RawNode.countOf?_of_givenCounts_eq_nil hnone hseverity]
          exact ih
      · exact ⟨lastCount ns severity, rfl, nofun⟩

theorem lastTotal_eq_getLast? (ns : List RawNode) :
    lastTotal ns = (ns.filterMap (·.givenTotal?)).getLast?.getD 0 := by
  refine congrArg (Option.getD · 0) ?_
  induction ns using List.reverseRecOn with
  | nil => rfl
  | append_singleton ns n ih =>
      rw [Classification.getLast?_filterMap_concat, ← ih, lastCounting?_concat, RawNode.givenTotal?]
      split
      · rfl
      · rfl

section Merged

variable {node : Node} {id : String} {ns : List RawNode}

theorem find?_ofCount (h : node.Merges id ns) {key : String} {read : RawNode → Option UInt64}
    (hfills : ∀ n ∈ ns, n.classify.Fills key ((read n).map .ofCount) (.ofCount 0)) :
    node.properties.find? key = some (.ofCount ((ns.filterMap read).getLast?.getD 0)) := by
  rw [h.find?_of_fills hfills, ← List.map_filterMap, List.getLast?_map, Option.getD_map]

theorem find?_count (h : node.Merges id ns) (himage : ∀ n ∈ ns, n.CountsApart) {severity : String}
    (hseverity : severity ∈ severities) :
    node.properties.find? (severity ++ "_vulnerabilities") =
      some (.ofCount (lastCount ns severity)) :=
  find?_ofCount h fun n hn => fills_givenCount (himage n hn) hseverity

theorem find?_total (h : node.Merges id ns) (himage : ∀ n ∈ ns, n.CountsApart) :
    node.properties.find? "total_vulnerabilities" = some (.ofCount (lastTotal ns)) := by
  rw [lastTotal_eq_getLast?]
  exact find?_ofCount h fun n hn => fills_givenTotal (himage n hn)

end Merged

/-! ## The total and the sum -/

theorem lastTotal_eq_sum (ns : List RawNode) :
    lastTotal ns = saturatingSum
      (severities.map fun severity => ((lastCounting? ns).bind (·.countOf? severity)).getD 0) := by
  rw [lastTotal]
  cases lastCounting? ns with
  | none => rfl
  | some n => exact saturatingSum_filterMap severities n.countOf?

theorem lastTotal_le (ns : List RawNode) :
    lastTotal ns ≤ saturatingSum (severities.map (lastCount ns)) := by
  rw [lastTotal_eq_sum]
  refine saturatingSum_map_le fun severity hseverity => ?_
  obtain ⟨earlier, hcount, -⟩ := lastCount_cases ns hseverity
  rw [hcount]
  -- a severity that was not counted last adds nothing to the total, whatever is shown of it
  cases (lastCounting? ns).bind (·.countOf? severity) with
  | none => exact UInt64.zero_le
  | some count => exact UInt64.le_refl count

/-- The last observation that counts anything leaves out no severity of which a count is shown. -/
def CountsAllLast (ns : List RawNode) : Prop :=
  ∀ n, lastCounting? ns = some n → ∀ severity ∈ severities,
    n.countOf? severity = none → lastCount ns severity = 0

theorem CountsAllLast.lastTotal_eq {ns : List RawNode} (h : CountsAllLast ns) :
    lastTotal ns = saturatingSum (severities.map (lastCount ns)) := by
  rw [lastTotal_eq_sum]
  refine congrArg saturatingSum (List.map_congr_left fun severity hseverity => ?_)
  obtain ⟨earlier, hcount, hearlier⟩ := lastCount_cases ns hseverity
  cases hlast : lastCounting? ns with
  | none =>
      rw [hcount, hlast, hearlier hlast]
  | some n =>
      rw [hlast, Option.bind_some] at hcount
      rw [Option.bind_some]
      cases hgiven : n.countOf? severity with
      | none => exact (h n hlast severity hseverity hgiven).symm
      | some count =>
          rw [hcount, hgiven]
          rfl

/-- The counts by severity and the total that are shown of a node. -/
structure Shows (rows : List Row) (id : String) (count : String → UInt64) (total : UInt64) :
    Prop where
  count_eq : ∀ severity ∈ severities,
    mergedProperty? rows id (severity ++ "_vulnerabilities") = some (.ofCount (count severity))
  total_eq : mergedProperty? rows id "total_vulnerabilities" = some (.ofCount total)

def TotalAgrees (rows : List Row) (id : String) : Prop :=
  ∃ count total, Shows rows id count total ∧ total = saturatingSum (severities.map count)

theorem Shows.totalAgrees_iff {rows : List Row} {id : String} {count : String → UInt64}
    {total : UInt64} (h : Shows rows id count total) :
    TotalAgrees rows id ↔ total = saturatingSum (severities.map count) := by
  have hinj {j : Option Json} {a b : UInt64} (ha : j = some (.ofCount a))
      (hb : j = some (.ofCount b)) : a = b := by
    have hvalue : Json.ofCount a = .ofCount b := Option.some.inj (ha.symm.trans hb)
    exact Number.natural.inj (Json.number.inj hvalue)
  constructor
  · rintro ⟨count', total', h', hsum⟩
    have hcounts : severities.map count' = severities.map count :=
      List.map_congr_left fun severity hseverity =>
        hinj (h'.count_eq severity hseverity) (h.count_eq severity hseverity)
    rw [← hcounts, ← hsum]
    exact hinj h.total_eq h'.total_eq
  · exact fun hsum => ⟨count, total, h, hsum⟩

theorem shows_last {rows : List Row} {id : String} (hseen : observationsIn rows id ≠ [])
    (himage : ∀ n ∈ observationsIn rows id, n.CountsApart) :
    Shows rows id (lastCount (observationsIn rows id)) (lastTotal (observationsIn rows id)) := by
  obtain ⟨node, hmerges, hproperty⟩ := exists_merges hseen
  refine ⟨fun severity hseverity => ?_, ?_⟩
  · rw [hproperty]
    exact find?_count hmerges himage hseverity
  · rw [hproperty]
    exact find?_total hmerges himage

/-- The total of an image is never more than the sum of its counts, and it is the sum if the last
observation that counted anything left out no severity of which a count is shown. -/
theorem total_within_counts {rows : List Row} {id : String} (hseen : observationsIn rows id ≠ [])
    (himage : ∀ n ∈ observationsIn rows id, n.CountsApart) :
    (∃ count total, Shows rows id count total ∧ total ≤ saturatingSum (severities.map count)) ∧
      (CountsAllLast (observationsIn rows id) → TotalAgrees rows id) := by
  have hshows := shows_last hseen himage
  exact ⟨⟨_, _, hshows, lastTotal_le _⟩, fun hlast => hshows.totalAgrees_iff.mpr hlast.lastTotal_eq⟩

def countedRows (first second : List (String × Json)) : List Row :=
  let image (counts : List (String × Json)) : Row :=
    .ofNode { id := .string "6", labels := ["DockerImage"], properties := .ofList counts }
  [image first, image second]

theorem total_within_counts_counted_again :
    let rows := countedRows [("high_vulnerabilities", .ofCount 4)]
      [("high_vulnerabilities", .ofCount 3), ("low_vulnerabilities", .string " 2 ")]
    observationsIn rows "6" ≠ [] ∧ (∀ n ∈ observationsIn rows "6", n.CountsApart) ∧
      CountsAllLast (observationsIn rows "6") ∧ TotalAgrees rows "6" := by
  intro rows
  have hseen : observationsIn rows "6" ≠ [] := List.cons_ne_nil _ _
  have himage : ∀ n ∈ observationsIn rows "6", n.CountsApart := by
    intro n hn
    rcases List.mem_pair.mp hn with rfl | rfl <;> exact ⟨by decide, rfl, rfl⟩
  have hlast : CountsAllLast (observationsIn rows "6") := by
    intro n hn
    obtain rfl := Option.some.inj hn
    decide
  exact ⟨hseen, himage, hlast, (total_within_counts hseen himage).2 hlast⟩

/-- When two observations count different severities, the total forgets what the first one counted. -/
theorem total_behind_counts :
    let rows := countedRows [("critical_vulnerabilities", .ofCount 5)]
      [("high_vulnerabilities", .ofCount 3)]
    observationsIn rows "6" ≠ [] ∧ (∀ n ∈ observationsIn rows "6", n.CountsApart) ∧
      ¬ TotalAgrees rows "6" := by
  intro rows
  have hseen : observationsIn rows "6" ≠ [] := List.cons_ne_nil _ _
  have himage : ∀ n ∈ observationsIn rows "6", n.CountsApart := by
    intro n hn
    rcases List.mem_pair.mp hn with rfl | rfl <;> exact ⟨by decide, rfl, rfl⟩
  refine ⟨hseen, himage, ?_⟩
  rw [(shows_last hseen himage).totalAgrees_iff]
  decide

end Image

end AssetAtlas

import AssetAtlas.Proofs.Classification.Readings

/-!
Counts and lists of a compliance summary. The counts by severity are whole numbers and the lists are
lists, whatever the store writes in their places. The total stands for the right number as well, but a
total that the store gives is left as it is: it is a whole number only if the store wrote it as one.
-/

namespace AssetAtlas

/-- The total that a summary knows: the one that is given, if it can be read, else the sum of the
counts that are given. -/
def RawNode.summaryTotal? (n : RawNode) : Option Json :=
  if n.count? "total_findings" = none then (knownTotal? n "findings" none).map .ofCount
  else n.properties.find? "total_findings"

namespace ComplianceSummary

def listKeys : List String :=
  ["compliance_standards", "bucket_names", "credential_names", "findings"]

theorem mem_keys_iff (key : String) :
    key ∈ NodeRule.complianceSummary.keys ↔
      key = "compliance_summary" ∨ (∃ severity ∈ severities, key = severity ++ "_findings") ∨
        key = "total_findings" ∨ key ∈ listKeys := by
  simp [NodeRule.keys, listKeys, eq_comm]

section Findings

variable {n : RawNode} (h : NodeRule.select n = .complianceSummary)

include h

theorem finding?_flag :
    n.finding? "compliance_summary" = some (.derived "compliance_summary" (.bool true)) := by
  simp [RawNode.finding?, h, NodeRule.verdict, complianceVerdict]

theorem finding?_count {severity : String} (hseverity : severity ∈ severities) :
    n.finding? (severity ++ "_findings") = some (countFinding n "findings" none severity) := by
  rw [RawNode.finding?, h]
  simp only [severities, List.mem_cons, List.not_mem_nil, or_false] at hseverity
  rcases hseverity with rfl | rfl | rfl | rfl <;>
    simp [NodeRule.verdict, complianceVerdict, countFindings, severities]

theorem finding?_total :
    n.finding? "total_findings" =
      if n.count? "total_findings" = none then some (totalFinding n "findings" none) else none := by
  rw [RawNode.finding?, h]
  simp [-List.map_map, NodeRule.verdict, complianceVerdict, countFindings, severities,
    Finding.lookup_listFindings]

theorem finding?_list {key : String} (hkey : key ∈ listKeys) :
    n.finding? key =
      if key = "compliance_standards" ∨ n.properties.contains key then some (listFinding n key).1
      else none := by
  rw [RawNode.finding?, h]
  simp only [listKeys, List.mem_cons, List.not_mem_nil, or_false] at hkey
  rcases hkey with rfl | rfl | rfl | rfl <;>
    simp [-List.map_map, NodeRule.verdict, complianceVerdict, countFindings, severities,
      Finding.lookup_listFindings]

theorem fills_count {severity : String} (hseverity : severity ∈ severities) :
    n.classify.Fills (severity ++ "_findings") ((n.count? (severity ++ "_findings")).map .ofCount)
      (.ofCount 0) := by
  apply Classification.fills_of_ofOption
  rw [finding?_count h hseverity, countFinding_eq, severityCount?_none, String.append_assoc]
  rfl

theorem fills_total : n.classify.Fills "total_findings" n.summaryTotal? (.ofCount 0) := by
  have hfinding := finding?_total h
  unfold RawNode.summaryTotal?
  by_cases hcount : n.count? "total_findings" = none
  · rw [if_pos hcount]
    apply Classification.fills_of_ofOption
    rw [hfinding, if_pos hcount, totalFinding_eq]
    rfl
  · rw [if_neg hcount]
    rw [if_neg hcount] at hfinding
    refine ⟨Classification.observed?_of_none hfinding, fun hmissing => absurd ?_ hcount⟩
    rw [RawNode.count?, hmissing]
    rfl

theorem fills_list {key : String} (hkey : key ∈ listKeys)
    (hwritten : key = "compliance_standards" ∨ n.properties.contains key) :
    n.classify.Fills key ((n.list? key).map .array) (.array []) := by
  apply Classification.fills_of_ofOption
  rw [finding?_list h hkey, if_pos hwritten, listFinding_fst]

end Findings

/-! ## What a summary shows -/

/-- The count of a severity: what the node gives, or none. -/
def countOf (n : RawNode) (severity : String) : UInt64 :=
  (n.count? (severity ++ "_findings")).getD 0

/-- The total that the node gives, or the sum of its counts. -/
def totalOf (n : RawNode) : UInt64 :=
  (n.count? "total_findings").getD (saturatingSum (severities.map (countOf n)))

/-- The items of a list that the node gives, or none. -/
def itemsOf (n : RawNode) (key : String) : List Json :=
  (n.list? key).getD []

/-- A total that can be read as a count is written as a whole number. -/
def GivesWholeTotal (n : RawNode) : Prop :=
  ∀ count, n.count? "total_findings" = some count →
    n.properties.find? "total_findings" = some (.ofCount count)

theorem summaryTotal?_of_none {n : RawNode} (h : n.count? "total_findings" = none) :
    n.summaryTotal?.getD (.ofCount 0) = .ofCount (totalOf n) := by
  rw [RawNode.summaryTotal?, if_pos h, Option.getD_map, totalOf, h]
  exact congrArg Json.ofCount (getD_knownTotal? n "findings" none)

theorem summaryTotal?_of_some {n : RawNode} {count : UInt64}
    (h : n.count? "total_findings" = some count) :
    ∃ value, n.properties.find? "total_findings" = some value ∧ value.count? = some count ∧
      n.summaryTotal? = some value ∧ totalOf n = count := by
  obtain ⟨value, hvalue, hcount⟩ := Option.bind_eq_some_iff.mp h
  refine ⟨value, hvalue, hcount, ?_, ?_⟩
  · rw [RawNode.summaryTotal?, if_neg (by rw [h]; exact nofun), hvalue]
  · rw [totalOf, h]
    rfl

section Shown

variable {n : RawNode} (h : NodeRule.select n = .complianceSummary)

include h

theorem find?_count {severity : String} (hseverity : severity ∈ severities) :
    n.classify.properties.find? (severity ++ "_findings") =
      some (.ofCount (countOf n severity)) :=
  (fills_count h hseverity).find?_map

theorem exists_find?_total :
    ∃ total, n.classify.properties.find? "total_findings" = some total ∧
      total.count? = some (totalOf n) := by
  refine ⟨_, (fills_total h).find?_eq, ?_⟩
  cases hcount : n.count? "total_findings" with
  | none =>
      rw [summaryTotal?_of_none hcount]
      rfl
  | some count =>
      obtain ⟨value, -, hvalue, hshown, htotalOf⟩ := summaryTotal?_of_some hcount
      rw [hshown, htotalOf]
      exact hvalue

theorem find?_total_iff :
    n.classify.properties.find? "total_findings" = some (.ofCount (totalOf n)) ↔
      GivesWholeTotal n := by
  rw [(fills_total h).find?_eq]
  cases hcount : n.count? "total_findings" with
  | none =>
      rw [summaryTotal?_of_none hcount]
      exact iff_of_true rfl fun count hsome => nomatch hcount.symm.trans hsome
  | some count =>
      obtain ⟨value, hgiven, -, hshown, htotalOf⟩ := summaryTotal?_of_some hcount
      rw [hshown, htotalOf, GivesWholeTotal, hcount, hgiven]
      simp

theorem find?_list {key : String} (hkey : key ∈ listKeys) :
    n.classify.properties.find? key =
      if key = "compliance_standards" ∨ n.properties.contains key then
        some (.array (itemsOf n key))
      else none := by
  split
  · next hwritten => exact (fills_list h hkey hwritten).find?_map
  · next hmissing =>
      obtain ⟨-, habsent⟩ := not_or.mp hmissing
      rw [Classification.find?_properties, finding?_list h hkey, if_neg hmissing]
      simpa [Dictionary.contains] using habsent

end Shown

/-- The properties hold the counts and the lists of a summary. -/
structure Summarizes (n : RawNode) (p : Properties) : Prop where
  count_eq : ∀ severity ∈ severities,
    p.find? (severity ++ "_findings") = some (.ofCount (countOf n severity))
  total_stands : ∃ total, p.find? "total_findings" = some total ∧ total.count? = some (totalOf n)
  total_eq_iff : p.find? "total_findings" = some (.ofCount (totalOf n)) ↔ GivesWholeTotal n
  standards_eq : p.find? "compliance_standards" =
    some (.array (itemsOf n "compliance_standards"))
  list_eq : ∀ key ∈ ["bucket_names", "credential_names", "findings"],
    p.find? key = if n.properties.contains key then some (.array (itemsOf n key)) else none

/-- A compliance summary shows whole numbers and lists, except that a total that can be read stays
as it is. -/
theorem summary_shows_counts_and_lists {n : RawNode} (h : NodeRule.select n = .complianceSummary) :
    Summarizes n n.classify.properties where
  count_eq _ hseverity := find?_count h hseverity
  total_stands := exists_find?_total h
  total_eq_iff := find?_total_iff h
  standards_eq := find?_list h List.mem_cons_self
  list_eq := by
    intro key hkey
    have hne : key ≠ "compliance_standards" := by
      rintro rfl
      exact absurd hkey (by decide)
    rw [find?_list h (List.mem_cons_of_mem _ hkey)]
    simp only [hne, false_or]

/-- A summary with a total that is written as a text, and with counts and lists in other forms. -/
def textTotal (total : Json) : RawNode where
  id := .string "7"
  labels := ["S3ComplianceSummary"]
  properties := .ofList
    [("critical_findings", .string " 3 "), ("high_findings", .number (.negative (-1))),
      ("findings", .bool true), ("bucket_names", .string " logs "), ("total_findings", total)]

theorem summary_shows_counts_and_lists_mixed :
    let n := textTotal (.string "many")
    NodeRule.select n = .complianceSummary ∧ Summarizes n n.classify.properties ∧
      n.classify.properties.find? "total_findings" = some (.ofCount 3) := by
  intro n
  have hrule : NodeRule.select n = .complianceSummary := by decide
  have hshows := summary_shows_counts_and_lists hrule
  have hunreadable : n.count? "total_findings" = none := by decide
  refine ⟨hrule, hshows, hshows.total_eq_iff.mpr ?_⟩
  intro count hcount
  exact nomatch hunreadable.symm.trans hcount

/-- A total that is written as a text stays a text. -/
theorem text_total_stays_text :
    let n := textTotal (.string "9")
    NodeRule.select n = .complianceSummary ∧ n.count? "total_findings" = some 9 ∧
      n.classify.properties.find? "total_findings" = some (.string "9") ∧
      n.classify.properties.find? "total_findings" ≠ some (.ofCount 9) := by
  decide

end ComplianceSummary

end AssetAtlas

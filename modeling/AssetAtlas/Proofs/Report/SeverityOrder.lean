import AssetAtlas.Loading.Loader
import AssetAtlas.Proofs.Classification.Severity
import AssetAtlas.Report.Summary

/-!
The order of the table of vulnerabilities. The table goes by the exact text of a severity. This is the
order of the severities themselves, whatever the case in which the store reports them, as long as the
nodes of the table have severities that are spelled in lower case.
-/

namespace AssetAtlas

/-- The place of the severity of a node among the known ones, in any case of its letters. All other
nodes stand behind them. -/
def Node.severityLevel (n : Node) : Nat :=
  match severityText? n.properties with
  | some s => severities.idxOf (Text.asciiLower s)
  | none => severities.length

/-! ## Grouping by rank -/

section Grouping

variable {α : Type} (rank : α → Nat) (l : List α)

theorem perm_flatMap_filter (bound : Nat) :
    ((List.range bound).flatMap fun r => l.filter (rank · = r)).Perm
      (l.filter (rank · < bound)) := by
  induction bound with
  | zero => simp
  | succ bound ih =>
      -- the filter for the next bound falls apart into what was listed before and the new rank
      have hbelow : (l.filter (rank · < bound + 1)).filter (rank · < bound) =
          l.filter (rank · < bound) := by
        rw [List.filter_filter]
        refine List.filter_congr fun a _ => ?_
        rw [← Bool.decide_and]
        exact decide_eq_decide.mpr (by omega)
      have hat : (l.filter (rank · < bound + 1)).filter (fun a => !decide (rank a < bound)) =
          l.filter (rank · = bound) := by
        rw [List.filter_filter]
        refine List.filter_congr fun a _ => ?_
        rw [← decide_not, ← Bool.decide_and]
        exact decide_eq_decide.mpr (by omega)
      have hsplit := List.filter_append_perm (rank · < bound) (l.filter (rank · < bound + 1))
      rw [hbelow, hat] at hsplit
      rw [List.range_succ, List.flatMap_append, List.flatMap_singleton]
      exact (ih.append_right _).trans hsplit

theorem pairwise_flatMap_filter (bound : Nat) :
    ((List.range bound).flatMap fun r => l.filter (rank · = r)).Pairwise
      fun a b => rank a ≤ rank b := by
  rw [List.pairwise_flatMap]
  constructor
  · -- within one rank
    intro r _
    refine List.pairwise_of_forall_mem_list fun a ha b hb => ?_
    have harank := of_decide_eq_true (List.mem_filter.mp ha).2
    have hbrank := of_decide_eq_true (List.mem_filter.mp hb).2
    omega
  · -- between two of them
    refine List.pairwise_lt_range.imp fun hlt a ha b hb => ?_
    have harank := of_decide_eq_true (List.mem_filter.mp ha).2
    have hbrank := of_decide_eq_true (List.mem_filter.mp hb).2
    omega

end Grouping

namespace Summary

theorem severityRank_le (s : String) : severityRank s ≤ severities.length :=
  List.idxOf_le_length

theorem rankedVulnerabilities_perm (g : Graph) :
    (rankedVulnerabilities g).Perm (g.nodes.filter (·.kind == "vulnerability")) := by
  have hall (found : List Node) : found.filter
      (fun n => severityRank (shown n "severity") < severities.length + 1) = found :=
    List.filter_eq_self.mpr fun n _ => decide_eq_true (Nat.lt_succ_of_le (severityRank_le _))
  have hgroups := perm_flatMap_filter (fun n => severityRank (shown n "severity"))
    (g.nodes.filter (·.kind == "vulnerability")) (severities.length + 1)
  rw [hall] at hgroups
  exact hgroups

theorem rankedVulnerabilities_pairwise (g : Graph) :
    (rankedVulnerabilities g).Pairwise fun a b =>
      severityRank (shown a "severity") ≤ severityRank (shown b "severity") :=
  pairwise_flatMap_filter _ _ _

theorem severityRank_asciiLower {s : String} (h : isMiscased s = false) :
    severityRank (Text.asciiLower s) = severityRank s := by
  have hlevels : ∀ level ∈ severities, Text.asciiLower level = level := by decide
  by_cases hknown : s ∈ severities
  · rw [hlevels s hknown]
  · have hunknown : Text.asciiLower s ∉ severities := by
      simpa [isMiscased, hknown] using h
    rw [severityRank, severityRank, List.idxOf_eq_length hknown, List.idxOf_eq_length hunknown]

theorem severityRank_shown {n : Node} (h : ∀ s ∈ severityText? n.properties, isMiscased s = false) :
    severityRank (shown n "severity") = n.severityLevel := by
  have hshown : shown n "severity" = (severityText? n.properties).getD "-" := rfl
  rw [hshown, Node.severityLevel]
  cases hs : severityText? n.properties with
  | none => decide
  | some s => exact (severityRank_asciiLower (h s hs)).symm

end Summary

/-! ## Nodes of a report -/

theorem Assembly.Merged.merges_of_mem {ns : List RawNode} {nodes : List Node} {ids : List String}
    (h : Merged ns nodes ids) {node : Node} (hnode : node ∈ nodes) :
    node.Merges node.id (observationsOf ns node.id) := by
  induction h with
  | nil => exact nomatch hnode
  | cons hfirst _ ih =>
      rcases List.mem_cons.mp hnode with rfl | hrest
      · rw [hfirst.id_eq]
        exact hfirst
      · exact ih hrest

theorem merges_of_mem_normalize {rows : List Row} {node : Node}
    (h : node ∈ (normalize rows).1.nodes) : node.Merges node.id (observationsIn rows node.id) := by
  have hmerged := Assembly.merged_foldl (rows.flatMap Row.nodes)
  rw [← Assembly.nodes_ofRows] at hmerged
  exact hmerged.merges_of_mem h

theorem Internet.exists_of_mem_record {connections : Nat} {nodes : List Node} {node : Node}
    (h : node ∈ record connections nodes) (hkind : node.kind = "vulnerability") :
    ∃ node' ∈ nodes, node'.kind = "vulnerability" ∧
      severityText? node'.properties = severityText? node.properties := by
  induction nodes with
  | nil =>
      -- the new node is no vulnerability
      obtain rfl := List.mem_singleton.mp h
      have hne : nodeId ≠ "vulnerability" := by decide
      exact absurd hkind hne
  | cons first rest ih =>
      rw [record] at h
      split at h
      · rcases List.mem_cons.mp h with rfl | hrest
        · -- what is recorded on the node that is there already is no severity
          refine ⟨first, List.mem_cons_self, hkind, ?_⟩
          rw [severityText?, severityText?, Dictionary.find?_insert, if_neg (by decide)]
        · exact ⟨node, List.mem_cons_of_mem _ hrest, hkind, rfl⟩
      · rcases List.mem_cons.mp h with rfl | hrest
        · exact ⟨node, List.mem_cons_self, hkind, rfl⟩
        · obtain ⟨node', hnode', hsame⟩ := ih hrest
          exact ⟨node', List.mem_cons_of_mem _ hnode', hsame⟩

theorem Inquiry.exists_of_mem_graph {i : Inquiry} {rows : List Row} {node : Node}
    (h : node ∈ (i.graph rows).1.nodes) (hkind : node.kind = "vulnerability") :
    ∃ node' ∈ (normalize rows).1.nodes, node'.kind = "vulnerability" ∧
      severityText? node'.properties = severityText? node.properties := by
  unfold graph at h
  dsimp only at h
  split at h
  · unfold Graph.withInternet at h
    dsimp only at h
    split at h
    · exact ⟨node, h, hkind, rfl⟩
    · exact Internet.exists_of_mem_record h hkind
  · exact ⟨node, h, hkind, rfl⟩

/-- Wherever another rule than that for vulnerabilities judges the observation that says the severity
of a vulnerability, the severity is not one of the known ones in the wrong case. -/
def SpellsSeverities (rows : List Row) : Prop :=
  ∀ node ∈ (normalize rows).1.nodes, node.kind = "vulnerability" →
    ∀ n ∈ lastSaying? (observationsIn rows node.id) "severity",
      NodeRule.select n ≠ .vulnerability → ∀ s ∈ severityText? n.properties, isMiscased s = false

theorem SpellsSeverities.isMiscased {rows : List Row} (h : SpellsSeverities rows) {i : Inquiry}
    {node : Node} (hnode : node ∈ (i.graph rows).1.nodes) (hkind : node.kind = "vulnerability") :
    ∀ s ∈ severityText? node.properties, AssetAtlas.isMiscased s = false := by
  obtain ⟨node', hnode', hkind', hsame⟩ := Inquiry.exists_of_mem_graph hnode hkind
  rw [← hsame]
  exact (merges_of_mem_normalize hnode').isMiscased (h node' hnode' hkind')

/-- The table of vulnerabilities of a Markdown report lists all of them, the more severe ones first
and those without a known severity last. The case in which a severity is reported does not matter to
the rule for vulnerabilities; where another rule had the last word, it has to be the lower one. -/
theorem vulnerabilities_by_severity {rows : List Row} (h : SpellsSeverities rows) (i : Inquiry)
    (r : Report) (hr : r.snapshot.graph = (i.graph rows).1) :
    ∃ listed : List Node,
      listed.Perm (r.snapshot.graph.nodes.filter (·.kind == "vulnerability")) ∧
      listed.Pairwise (fun a b => a.severityLevel ≤ b.severityLevel) ∧
      (listed ≠ [] → ∃ before after,
        r.text .markdown =
          before ++ Summary.lines (Summary.vulnerabilityTable listed).sectionLines ++ after) := by
  have hperm := Summary.rankedVulnerabilities_perm r.snapshot.graph
  have hlevel : ∀ node ∈ Summary.rankedVulnerabilities r.snapshot.graph,
      Summary.severityRank (Summary.shown node "severity") = node.severityLevel := by
    intro node hnode
    obtain ⟨hmem, hkind⟩ := List.mem_filter.mp (hperm.subset hnode)
    rw [hr] at hmem
    exact Summary.severityRank_shown (h.isMiscased hmem (beq_iff_eq.mp hkind))
  refine ⟨_, hperm, ?_, fun _ => ?_⟩
  · refine (Summary.rankedVulnerabilities_pairwise _).imp_of_mem fun ha hb hle => ?_
    rwa [hlevel _ ha, hlevel _ hb] at hle
  · refine ⟨Summary.overview r.snapshot ++
        Summary.countSection "Node Types" "Type" (r.snapshot.graph.nodes.map (·.kind)) ++
        Summary.countSection "Relationships" "Relationship" (r.snapshot.graph.edges.map (·.kind)),
      Summary.exposureSection r.snapshot.graph ++ Summary.skippedSection r.snapshot.warnings, ?_⟩
    rw [← String.append_assoc]
    rfl

/-- A known exploited vulnerability that a scan reports as well, and one without a severity. -/
def mixedRows : List Row :=
  [.ofNode
      { id := .string "1"
        labels := ["knownexploitedvulnerability"]
        properties := .ofList [("cve_id", .string "CVE-1"), ("severity", .string "High")] },
    .ofNode
      { id := .string "2"
        labels := ["knownexploitedvulnerability"]
        properties := .ofList [("cve_id", .string "CVE-2")] },
    .ofNode
      { id := .string "1"
        labels := ["vulnerability"]
        properties := .ofList [("severity", .string "High")] }]

theorem vulnerabilities_by_severity_mixed :
    let s : Snapshot := { Snapshot.empty 25 1 ⟨0, 0⟩ with graph := (normalize mixedRows).1 }
    SpellsSeverities mixedRows ∧
      ∃ listed : List Node, listed.map (·.severityLevel) = [0, 1] ∧
        ∃ before after, Summary.text s =
          before ++ Summary.lines (Summary.vulnerabilityTable listed).sectionLines ++ after := by
  intro s
  have hrows : SpellsSeverities mixedRows ∧
      ((s.graph.nodes.filter (·.kind == "vulnerability")).map (·.severityLevel)).Perm [0, 1] := by
    unfold SpellsSeverities
    decide +kernel
  obtain ⟨hspells, hlevels⟩ := hrows
  obtain ⟨listed, hperm, hsorted, htext⟩ :=
    vulnerabilities_by_severity hspells {} { snapshot := s } rfl
  have hperm := hperm.map Node.severityLevel
  have hlisted : listed.map Node.severityLevel = [0, 1] :=
    List.Perm.eq_of_pairwise (fun _ _ _ _ => Nat.le_antisymm) (List.pairwise_map.mpr hsorted)
      (by decide) (hperm.trans hlevels)
  refine ⟨hspells, listed, hlisted, htext ?_⟩
  rintro rfl
  exact nomatch hlisted

/-- A scanned vulnerability, and one known to be exploited that is critical in capital letters. -/
def capitalRows : List Row :=
  [.ofNode
      { id := .string "1"
        labels := ["vulnerability"]
        properties := .ofList [("vulnerability_id", .string "CVE-1"), ("severity", .string "LOW")] },
    .ofNode
      { id := .string "2"
        labels := ["knownexploitedvulnerability"]
        properties := .ofList [("cve_id", .string "CVE-2"), ("severity", .string "CRITICAL")] }]

/-- The rule for known exploited vulnerabilities keeps the capital letters, and such a vulnerability
comes last. -/
theorem capital_severity_comes_last :
    (Summary.rankedVulnerabilities (normalize capitalRows).1).map
        (fun n => (n.label, n.severityLevel)) = [("CVE-1", 3), ("CVE-2", 0)] ∧
      Summary.vulnerabilitySection (normalize capitalRows).1 = Summary.lines
        ["## Vulnerabilities", "", "| CVE | Severity | Package | Version | Fixed Version | KEV |",
          "|-----|----------|---------|---------|---------------|-----|",
          "| CVE-1 | low | - | Various versions | - | no |",
          "| CVE-2 | CRITICAL | - | - | - | ⚠️ yes |", ""] := by
  decide +kernel

end AssetAtlas

import AssetAtlas.Proofs.Classification.Readings

/-!
Vulnerabilities that are known to be exploited. Whatever else an observation looks like, the label
decides, and every observation writes the flag, a severity and a list of weaknesses. So none of these
gets lost when observations are merged.
-/

namespace AssetAtlas

/-- Whether a value can stand for an attribute: a text that is not blank, or a number. -/
def Json.isUsable : Json → Bool
  | .string s => !(Text.trim s).isEmpty
  | .number _ => true
  | _ => false

namespace RawNode

def usable? (n : RawNode) (key : String) : Option Json :=
  (n.properties.find? key).filter Json.isUsable

theorem text?_eq_none_iff (n : RawNode) (key : String) :
    n.text? key = none ↔ n.usable? key = none := by
  unfold text? usable?
  split
  · next s hfind => simp [hfind, Json.isUsable]
  · next x hfind => simp [hfind, Json.isUsable]
  · next htext hnumber =>
      refine iff_of_true rfl (Option.filter_eq_none_iff.mpr fun value hvalue => ?_)
      cases value with
      | string s => exact absurd hvalue (htext s)
      | number x => exact absurd hvalue (hnumber x)
      | null | bool _ | array _ | object _ => exact Bool.false_ne_true

end RawNode

namespace KnownExploited

variable {n : RawNode}

theorem select_of_hasLabel (h : n.hasLabel "knownexploitedvulnerability") :
    NodeRule.select n = .knownExploited := by
  have happlies : NodeRule.applies n .knownExploited = true := h
  rw [NodeRule.select, NodeRule.priority, List.find?_cons_of_pos happlies]
  rfl

theorem finding?_kev (h : NodeRule.select n = .knownExploited) :
    n.finding? "kev" = some (.derived "kev" (.bool true)) := by
  simp [RawNode.finding?, h, NodeRule.verdict, knownExploitedVerdict]

theorem finding?_cwes (h : NodeRule.select n = .knownExploited) :
    n.finding? "cwes" = some (listFinding n "cwes").1 := by
  simp [RawNode.finding?, h, NodeRule.verdict, knownExploitedVerdict]

theorem finding?_severity (h : NodeRule.select n = .knownExploited) :
    n.finding? "severity" =
      if n.text? "severity" = none then some (.placeholder "severity" (.string "critical"))
      else none := by
  simp [RawNode.finding?, h, NodeRule.verdict, knownExploitedVerdict]

theorem fills_severity (h : NodeRule.select n = .knownExploited) :
    n.classify.Fills "severity" (n.usable? "severity") (.string "critical") := by
  have hfinding := finding?_severity h
  cases husable : n.usable? "severity" with
  | none =>
      rw [if_pos ((n.text?_eq_none_iff _).mpr husable)] at hfinding
      exact Classification.fills_of_placeholder hfinding
  | some value =>
      have htext : n.text? "severity" ≠ none := by
        rw [Ne, n.text?_eq_none_iff, husable]
        exact nofun
      rw [if_neg htext] at hfinding
      refine ⟨?_, nofun⟩
      rw [Classification.observed?_of_none hfinding]
      exact (Option.filter_eq_some_iff.mp husable).1

theorem kind_classify (h : NodeRule.select n = .knownExploited) :
    n.classify.kind = "vulnerability" := by
  rw [RawNode.classify, h]
  rfl

theorem find?_kev (h : NodeRule.select n = .knownExploited) :
    n.classify.properties.find? "kev" = some (.bool true) := by
  rw [Classification.find?_properties, finding?_kev h]
  rfl

theorem fills_cwes (h : NodeRule.select n = .knownExploited) :
    n.classify.Fills "cwes" ((n.list? "cwes").map .array) (.array []) := by
  apply Classification.fills_of_ofOption
  rw [finding?_cwes h, listFinding_fst]

theorem find?_cwes (h : NodeRule.select n = .knownExploited) :
    n.classify.properties.find? "cwes" = some (.array ((n.list? "cwes").getD [])) :=
  (fills_cwes h).find?_map

end KnownExploited

/-- A node is shown as a vulnerability that is exploited: flagged, with a list of weaknesses, and
with the severity that was reported last or else the highest one. -/
structure Node.IsFlagged (node : Node) (ns : List RawNode) : Prop where
  kind_eq : node.kind = "vulnerability"
  kev_eq : node.properties.find? "kev" = some (.bool true)
  cwes_eq : ∃ items, node.properties.find? "cwes" = some (.array items)
  severity_eq : node.properties.find? "severity" =
    some ((ns.filterMap (·.usable? "severity")).getLast?.getD (.string "critical"))

/-- A node whose observations all carry the label of exploited vulnerabilities stays flagged, however
many observations are merged and whatever else they look like. -/
theorem exploited_stays_flagged {rows : List Row} {id : String}
    (hseen : observationsIn rows id ≠ [])
    (hlabel : ∀ n ∈ observationsIn rows id, n.hasLabel "knownexploitedvulnerability") :
    ∃ node, (normalize rows).1.node? id = some node ∧ node.IsFlagged (observationsIn rows id) := by
  obtain ⟨node, hnode, hmerges⟩ := exists_node?_normalize hseen
  have hselect : ∀ n ∈ observationsIn rows id, NodeRule.select n = .knownExploited :=
    fun n hn => KnownExploited.select_of_hasLabel (hlabel n hn)
  refine ⟨node, hnode, ?_, ?_, ?_, ?_⟩
  · obtain ⟨first, hfirst, -, hkind, -⟩ := hmerges.first
    rw [hkind]
    exact KnownExploited.kind_classify (hselect first (List.mem_of_head? hfirst))
  · obtain ⟨value, hvalue, rfl⟩ := hmerges.exists_find? (P := (· = Json.bool true)) fun n hn =>
      ⟨_, KnownExploited.find?_kev (hselect n hn), rfl⟩
    exact hvalue
  · obtain ⟨value, hvalue, items, rfl⟩ := hmerges.exists_find? (P := (∃ items, · = .array items))
      fun n hn => ⟨_, KnownExploited.find?_cwes (hselect n hn), _, rfl⟩
    exact ⟨items, hvalue⟩
  · exact hmerges.find?_of_fills fun n hn => KnownExploited.fills_severity (hselect n hn)

/-- An exploited vulnerability that also looks like an image and like a compliance summary, and that
is seen again without a severity. -/
def exploitedRows : List Row :=
  [.ofNode
      { id := .string "9"
        labels := ["dockerimage", "KnownExploitedVulnerability"]
        properties := .ofList
          [("name", .string "database pii"), ("kev", .bool false), ("cwes", .bool true),
            ("severity", .string "High")] },
    .ofNode
      { id := .string "9"
        labels := ["knownexploitedvulnerability"]
        properties := .ofList [("severity", .string " ")] }]

theorem exploited_stays_flagged_seen_twice :
    observationsIn exploitedRows "9" ≠ [] ∧
      (∀ n ∈ observationsIn exploitedRows "9", n.hasLabel "knownexploitedvulnerability") ∧
      ∃ node, (normalize exploitedRows).1.node? "9" = some node ∧
        node.IsFlagged (observationsIn exploitedRows "9") := by
  have hseen : observationsIn exploitedRows "9" ≠ [] := List.cons_ne_nil _ _
  have hlabel : ∀ n ∈ observationsIn exploitedRows "9",
      n.hasLabel "knownexploitedvulnerability" := by
    decide
  exact ⟨hseen, hlabel, exploited_stays_flagged hseen hlabel⟩

end AssetAtlas

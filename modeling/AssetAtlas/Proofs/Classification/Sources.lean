import AssetAtlas.Proofs.Classification.ComplianceSummary
import AssetAtlas.Proofs.Classification.ImageCounts
import AssetAtlas.Proofs.Classification.KnownExploited
import AssetAtlas.Proofs.Classification.Vulnerability

/-!
How far classification reaches. For each of its keys a rule has a source in the node, which may be
dry. What the source holds is shown under the key, and only where there is nothing to show may a
placeholder stand. All other keys are out of reach.
-/

namespace AssetAtlas

/-- What a rule can derive from a node under each of its keys. -/
def RawNode.sources (n : RawNode) : NodeRule → List (String × Option Json)
  | .knownExploited =>
    [("kev", some (.bool true)), ("severity", n.usable? "severity"),
      ("cwes", (n.list? "cwes").map .array)]
  | .complianceSummary =>
    ("compliance_summary", some (.bool true)) ::
      severities.map (fun severity =>
        (severity ++ "_findings", (n.count? (severity ++ "_findings")).map .ofCount)) ++
      [("total_findings", n.summaryTotal?)] ++
      ComplianceSummary.listKeys.map fun key => (key, (n.list? key).map .array)
  | .containerImage =>
    severities.map (fun severity => (severity ++ "_vulnerabilities",
        (severityCount? n "vulnerabilities" (imageCounts n).1 severity).map .ofCount)) ++
      [("total_vulnerabilities", n.imageTotal?.map .ofCount)]
  | .vulnerability =>
    ["vulnerability_id", "package_version", "package_name", "fixed_version", "severity"].map
        (fun key => (key, (n.attribute? key).map .string)) ++
      [("kev", n.flag?.map .bool)]
  | .cloudResource | .generic => []

theorem keys_sources (n : RawNode) (rule : NodeRule) : (n.sources rule).map (·.1) = rule.keys := by
  cases rule <;> rfl

theorem exists_mem_sources {n : RawNode} {rule : NodeRule} {key : String} (h : key ∈ rule.keys) :
    ∃ value?, (key, value?) ∈ n.sources rule := by
  rw [← keys_sources n rule] at h
  obtain ⟨⟨_, value?⟩, hsource, rfl⟩ := List.mem_map.mp h
  exact ⟨value?, hsource⟩

/-! ## Sources are shown -/

section Shown

variable {n : RawNode} {key : String} {value : Json}

theorem KnownExploited.observed?_of_mem_sources (h : NodeRule.select n = .knownExploited)
    (hsource : (key, some value) ∈ n.sources .knownExploited) :
    n.classify.observed? key = some value := by
  simp only [RawNode.sources, List.mem_cons, List.not_mem_nil, or_false, Prod.mk.injEq] at hsource
  rcases hsource with ⟨rfl, hvalue⟩ | ⟨rfl, hvalue⟩ | ⟨rfl, hvalue⟩
  · rw [hvalue]
    exact (Classification.fills_of_derived (finding?_kev h) .null).1
  · rw [hvalue]
    exact (fills_severity h).1
  · rw [hvalue]
    exact (fills_cwes h).1

theorem ComplianceSummary.observed?_of_list? (h : NodeRule.select n = .complianceSummary)
    (hkey : key ∈ listKeys) {items : List Json} (hlist : n.list? key = some items) :
    n.classify.observed? key = some (.array items) := by
  have hgiven : n.properties.contains key := by
    rw [Dictionary.contains]
    cases hfind : n.properties.find? key with
    | none =>
        rw [RawNode.list?, hfind] at hlist
        exact absurd hlist.symm (Option.some_ne_none _)
    | some _ => rfl
  rw [(fills_list h hkey (.inr hgiven)).1, hlist]
  rfl

theorem ComplianceSummary.observed?_of_mem_sources (h : NodeRule.select n = .complianceSummary)
    (hsource : (key, some value) ∈ n.sources .complianceSummary) :
    n.classify.observed? key = some value := by
  simp only [RawNode.sources, List.cons_append, List.mem_cons, List.mem_append, List.mem_map,
    List.not_mem_nil, or_false, Prod.mk.injEq] at hsource
  rcases hsource with ⟨rfl, hvalue⟩ |
    (⟨severity, hseverity, rfl, hvalue⟩ | ⟨rfl, hvalue⟩) | ⟨_, hkey, rfl, hvalue⟩
  · rw [hvalue]
    exact (Classification.fills_of_derived (finding?_flag h) .null).1
  · rw [← hvalue]
    exact (fills_count h hseverity).1
  · rw [hvalue]
    exact (fills_total h).1
  · obtain ⟨items, hitems, rfl⟩ := Option.map_eq_some_iff.mp hvalue
    exact observed?_of_list? h hkey hitems

theorem Image.observed?_of_mem_sources (h : NodeRule.select n = .containerImage)
    (hsource : (key, some value) ∈ n.sources .containerImage) :
    n.classify.observed? key = some value := by
  simp only [RawNode.sources, List.mem_append, List.mem_map, List.mem_cons, List.not_mem_nil,
    or_false, Prod.mk.injEq] at hsource
  rcases hsource with ⟨severity, hseverity, rfl, hvalue⟩ | ⟨rfl, hvalue⟩
  · rw [← hvalue]
    exact (fills_count h hseverity).1
  · rw [hvalue]
    exact (fills_total h).1

theorem Vulnerability.observed?_of_mem_sources (h : NodeRule.select n = .vulnerability)
    (hsource : (key, some value) ∈ n.sources .vulnerability) :
    n.classify.observed? key = some value := by
  rcases List.mem_append.mp hsource with hattribute | hkev
  · obtain ⟨name, hname, hpair⟩ := List.mem_map.mp hattribute
    obtain ⟨rfl, hvalue⟩ := Prod.mk.inj hpair
    obtain ⟨s, hs, rfl⟩ := Option.map_eq_some_iff.mp hvalue
    have hkeys : ["vulnerability_id", "package_version", "package_name", "fixed_version",
        "severity"] ⊆ attributes := by
      decide
    exact observed?_of_attribute? h (hkeys hname) hs
  · obtain ⟨rfl, hvalue⟩ := Prod.mk.inj (List.mem_singleton.mp hkev)
    rw [hvalue]
    exact (fills_kev h).1

theorem Classification.observed?_of_mem_sources {rule : NodeRule} (h : NodeRule.select n = rule)
    (hsource : (key, some value) ∈ n.sources rule) : n.classify.observed? key = some value := by
  cases rule with
  | knownExploited => exact KnownExploited.observed?_of_mem_sources h hsource
  | complianceSummary => exact ComplianceSummary.observed?_of_mem_sources h hsource
  | containerImage => exact Image.observed?_of_mem_sources h hsource
  | vulnerability => exact Vulnerability.observed?_of_mem_sources h hsource
  | cloudResource | generic => exact nomatch hsource

theorem Classification.mem_sources_of_mem_placeholders (h : key ∈ n.classify.placeholders) :
    (key, none) ∈ n.sources n.classify.rule := by
  obtain ⟨value?, hsource⟩ := exists_mem_sources (n := n) (mem_keys_of_mem_placeholders h)
  cases value? with
  | none => exact hsource
  | some value =>
      exact absurd h (not_mem_placeholders_of_observed? (observed?_of_mem_sources rfl hsource))

end Shown

/-! ## What is out of reach -/

/-- A classification keeps to the keys of its rule, each of which has a source: no other property
changes, none is lost, and placeholders stand only under keys whose source is dry. -/
structure Classification.KeepsTo (c : Classification) (p : Properties)
    (sources : List (String × Option Json)) : Prop where
  sources_keys : sources.map (·.1) = c.rule.keys
  nothing_lost : ∀ key, p.contains key → c.properties.contains key
  others_unchanged : ∀ key ∉ c.rule.keys, c.properties.find? key = p.find? key
  sources_shown : ∀ key value, (key, some value) ∈ sources → c.properties.find? key = some value
  placeholders_nodup : c.placeholders.Nodup
  placeholders_stand : ∀ key ∈ c.placeholders, key ∈ c.rule.keys ∧ c.properties.contains key
  placeholders_dry : ∀ key ∈ c.placeholders, (key, none) ∈ sources

/-- Every node is classified within the keys of its rule. -/
theorem classify_keeps_to_sources (n : RawNode) :
    n.classify.KeepsTo n.properties (n.sources n.classify.rule) where
  sources_keys := keys_sources n _
  nothing_lost _ hkey := Classification.contains_of_contains hkey
  others_unchanged _ hkey := Classification.find?_of_not_mem hkey
  sources_shown _ _ hsource :=
    Classification.find?_of_observed? (Classification.observed?_of_mem_sources rfl hsource)
  placeholders_nodup := Classification.nodup_placeholders n
  placeholders_stand _ hkey := ⟨Classification.mem_keys_of_mem_placeholders hkey,
    Classification.contains_of_mem_placeholders hkey⟩
  placeholders_dry _ hkey := Classification.mem_sources_of_mem_placeholders hkey

end AssetAtlas

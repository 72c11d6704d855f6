import AssetAtlas.Proofs.Classification.ComplianceSummary
import AssetAtlas.Proofs.Classification.ImageCounts
import AssetAtlas.Proofs.Classification.KnownExploited
import AssetAtlas.Proofs.Classification.Vulnerability
import AssetAtlas.Proofs.Dictionary
import AssetAtlas.Proofs.Text.Casing

/-!
Classifying a node again. What a rule writes reads back as what the rule has found, also where a
placeholder stands, so a second classification finds every value in its place. The rule itself is
chosen by the labels and the name, and no rule writes a name.
-/

namespace AssetAtlas

/-- The node with the properties that classification gives it. -/
def RawNode.enriched (n : RawNode) : RawNode :=
  { n with properties := n.classify.properties }

/-! ## The rule -/

theorem NodeRule.name_not_mem_keys (rule : NodeRule) : "name" ∉ rule.keys := by
  cases rule <;> decide

theorem NodeRule.kind_verdict_congr {m n : RawNode} (h : m.labels = n.labels) (rule : NodeRule) :
    (rule.verdict m).kind = (rule.verdict n).kind := by
  have hlabel : m.rawLabel = n.rawLabel := by
    rw [RawNode.rawLabel, RawNode.rawLabel, h]
  cases rule with
  | knownExploited | containerImage | vulnerability => rfl
  | complianceSummary | cloudResource | generic => exact hlabel

namespace RawNode

variable {n : RawNode} {key : String}

theorem find?_enriched (n : RawNode) (key : String) :
    n.enriched.properties.find? key = n.classify.properties.find? key := rfl

theorem find?_enriched_of_not_mem {rule : NodeRule} (h : NodeRule.select n = rule)
    (hkey : key ∉ rule.keys) : n.enriched.properties.find? key = n.properties.find? key :=
  Classification.find?_of_none (finding?_of_not_mem h hkey)

theorem select_enriched (n : RawNode) : NodeRule.select n.enriched = NodeRule.select n :=
  NodeRule.select_congr rfl
    (text?_congr (find?_enriched_of_not_mem rfl (NodeRule.name_not_mem_keys _)))

/-- The second classification leaves what the first one has put under a key. -/
def Rests (n : RawNode) (key : String) : Prop :=
  n.enriched.classify.properties.find? key = n.classify.properties.find? key

theorem rests_of_none (h : n.enriched.finding? key = none) : n.Rests key :=
  Classification.find?_of_none h

end RawNode

/-! ## Exploited vulnerabilities -/

namespace KnownExploited

variable {n : RawNode} (h : NodeRule.select n = .knownExploited)

include h

theorem rests_kev : n.Rests "kev" := by
  rw [RawNode.Rests, find?_kev h, find?_kev (n.select_enriched.trans h)]

theorem rests_severity : n.Rests "severity" := by
  have hfind := (fills_severity h).find?_eq
  have husable : ((n.usable? "severity").getD (.string "critical")).isUsable = true := by
    cases hvalue : n.usable? "severity" with
    | none => decide
    | some value => exact (Option.filter_eq_some_iff.mp hvalue).2
  have hagain : n.enriched.usable? "severity" =
      some ((n.usable? "severity").getD (.string "critical")) := by
    rw [RawNode.usable?, RawNode.find?_enriched, hfind, Option.filter_some, if_pos husable]
  rw [RawNode.Rests, (fills_severity (n.select_enriched.trans h)).find?_eq, hagain, hfind]
  rfl

theorem rests_cwes : n.Rests "cwes" := by
  rw [RawNode.Rests, find?_cwes (n.select_enriched.trans h), RawNode.list?_of_array (find?_cwes h),
    find?_cwes h]
  rfl

theorem rests {key : String} (hkey : key ∈ NodeRule.knownExploited.keys) : n.Rests key := by
  rcases List.mem_cons.mp hkey with rfl | hkey
  · exact rests_kev h
  · rcases List.mem_pair.mp hkey with rfl | rfl
    · exact rests_severity h
    · exact rests_cwes h

end KnownExploited

/-! ## Compliance summaries -/

namespace ComplianceSummary

variable {n : RawNode} (h : NodeRule.select n = .complianceSummary)

include h

theorem rests_flag : n.Rests "compliance_summary" := by
  rw [RawNode.Rests, Classification.find?_properties, Classification.find?_properties,
    finding?_flag h, finding?_flag (n.select_enriched.trans h)]
  rfl

theorem rests_count {severity : String} (hseverity : severity ∈ severities) :
    n.Rests (severity ++ "_findings") := by
  have hagain : countOf n.enriched severity = countOf n severity := by
    rw [countOf, RawNode.count?_of_ofCount (find?_count h hseverity)]
    rfl
  rw [RawNode.Rests, find?_count (n.select_enriched.trans h) hseverity, find?_count h hseverity,
    hagain]

theorem rests_total : n.Rests "total_findings" := by
  -- whatever the total looks like, it can be read, so it is not written a second time
  obtain ⟨total, htotal, hcount⟩ := exists_find?_total h
  have hreadable : n.enriched.count? "total_findings" ≠ none := by
    rw [RawNode.count?, RawNode.find?_enriched, htotal, Option.bind_some, hcount]
    exact Option.some_ne_none _
  apply RawNode.rests_of_none
  rw [finding?_total (n.select_enriched.trans h), if_neg hreadable]

theorem rests_list {key : String} (hkey : key ∈ listKeys) : n.Rests key := by
  have hfind := find?_list h hkey
  rw [RawNode.Rests, find?_list (n.select_enriched.trans h) hkey, Dictionary.contains,
    RawNode.find?_enriched, hfind]
  by_cases hwritten : key = "compliance_standards" ∨ n.properties.contains key
  · rw [if_pos hwritten] at hfind
    have hagain : itemsOf n.enriched key = itemsOf n key := by
      rw [itemsOf, RawNode.list?_of_array hfind]
      rfl
    rw [if_pos hwritten, hagain]
    exact if_pos (.inr rfl)
  · rw [if_neg hwritten, if_neg]
    rintro (rfl | hnone)
    · exact hwritten (.inl rfl)
    · exact Bool.false_ne_true hnone

theorem rests {key : String} (hkey : key ∈ NodeRule.complianceSummary.keys) : n.Rests key := by
  rcases (mem_keys_iff key).mp hkey with rfl | ⟨severity, hseverity, rfl⟩ | rfl | hlist
  · exact rests_flag h
  · exact rests_count h hseverity
  · exact rests_total h
  · exact rests_list h hlist

end ComplianceSummary

/-! ## Container images -/

namespace Image

variable {n : RawNode} (h : NodeRule.select n = .containerImage)

include h

theorem imageCounts_enriched : imageCounts n.enriched = imageCounts n := by
  unfold imageCounts
  rw [RawNode.find?_enriched_of_not_mem h (by decide)]
  rfl

theorem shownCount_enriched {severity : String} (hseverity : severity ∈ severities) :
    shownCount n.enriched severity = shownCount n severity := by
  have hfind := find?_shownCount h hseverity
  unfold shownCount at hfind ⊢
  rw [imageCounts_enriched h]
  -- the map itself is not written; without one, the count that stands is read back
  cases hcounts : (imageCounts n).1 with
  | some map => rfl
  | none =>
      rw [hcounts] at hfind
      rw [severityCount?_none, String.append_assoc]
      exact congrArg (·.getD 0) (RawNode.count?_of_ofCount (n := n.enriched) hfind)

theorem shownTotal_enriched : shownTotal n.enriched = shownTotal n := by
  have hfind := find?_shownTotal h
  unfold shownTotal RawNode.imageTotal? at hfind ⊢
  rw [imageCounts_enriched h]
  cases hcounts : (imageCounts n).1 with
  | some map => rfl
  | none =>
      rw [hcounts] at hfind
      dsimp only
      rw [RawNode.count?_of_ofCount hfind]
      rfl

theorem rests_count {severity : String} (hseverity : severity ∈ severities) :
    n.Rests (severity ++ "_vulnerabilities") := by
  rw [RawNode.Rests, find?_shownCount (n.select_enriched.trans h) hseverity,
    find?_shownCount h hseverity, shownCount_enriched h hseverity]

theorem rests_total : n.Rests "total_vulnerabilities" := by
  rw [RawNode.Rests, find?_shownTotal (n.select_enriched.trans h), find?_shownTotal h,
    shownTotal_enriched h]

theorem rests {key : String} (hkey : key ∈ NodeRule.containerImage.keys) : n.Rests key := by
  rcases (mem_keys_iff key).mp hkey with ⟨severity, hseverity, rfl⟩ | rfl
  · exact rests_count h hseverity
  · exact rests_total h

end Image

/-! ## Vulnerabilities -/

namespace RawNode

variable {n : RawNode} {key s : String}

theorem trim_ne_empty_of_vulnerabilityText? (h : vulnerabilityText? n key = some s) :
    Text.trim s ≠ "" := by
  obtain ⟨name, -, hname⟩ := List.exists_of_findSome?_eq_some h
  exact trim_ne_empty_of_text? hname

theorem trim_ne_empty_of_attribute? (h : n.attribute? key = some s) : Text.trim s ≠ "" := by
  unfold attribute? at h
  split at h
  · obtain ⟨t, ht, rfl⟩ := Option.map_eq_some_iff.mp h
    exact mt Text.trim_eq_empty_of_lower (trim_ne_empty_of_vulnerabilityText? ht)
  · exact trim_ne_empty_of_vulnerabilityText? h

theorem lower_of_attribute?_severity (h : n.attribute? "severity" = some s) : Text.lower s = s := by
  obtain ⟨t, -, rfl⟩ := Option.map_eq_some_iff.mp h
  exact Text.lower_lower t

theorem attribute?_of_string (hkey : key ∈ Vulnerability.attributes)
    (h : n.properties.find? key = some (.string s)) (hs : Text.trim s ≠ "")
    (hlower : key = "severity" → Text.lower s = s) : n.attribute? key = some s := by
  have htext := text?_of_string hs h
  have hknown : vulnerabilityText? n key = some s := by
    simp only [Vulnerability.attributes, List.mem_cons, List.not_mem_nil, or_false] at hkey
    rcases hkey with rfl | rfl | rfl | rfl | rfl <;>
      simp [vulnerabilityText?, vulnerabilityAliases, firstText?, htext]
  rw [attribute?, hknown]
  split
  · next hseverity => exact congrArg some (hlower hseverity)
  · rfl

end RawNode

namespace Vulnerability

/-- Of the names of an attribute only the first one is written. -/
theorem aliases_not_mem_keys : ∀ key ∈ attributes, ∀ name ∈ vulnerabilityAliases key,
    name = key ∨ name ∉ NodeRule.vulnerability.keys := by
  decide

theorem trim_ne_empty_of_placeholder? {key default : String}
    (h : placeholder? key = some default) : Text.trim default ≠ "" := by
  unfold placeholder? at h
  split at h
  · obtain rfl := Option.some.inj h
    decide
  · obtain rfl := Option.some.inj h
    decide
  · exact nomatch h

variable {n : RawNode} (h : NodeRule.select n = .vulnerability) {key : String}

include h

theorem attribute?_enriched_of_none (hkey : key ∈ attributes)
    (hplaceholder : placeholder? key = none) (hattribute : n.attribute? key = none) :
    n.enriched.attribute? key = none := by
  have hunwritten : n.finding? key = none := by
    rw [finding?_attribute h hkey, hplaceholder, hattribute]
    rfl
  -- so none of the names has got a value that it did not have
  rw [RawNode.attribute?_eq_none_iff] at hattribute ⊢
  intro name hname
  rw [← hattribute name hname]
  apply RawNode.text?_congr
  rcases aliases_not_mem_keys key hkey name hname with rfl | hother
  · exact Classification.find?_of_none hunwritten
  · exact RawNode.find?_enriched_of_not_mem h hother

theorem rests_of_string {s : String} (hkey : key ∈ attributes)
    (hfind : n.classify.properties.find? key = some (.string s)) (hs : Text.trim s ≠ "")
    (hlower : key = "severity" → Text.lower s = s) : n.Rests key := by
  have hagain : n.enriched.attribute? key = some s :=
    RawNode.attribute?_of_string hkey hfind hs hlower
  have hobserved := observed?_of_attribute? (n.select_enriched.trans h) hkey hagain
  rw [RawNode.Rests, Classification.find?_of_observed? hobserved, hfind]

theorem rests_attribute (hkey : key ∈ attributes) : n.Rests key := by
  cases hattribute : n.attribute? key with
  | some s =>
      have hobserved := observed?_of_attribute? h hkey hattribute
      apply rests_of_string h hkey (Classification.find?_of_observed? hobserved)
      · exact RawNode.trim_ne_empty_of_attribute? hattribute
      · rintro rfl
        exact RawNode.lower_of_attribute?_severity hattribute
  | none =>
      cases hplaceholder : placeholder? key with
      | some default =>
          -- the placeholder is a text that is not blank, so it is read like any other
          have hfind := (fills_attribute h hkey hplaceholder).find?_eq
          rw [RawNode.reported?_of_placeholder? hplaceholder, hattribute] at hfind
          apply rests_of_string h hkey hfind
          · exact trim_ne_empty_of_placeholder? hplaceholder
          · rintro rfl
            exact nomatch hplaceholder
      | none =>
          apply RawNode.rests_of_none
          rw [finding?_attribute (n.select_enriched.trans h) hkey, hplaceholder,
            attribute?_enriched_of_none h hkey hplaceholder hattribute]
          rfl

theorem rests_kev : n.Rests "kev" := by
  have hfind : n.classify.properties.find? "kev" = some (.bool (n.flag?.getD false)) :=
    (fills_kev h).find?_map
  have hagain : n.enriched.flag? = some (n.flag?.getD false) := by
    rw [RawNode.flag?, RawNode.find?_enriched, hfind]
    rfl
  rw [RawNode.Rests, (fills_kev (n.select_enriched.trans h)).find?_eq, hagain, hfind]
  rfl

theorem rests (hkey : key ∈ NodeRule.vulnerability.keys) : n.Rests key := by
  rcases (mem_keys_iff key).mp hkey with hattribute | rfl
  · exact rests_attribute h hattribute
  · exact rests_kev h

end Vulnerability

/-! ## All rules -/

namespace RawNode

theorem rests_of_mem_keys {n : RawNode} {rule : NodeRule} (h : NodeRule.select n = rule)
    {key : String} (hkey : key ∈ rule.keys) : n.Rests key := by
  cases rule with
  | knownExploited => exact KnownExploited.rests h hkey
  | complianceSummary => exact ComplianceSummary.rests h hkey
  | containerImage => exact Image.rests h hkey
  | vulnerability => exact Vulnerability.rests h hkey
  | cloudResource | generic => exact nomatch hkey

theorem rests (n : RawNode) (key : String) : n.Rests key := by
  by_cases hkey : key ∈ (NodeRule.select n).keys
  · exact rests_of_mem_keys rfl hkey
  · exact rests_of_none (finding?_of_not_mem n.select_enriched hkey)

end RawNode

/-- To classify a node again, with the properties that its classification gives it, changes neither
the rule, the type and the label of the store nor any property. -/
theorem classify_enriched (n : RawNode) :
    n.enriched.classify.rule = n.classify.rule ∧
      n.enriched.classify.properties = n.classify.properties ∧
      n.enriched.classify.kind = n.classify.kind ∧
      n.enriched.classify.rawLabel = n.classify.rawLabel := by
  have hlabels : n.enriched.labels = n.labels := rfl
  have hkind : n.enriched.classify.kind = n.classify.kind := by
    change ((NodeRule.select n.enriched).verdict n.enriched).kind = _
    rw [n.select_enriched]
    exact NodeRule.kind_verdict_congr hlabels _
  exact ⟨n.select_enriched, Dictionary.ext_find? n.rests, hkind, rfl⟩

end AssetAtlas

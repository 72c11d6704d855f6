import AssetAtlas.Proofs.Classification.KnownExploited
import AssetAtlas.Proofs.Classification.Vulnerability
import AssetAtlas.Proofs.Text.Casing

/-!
How the severity of a node is spelled. The rule for vulnerabilities writes it in lower case, and a
placeholder is in lower case as well. All other rules leave the severity as the store sends it. So a
severity in other letters can only come from the observation that was the last one to say a severity,
and only if another rule judges that one.
-/

namespace AssetAtlas

def severityText? (p : Properties) : Option String :=
  (p.find? "severity").bind Json.string?

/-- Whether a text is a severity but for the case of its letters. -/
def isMiscased (s : String) : Bool :=
  severities.contains (Text.asciiLower s) && !severities.contains s

theorem severityText?_eq_some_iff {p : Properties} {s : String} :
    severityText? p = some s ↔ p.find? "severity" = some (.string s) := by
  rw [severityText?, Option.bind_eq_some_iff]
  constructor
  · rintro ⟨value, hvalue, hs⟩
    cases value with
    | string t =>
        obtain rfl := Option.some.inj hs
        exact hvalue
    | null | bool _ | number _ | array _ | object _ => exact nomatch hs
  · intro hs
    exact ⟨_, hs, rfl⟩

theorem isMiscased_of_asciiLower_eq_self {s : String} (h : Text.asciiLower s = s) :
    isMiscased s = false := by
  rw [isMiscased, h]
  exact Bool.and_not_self _

/-! ## One observation -/

theorem Vulnerability.isMiscased_of_observed? {n : RawNode}
    (h : NodeRule.select n = .vulnerability) {s : String}
    (hs : n.classify.observed? "severity" = some (.string s)) : isMiscased s = false := by
  apply isMiscased_of_asciiLower_eq_self
  rw [(observed?_attribute h (by decide) rfl).1] at hs
  cases hattribute : n.attribute? "severity" with
  | some t =>
      rw [RawNode.reported?_of_attribute? hattribute] at hs
      obtain rfl := Json.string.inj (Option.some.inj hs)
      obtain ⟨u, -, rfl⟩ := Option.map_eq_some_iff.mp hattribute
      exact Text.asciiLower_lower u
  | none =>
      -- a text that is not usable is blank
      rw [RawNode.reported?, hattribute] at hs
      have hfind : n.properties.find? "severity" = some (.string s) := hs
      have htext : n.text? "severity" = none :=
        List.findSome?_eq_none_iff.mp (Option.map_eq_none_iff.mp hattribute) _ List.mem_cons_self
      apply Text.asciiLower_of_trim_eq_empty
      rw [RawNode.text?, hfind] at htext
      simpa using htext

theorem finding?_severity_of_ne {n : RawNode} (h : NodeRule.select n ≠ .vulnerability) :
    n.finding? "severity" = none ∨
      n.finding? "severity" = some (.placeholder "severity" (.string "critical")) := by
  cases hrule : NodeRule.select n with
  | knownExploited =>
      rw [KnownExploited.finding?_severity hrule]
      split
      · exact .inr rfl
      · exact .inl rfl
  | vulnerability => exact absurd hrule h
  | complianceSummary => exact .inl (RawNode.finding?_of_not_mem hrule (by decide))
  | containerImage => exact .inl (RawNode.finding?_of_not_mem hrule (by decide))
  | cloudResource => exact .inl (RawNode.finding?_of_not_mem hrule (by decide))
  | generic => exact .inl (RawNode.finding?_of_not_mem hrule (by decide))

theorem find?_of_observed?_severity {n : RawNode} (h : NodeRule.select n ≠ .vulnerability)
    {value : Json} (hvalue : n.classify.observed? "severity" = some value) :
    n.properties.find? "severity" = some value := by
  rcases finding?_severity_of_ne h with hfinding | hfinding
  · rw [← hvalue, Classification.observed?_of_none hfinding]
  · rw [(Classification.fills_of_placeholder hfinding).1] at hvalue
    exact nomatch hvalue

theorem eq_critical_of_placeholder? {n : RawNode} {value : Json}
    (hvalue : n.classify.placeholder? "severity" = some value) : value = .string "critical" := by
  by_cases hrule : NodeRule.select n = .vulnerability
  · rw [(Vulnerability.observed?_attribute hrule (by decide) rfl).2] at hvalue
    exact nomatch hvalue
  · rcases finding?_severity_of_ne hrule with hfinding | hfinding
    · rw [Classification.placeholder?_of_none hfinding] at hvalue
      exact nomatch hvalue
    · obtain ⟨hobserved, hplaceholder⟩ := Classification.fills_of_placeholder hfinding
      rw [hplaceholder rfl] at hvalue
      exact (Option.some.inj hvalue).symm

/-! ## All observations of a node -/

/-- The last observation that says something under a key itself. -/
def lastSaying? (ns : List RawNode) (key : String) : Option RawNode :=
  (ns.filter fun n => (n.classify.observed? key).isSome).getLast?

theorem getLast?_filterMap_eq_bind {α β : Type} (f : α → Option β) (l : List α) :
    (l.filterMap f).getLast? = (l.filter fun a => (f a).isSome).getLast?.bind f := by
  induction l using List.reverseRecOn with
  | nil => rfl
  | append_singleton l a ih =>
      rw [Classification.getLast?_filterMap_concat, ih, List.filter_append]
      cases ha : f a <;> simp [ha]

theorem Classification.merged?_eq_lastSaying? (ns : List RawNode) (key : String) :
    merged? (ns.map RawNode.classify) key =
      ((lastSaying? ns key).bind (·.classify.observed? key)).or
        (ns.filterMap (·.classify.placeholder? key)).head? := by
  have hread : ∀ n ∈ ns, n.classify.observed? key = n.classify.observed? key := fun _ _ => rfl
  rw [merged?_map hread, getLast?_filterMap_eq_bind]
  rfl

/-- The severity of a node is spelled as the rule for vulnerabilities spells it, unless the last
observation that says one is judged by another rule and spells it in another way. -/
theorem Node.Merges.isMiscased {node : Node} {id : String} {ns : List RawNode}
    (h : node.Merges id ns)
    (hlast : ∀ n ∈ lastSaying? ns "severity", NodeRule.select n ≠ .vulnerability →
      ∀ s ∈ severityText? n.properties, isMiscased s = false) :
    ∀ s ∈ severityText? node.properties, AssetAtlas.isMiscased s = false := by
  intro s hs
  have hmerged := severityText?_eq_some_iff.mp hs
  rw [h.find?_eq, Classification.merged?_eq_lastSaying?] at hmerged
  rcases Option.or_eq_some_iff.mp hmerged with hobserved | ⟨-, hfirst⟩
  · obtain ⟨n, hn, hvalue⟩ := Option.bind_eq_some_iff.mp hobserved
    by_cases hrule : NodeRule.select n = .vulnerability
    · exact Vulnerability.isMiscased_of_observed? hrule hvalue
    · exact hlast n hn hrule s
        (severityText?_eq_some_iff.mpr (find?_of_observed?_severity hrule hvalue))
  · obtain ⟨n, -, hvalue⟩ := List.mem_filterMap.mp (List.mem_of_head? hfirst)
    obtain rfl := Json.string.inj (eq_critical_of_placeholder? hvalue)
    decide

end AssetAtlas

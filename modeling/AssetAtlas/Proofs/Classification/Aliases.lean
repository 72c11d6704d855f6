import AssetAtlas.Proofs.Classification.KnownExploited
import AssetAtlas.Proofs.Classification.Vulnerability
import AssetAtlas.Proofs.Dictionary

/-!
The names of the attributes of a vulnerability. Scanners use different names for one attribute, and
none of them is better than another: a value that stands under one name alone may as well stand
under any other, and the vulnerability is presented in the same way.
-/

namespace AssetAtlas

theorem findSome?_eq_of_unique {α β : Type} {f : α → Option β} {xs : List α} {x : α} (hx : x ∈ xs)
    (hothers : ∀ y ∈ xs, y ≠ x → f y = none) : xs.findSome? f = f x := by
  induction xs with
  | nil => exact nomatch hx
  | cons first xs ih =>
      rw [List.findSome?_cons]
      by_cases hfirst : first = x
      · rw [hfirst]
        cases hvalue : f x with
        | some value => rfl
        | none =>
            -- then there is nothing at all
            refine List.findSome?_eq_none_iff.mpr fun y hy => ?_
            by_cases hsame : y = x
            · rw [hsame, hvalue]
            · exact hothers y (List.mem_cons_of_mem _ hy) hsame
      · rw [hothers first List.mem_cons_self hfirst]
        exact ih ((List.mem_cons.mp hx).resolve_left (Ne.symm hfirst)) fun y hy =>
          hothers y (List.mem_cons_of_mem _ hy)

namespace Vulnerability

/-- A usable value stands under one of some names alone, or nothing stands under any of them. -/
def SaysOnce (p : Properties) (names : List String) : Option Json → Prop
  | none => ∀ name ∈ names, p.find? name = none
  | some value => value.isUsable = true ∧ ∃ name ∈ names, p.find? name = some value ∧
      ∀ other ∈ names, other ≠ name → p.find? other = none

instance (p : Properties) (names : List String) : (value? : Option Json) →
    Decidable (SaysOnce p names value?)
  | none => inferInstanceAs (Decidable (∀ name ∈ names, p.find? name = none))
  | some value => inferInstanceAs (Decidable (value.isUsable = true ∧
      ∃ name ∈ names, p.find? name = some value ∧
        ∀ other ∈ names, other ≠ name → p.find? other = none))

/-- A node says of every attribute what another one says, each under one name of its own choice, and
has everything else in common with it. -/
structure Restates (n' n : RawNode) : Prop where
  labels_eq : n'.labels = n.labels
  said : ∀ key ∈ attributes, ∃ value?,
    SaysOnce n.properties (vulnerabilityAliases key) value? ∧
      SaysOnce n'.properties (vulnerabilityAliases key) value?
  others_eq : ∀ name, (∀ key ∈ attributes, name ∉ vulnerabilityAliases key) →
    n'.properties.find? name = n.properties.find? name

theorem mem_vulnerabilityAliases : ∀ key ∈ attributes, key ∈ vulnerabilityAliases key := by
  decide

/-! ## What is read -/

section Reading

variable {n n' : RawNode} {names : List String}

theorem SaysOnce.firstText?_eq_none (h : SaysOnce n.properties names none) :
    n.firstText? names = none :=
  List.findSome?_eq_none_iff.mpr fun name hname => RawNode.text?_of_find?_eq_none (h name hname)

theorem SaysOnce.exists_firstText? {value : Json} (h : SaysOnce n.properties names (some value)) :
    ∃ name, n.properties.find? name = some value ∧ n.firstText? names = n.text? name := by
  obtain ⟨-, name, hname, hvalue, hothers⟩ := h
  exact ⟨name, hvalue, findSome?_eq_of_unique hname fun other hother hne =>
    RawNode.text?_of_find?_eq_none (hothers other hother hne)⟩

theorem SaysOnce.attribute?_ne_none {key : String} {value : Json}
    (h : SaysOnce n.properties (vulnerabilityAliases key) (some value)) :
    n.attribute? key ≠ none := by
  obtain ⟨husable, name, hname, hvalue, -⟩ := h
  intro hnone
  have htext : n.text? name = none := RawNode.attribute?_eq_none_iff.mp hnone name hname
  rw [n.text?_eq_none_iff, RawNode.usable?, hvalue, Option.filter_some, if_pos husable] at htext
  exact Option.some_ne_none _ htext

/-- Under which name a value stands makes no difference. -/
theorem SaysOnce.firstText?_eq {value? : Option Json} (h : SaysOnce n.properties names value?)
    (h' : SaysOnce n'.properties names value?) : n'.firstText? names = n.firstText? names := by
  cases value? with
  | none => rw [h.firstText?_eq_none, h'.firstText?_eq_none]
  | some value =>
      obtain ⟨name, hvalue, htext⟩ := h.exists_firstText?
      obtain ⟨name', hvalue', htext'⟩ := h'.exists_firstText?
      rw [htext, htext']
      exact RawNode.text?_congr (hvalue'.trans hvalue.symm)

namespace Restates

variable (h : Restates n' n)

include h

theorem vulnerabilityText?_eq :
    ∀ key ∈ attributes, vulnerabilityText? n' key = vulnerabilityText? n key := by
  intro key hkey
  obtain ⟨value?, hsays, hsays'⟩ := h.said key hkey
  exact hsays.firstText?_eq hsays'

theorem attribute?_eq {key : String} (hkey : key ∈ attributes) :
    n'.attribute? key = n.attribute? key := by
  rw [RawNode.attribute?, RawNode.attribute?, h.vulnerabilityText?_eq key hkey]

theorem title_eq : vulnerabilityText? n' "title" = vulnerabilityText? n "title" := by
  have hlower : n'.text? "title" = n.text? "title" :=
    RawNode.text?_congr (h.others_eq "title" (by decide))
  have hupper : n'.text? "Title" = n.text? "Title" :=
    RawNode.text?_congr (h.others_eq "Title" (by decide))
  simp only [vulnerabilityText?, vulnerabilityAliases, RawNode.firstText?, List.findSome?_cons,
    List.findSome?_nil, hlower, hupper]

theorem select_eq : NodeRule.select n' = NodeRule.select n :=
  NodeRule.select_congr h.labels_eq (RawNode.text?_congr (h.others_eq "name" (by decide)))

theorem verdict_eq : vulnerabilityVerdict n' = vulnerabilityVerdict n := by
  have hkev : n'.properties.find? "kev" = n.properties.find? "kev" :=
    h.others_eq "kev" (by decide)
  unfold vulnerabilityVerdict
  rw [h.title_eq, hkev, h.vulnerabilityText?_eq "vulnerability_id" (by decide),
    h.vulnerabilityText?_eq "package_version" (by decide),
    h.vulnerabilityText?_eq "package_name" (by decide),
    h.vulnerabilityText?_eq "fixed_version" (by decide),
    h.vulnerabilityText?_eq "severity" (by decide)]

end Restates

end Reading

/-! ## What is shown -/

/-- Two classifications present the same vulnerability: only properties that the rule does not write
may differ. -/
structure Presents (c' c : Classification) : Prop where
  rule_eq : c'.rule = c.rule
  kind_eq : c'.kind = c.kind
  label_eq : c'.label = c.label
  rawLabel_eq : c'.rawLabel = c.rawLabel
  value_eq : ∀ key ∈ NodeRule.vulnerability.keys,
    c'.properties.find? key = c.properties.find? key
  placeholders_eq : c'.placeholders = c.placeholders

section Shown

variable {n n' : RawNode} (hrule : NodeRule.select n = .vulnerability) (h : Restates n' n)

include hrule h

theorem Restates.finding?_eq (key : String) : n'.finding? key = n.finding? key := by
  rw [RawNode.finding?, RawNode.finding?, h.select_eq, hrule]
  exact congrArg (fun v => Finding.lookup v.findings key) h.verdict_eq

theorem Restates.find?_attribute_eq {key : String} (hkey : key ∈ attributes) :
    n'.classify.properties.find? key = n.classify.properties.find? key := by
  obtain ⟨value?, hsays, hsays'⟩ := h.said key hkey
  cases value? with
  | none =>
      -- nothing is said, so only what is written can stand under the key
      have hfirst := mem_vulnerabilityAliases key hkey
      rw [Classification.find?_properties, Classification.find?_properties,
        h.finding?_eq hrule, hsays key hfirst, hsays' key hfirst]
  | some value =>
      obtain ⟨s, hs⟩ := Option.ne_none_iff_exists'.mp hsays.attribute?_ne_none
      have hs' : n'.attribute? key = some s := (h.attribute?_eq hkey).trans hs
      have hshown := observed?_of_attribute? hrule hkey hs
      have hshown' := observed?_of_attribute? (h.select_eq.trans hrule) hkey hs'
      rw [Classification.find?_of_observed? hshown, Classification.find?_of_observed? hshown']

theorem Restates.find?_kev_eq :
    n'.classify.properties.find? "kev" = n.classify.properties.find? "kev" := by
  rw [Classification.find?_properties, Classification.find?_properties, h.finding?_eq hrule,
    h.others_eq "kev" (by decide)]

end Shown

/-- The names of attributes are interchangeable: a vulnerability that says the same under other
names is presented in the same way. -/
theorem attributes_under_any_name {n n' : RawNode} (hrule : NodeRule.select n = .vulnerability)
    (h : Restates n' n) : Presents n'.classify n.classify := by
  have hrule' : NodeRule.select n' = .vulnerability := h.select_eq.trans hrule
  have hverdict : (NodeRule.select n').verdict n' = (NodeRule.select n).verdict n := by
    rw [hrule, hrule']
    exact h.verdict_eq
  constructor
  · exact h.select_eq
  · exact congrArg Verdict.kind hverdict
  · exact congrArg Verdict.label hverdict
  · exact congrArg (fun labels : List String => labels.head?.getD "unknown") h.labels_eq
  · intro key hkey
    rcases (mem_keys_iff key).mp hkey with hattribute | rfl
    · exact h.find?_attribute_eq hrule hattribute
    · exact h.find?_kev_eq hrule
  · exact congrArg (fun v : Verdict => (v.findings.filter (!·.observed)).map (·.key)) hverdict

def scannedWith (properties : List (String × Json)) : RawNode where
  id := .string "5"
  labels := ["Vulnerability"]
  properties := .ofList properties

theorem attributes_under_any_name_moved :
    let n := scannedWith [("package_name", .number (.natural 7)), ("Severity", .string "HIGH"),
      ("VulnerabilityID", .string " CVE-2023-1 "), ("kev", .bool true)]
    let n' := scannedWith [("PkgName", .number (.natural 7)), ("severity", .string "HIGH"),
      ("vulnerabilityid", .string " CVE-2023-1 "), ("kev", .bool true)]
    NodeRule.select n = .vulnerability ∧ Restates n' n ∧ Presents n'.classify n.classify ∧
      n'.classify.properties.find? "package_name" = some (.string "7") := by
  intro n n'
  have hrule : NodeRule.select n = .vulnerability := by decide
  have hrestates : Restates n' n := by
    refine ⟨rfl, ?_, ?_⟩
    · intro key hkey
      simp only [attributes, List.mem_cons, List.not_mem_nil, or_false] at hkey
      rcases hkey with rfl | rfl | rfl | rfl | rfl
      · exact ⟨some (.string " CVE-2023-1 "), by decide, by decide⟩
      · exact ⟨some (.number (.natural 7)), by decide, by decide⟩
      · exact ⟨none, by decide, by decide⟩
      · exact ⟨none, by decide, by decide⟩
      · exact ⟨some (.string "HIGH"), by decide, by decide⟩
    · intro name hname
      have hother : ∀ given ∈ attributes.flatMap vulnerabilityAliases, name ≠ given := by
        rintro given hgiven rfl
        obtain ⟨key, hkey, hname'⟩ := List.mem_flatMap.mp hgiven
        exact hname key hkey hname'
      simp [n, n', scannedWith, Dictionary.find?_ofList_cons, hother "package_name" (by decide),
        hother "PkgName" (by decide), hother "Severity" (by decide),
        hother "severity" (by decide), hother "VulnerabilityID" (by decide),
        hother "vulnerabilityid" (by decide)]
  exact ⟨hrule, hrestates, attributes_under_any_name hrule hrestates, by decide⟩

end Vulnerability

end AssetAtlas

import AssetAtlas.Proofs.Classification.Findings

/-!
Attributes of a vulnerability that is seen several times. An attribute has several names, and what is
known of it under any of them is shown under the first. Observations that leave the attribute out do
not take away what others know. The exception are three attributes without a placeholder: there a
null or a blank text under the first name counts as observed.
-/

namespace AssetAtlas

namespace Vulnerability

def attributes : List String :=
  ["vulnerability_id", "package_name", "package_version", "fixed_version", "severity"]

def placeholder? : String → Option String
  | "vulnerability_id" => some "Multiple CVEs"
  | "package_version" => some "Various versions"
  | _ => none

end Vulnerability

namespace RawNode

/-- What a vulnerability says of an attribute under any of its names. -/
def attribute? (n : RawNode) (key : String) : Option String :=
  if key = "severity" then (vulnerabilityText? n key).map Text.lower else vulnerabilityText? n key

theorem attribute?_eq_none_iff {n : RawNode} {key : String} :
    n.attribute? key = none ↔ ∀ name ∈ vulnerabilityAliases key, n.text? name = none := by
  unfold attribute? vulnerabilityText? firstText?
  split
  · rw [Option.map_eq_none_iff, List.findSome?_eq_none_iff]
  · rw [List.findSome?_eq_none_iff]

/-- Whether every name of an attribute is missing or holds null or a blank text. -/
def leavesBlank (n : RawNode) (key : String) : Bool :=
  (vulnerabilityAliases key).all fun name =>
    match n.properties.find? name with
    | none | some .null => true
    | some (.string s) => (Text.trim s).isEmpty
    | some _ => false

/-- Whether nothing usable is said of an attribute and, unless a placeholder stands in for it, its
first name is missing. -/
def isSilent (n : RawNode) (key : String) : Bool :=
  (n.attribute? key).isNone &&
    ((Vulnerability.placeholder? key).isSome || !n.properties.contains key)

/-- What counts as observed of an attribute. -/
def reported? (n : RawNode) (key : String) : Option Json :=
  match n.attribute? key with
  | some s => some (.string s)
  | none => if (Vulnerability.placeholder? key).isSome then none else n.properties.find? key

/-- Whether a vulnerability says of itself that it is exploited or not. -/
def flag? (n : RawNode) : Option Bool :=
  (n.properties.find? "kev").bind Json.bool?

theorem find?_of_flag? {n : RawNode} {b : Bool} (h : n.flag? = some b) :
    n.properties.find? "kev" = some (.bool b) := by
  obtain ⟨value, hvalue, hb⟩ := Option.bind_eq_some_iff.mp h
  cases value with
  | bool c =>
      obtain rfl := Option.some.inj hb
      exact hvalue
  | null | number _ | string _ | array _ | object _ => exact nomatch hb

theorem reported?_of_attribute? {n : RawNode} {key value : String}
    (h : n.attribute? key = some value) : n.reported? key = some (.string value) := by
  rw [reported?, h]

theorem reported?_of_placeholder? {n : RawNode} {key default : String}
    (h : Vulnerability.placeholder? key = some default) :
    n.reported? key = (n.attribute? key).map .string := by
  rw [reported?, h]
  cases n.attribute? key <;> rfl

theorem reported?_eq_none_iff {n : RawNode} {key : String} :
    n.reported? key = none ↔ n.isSilent key := by
  unfold reported? isSilent
  cases n.attribute? key with
  | some s => simp
  | none => cases Vulnerability.placeholder? key <;> simp [Dictionary.contains]

end RawNode

namespace Vulnerability

theorem mem_keys_iff (key : String) :
    key ∈ NodeRule.vulnerability.keys ↔ key ∈ attributes ∨ key = "kev" := by
  simp [NodeRule.keys, attributes]
  tauto

variable {n : RawNode} {key : String}

theorem finding?_attribute (h : NodeRule.select n = .vulnerability) (hkey : key ∈ attributes) :
    n.finding? key =
      match placeholder? key with
      | some default => some (filledFinding key (n.attribute? key) default)
      | none => (n.attribute? key).map fun s => .derived key (.string s) := by
  rw [RawNode.finding?, h]
  simp only [attributes, List.mem_cons, List.not_mem_nil, or_false] at hkey
  rcases hkey with rfl | rfl | rfl | rfl | rfl <;>
    simp [NodeRule.verdict, vulnerabilityVerdict, RawNode.attribute?, placeholder?]

theorem fills_attribute (h : NodeRule.select n = .vulnerability) (hkey : key ∈ attributes)
    {default : String} (hplaceholder : placeholder? key = some default) :
    n.classify.Fills key (n.reported? key) (.string default) := by
  have hfinding := finding?_attribute h hkey
  rw [hplaceholder] at hfinding
  rw [RawNode.reported?_of_placeholder? hplaceholder]
  exact Classification.fills_of_filledFinding hfinding

theorem finding?_kev (h : NodeRule.select n = .vulnerability) :
    n.finding? "kev" =
      if n.flag? = none then some (.placeholder "kev" (.bool false)) else none := by
  rw [RawNode.finding?, h, RawNode.flag?]
  cases hkev : n.properties.find? "kev" with
  | none => simp [NodeRule.verdict, vulnerabilityVerdict, hkev]
  | some value => cases value <;> simp [NodeRule.verdict, vulnerabilityVerdict, hkev, Json.bool?]

theorem fills_kev (h : NodeRule.select n = .vulnerability) :
    n.classify.Fills "kev" (n.flag?.map .bool) (.bool false) := by
  have hfinding := finding?_kev h
  cases hflag : n.flag? with
  | none =>
      rw [if_pos hflag] at hfinding
      exact Classification.fills_of_placeholder hfinding
  | some b =>
      rw [if_neg (by rw [hflag]; exact nofun)] at hfinding
      refine ⟨?_, nofun⟩
      rw [Classification.observed?_of_none hfinding]
      exact RawNode.find?_of_flag? hflag

theorem observed?_attribute (h : NodeRule.select n = .vulnerability) (hkey : key ∈ attributes)
    (hplaceholder : placeholder? key = none) :
    n.classify.observed? key = n.reported? key ∧ n.classify.placeholder? key = none := by
  have hfinding := finding?_attribute h hkey
  rw [hplaceholder] at hfinding
  cases hattribute : n.attribute? key with
  | some s =>
      rw [hattribute] at hfinding
      have hobserved := (Classification.fills_of_derived hfinding .null).1
      rw [RawNode.reported?_of_attribute? hattribute]
      exact ⟨hobserved, Classification.placeholder?_of_observed? hobserved⟩
  | none =>
      rw [hattribute] at hfinding
      refine ⟨?_, Classification.placeholder?_of_none hfinding⟩
      rw [Classification.observed?_of_none hfinding, RawNode.reported?, hattribute, hplaceholder]
      rfl

theorem observed?_of_attribute? (h : NodeRule.select n = .vulnerability) (hkey : key ∈ attributes)
    {s : String} (hattribute : n.attribute? key = some s) :
    n.classify.observed? key = some (.string s) := by
  rw [← RawNode.reported?_of_attribute? hattribute]
  cases hplaceholder : placeholder? key with
  | some default => exact (fills_attribute h hkey hplaceholder).1
  | none => exact (observed?_attribute h hkey hplaceholder).1

end Vulnerability

theorem Node.Merges.find?_attribute {node : Node} {id : String} {ns : List RawNode}
    (h : node.Merges id ns) (hrule : ∀ n ∈ ns, NodeRule.select n = .vulnerability) {key : String}
    (hkey : key ∈ Vulnerability.attributes) :
    node.properties.find? key =
      (ns.filterMap (·.reported? key)).getLast?.or
        ((Vulnerability.placeholder? key).map .string) := by
  cases hplaceholder : Vulnerability.placeholder? key with
  | some default =>
      rw [h.find?_of_fills fun n hn => Vulnerability.fills_attribute (hrule n hn) hkey hplaceholder]
      exact (Option.or_some ..).symm
  | none =>
      -- no placeholder is ever written, so a raw value under the key counts as observed
      have hobserved n (hn : n ∈ ns) := Vulnerability.observed?_attribute (hrule n hn) hkey hplaceholder
      rw [h.find?_eq, Classification.merged?_of_observed (fun n hn => (hobserved n hn).1)
        fun n hn => (hobserved n hn).2]
      exact Option.or_none.symm

namespace Vulnerability

/-- All observations of a node are judged to be vulnerabilities, and there are some. -/
structure Observed (rows : List Row) (id : String) : Prop where
  seen : observationsIn rows id ≠ []
  rule : ∀ n ∈ observationsIn rows id, NodeRule.select n = .vulnerability

/-- What is known of an attribute is not lost. Observations of which it is said that they have nothing
to say are without effect. -/
structure Keeps (silent : RawNode → String → Bool) (rows : List Row) (id key : String) : Prop where
  last_known : ∀ before n after value, observationsIn rows id = before ++ n :: after →
    n.attribute? key = some value → (∀ n' ∈ after, silent n' key) →
      mergedProperty? rows id key = some (.string value)
  silent_unchanged : ∀ rows', Observed rows' id →
    (observationsIn rows' id).filter (!silent · key) =
        (observationsIn rows id).filter (!silent · key) →
      mergedProperty? rows' id key = mergedProperty? rows id key

theorem mergedProperty?_eq {rows : List Row} {id : String} (h : Observed rows id) {key : String}
    (hkey : key ∈ attributes) :
    mergedProperty? rows id key =
      ((observationsIn rows id).filterMap (·.reported? key)).getLast?.or
        ((placeholder? key).map .string) := by
  obtain ⟨node, hmerges, hproperty⟩ := exists_merges h.seen
  rw [hproperty]
  exact hmerges.find?_attribute h.rule hkey

theorem filterMap_reported? (ns : List RawNode) (key : String) :
    ns.filterMap (·.reported? key) = (ns.filter (!·.isSilent key)).filterMap (·.reported? key) := by
  rw [List.filterMap_filter]
  refine List.filterMap_congr fun n _ => ?_
  split
  · rfl
  · next hsilent => exact RawNode.reported?_eq_none_iff.mpr (by simpa using hsilent)

/-- A sparse observation takes nothing away from a vulnerability, as long as it does not put an
unusable value under the first name of an attribute without a placeholder. -/
theorem sparse_observation_keeps {rows : List Row} {id : String} (h : Observed rows id) :
    ∀ key ∈ attributes, Keeps RawNode.isSilent rows id key := by
  intro key hkey
  constructor
  · intro before n after value hobs hvalue hafter
    have hsilent : after.filterMap (·.reported? key) = [] :=
      List.filterMap_eq_nil_iff.mpr fun n' hn' => RawNode.reported?_eq_none_iff.mpr (hafter n' hn')
    have hlast : (n :: after).filterMap (·.reported? key) = [.string value] := by
      rw [List.filterMap_cons, RawNode.reported?_of_attribute? hvalue, hsilent]
    rw [mergedProperty?_eq h hkey, hobs, List.filterMap_append, hlast, List.getLast?_concat,
      Option.some_or]
  · intro rows' h' hsame
    rw [mergedProperty?_eq h hkey, mergedProperty?_eq h' hkey, filterMap_reported?, hsame,
      ← filterMap_reported?]

/-- A vulnerability that is seen in full and then without the names of its attributes. -/
def sparseRows (sparse : List (String × Json)) : List Row :=
  [.ofNode
      { id := .string "5"
        labels := ["vulnerability"]
        properties := .ofList
          [("pkgName", .string "openssl"), ("fixed_version", .string "3.0.1"),
            ("Severity", .string "HIGH"), ("vulnerabilityid", .string "CVE-2023-1")] },
    .ofNode
      { id := .string "5"
        labels := ["Vulnerability"]
        properties := .ofList sparse }]

theorem sparse_observation_keeps_all :
    let rows := sparseRows [("vulnerability_id", .null), ("pkgname", .string " ")]
    Observed rows "5" ∧ (∀ key ∈ attributes, Keeps RawNode.isSilent rows "5" key) ∧
      mergedProperty? rows "5" "package_name" = some (.string "openssl") := by
  intro rows
  have hobserved : Observed rows "5" := ⟨List.cons_ne_nil _ _, by decide⟩
  have hkeeps := sparse_observation_keeps hobserved
  have hname := (hkeeps "package_name" (by decide)).last_known [] _ _ "openssl" rfl
    (by decide) (by decide)
  exact ⟨hobserved, hkeeps, hname⟩

/-- A blank text under the first name takes away what is known. -/
theorem blank_name_takes_away :
    let rows := sparseRows [("package_name", .null), ("fixed_version", .string " ")]
    Observed rows "5" ∧ ¬ Keeps RawNode.leavesBlank rows "5" "package_name" ∧
      ¬ Keeps RawNode.leavesBlank rows "5" "fixed_version" := by
  intro rows
  refine ⟨⟨List.cons_ne_nil _ _, by decide⟩, ?_, ?_⟩
  · intro h
    have hkept := h.last_known [] _ _ "openssl" rfl (by decide) (by decide)
    exact absurd hkept (by decide)
  · intro h
    have hkept := h.last_known [] _ _ "3.0.1" rfl (by decide) (by decide)
    exact absurd hkept (by decide)

end Vulnerability

end AssetAtlas

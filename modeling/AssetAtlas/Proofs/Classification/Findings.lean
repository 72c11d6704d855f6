import AssetAtlas.Proofs.Graph.Merging

/-!
What classification writes. A rule chooses among fixed keys and writes each of them at most once, so
what stands under a key afterwards can be read off the one finding for it: its value, and whether
that value was observed. A key without a finding keeps what the store says.
-/

namespace AssetAtlas

/-! ## Keys -/

namespace NodeRule

/-- The keys that a rule may write, in the order in which it writes them. -/
def keys : NodeRule → List String
  | .knownExploited => "kev" :: ["severity"] ++ ["cwes"]
  | .complianceSummary =>
    "compliance_summary" :: severities.map (· ++ "_findings") ++ ["total_findings"] ++
      ["compliance_standards", "bucket_names", "credential_names", "findings"]
  | .containerImage => severities.map (· ++ "_vulnerabilities") ++ ["total_vulnerabilities"]
  | .vulnerability =>
    "vulnerability_id" :: "package_version" :: ["package_name"] ++ ["fixed_version"] ++
      ["severity"] ++ ["kev"]
  | .cloudResource | .generic => []

theorem nodup_keys (rule : NodeRule) : rule.keys.Nodup := by
  cases rule <;> decide

end NodeRule

@[simp] theorem key_countFinding (n : RawNode) (suffix : String) (counts : Option Properties)
    (severity : String) :
    (countFinding n suffix counts severity).key = severity ++ "_" ++ suffix := by
  unfold countFinding
  dsimp only
  split <;> rfl

@[simp] theorem key_totalFinding (n : RawNode) (suffix : String) (counts : Option Properties) :
    (totalFinding n suffix counts).key = "total_" ++ suffix := by
  unfold totalFinding
  dsimp only
  split <;> rfl

@[simp] theorem key_listFinding (n : RawNode) (key : String) : (listFinding n key).1.key = key := by
  unfold listFinding
  dsimp only
  split <;> rfl

@[simp] theorem key_imageTotal (n : RawNode) (counts : Option Properties) :
    (imageTotal n counts).key = "total_vulnerabilities" := by
  unfold imageTotal
  dsimp only
  split
  · rfl
  · rfl
  · exact key_totalFinding n _ none

@[simp] theorem key_filledFinding (key : String) (value : Option String) (default : String) :
    (filledFinding key value default).key = key := by
  cases value <;> rfl

theorem keys_knownFinding_sublist (key : String) (value : Option String) :
    ((knownFinding key value).map (·.key)).Sublist [key] := by
  cases value with
  | none => exact List.nil_sublist _
  | some s => exact List.Sublist.refl _

theorem keys_countFindings (n : RawNode) (suffix : String) (counts : Option Properties) :
    (countFindings n suffix counts).map (·.key) = severities.map (· ++ "_" ++ suffix) := by
  rw [countFindings, List.map_map]
  exact List.map_congr_left fun severity _ => key_countFinding n suffix counts severity

theorem keys_if_sublist (c : Prop) [Decidable c] {f : Finding} {key : String} (h : f.key = key) :
    ((if c then [f] else []).map (·.key)).Sublist [key] := by
  subst h
  split
  · exact List.Sublist.refl _
  · exact List.nil_sublist _

theorem keys_listFindings (n : RawNode) (keys : List String) :
    ((keys.map (listFinding n)).map (·.1)).map (·.key) = keys := by
  induction keys with
  | nil => rfl
  | cons key keys ih => rw [List.map_cons, List.map_cons, List.map_cons, ih, key_listFinding]

theorem keys_verdict_sublist (n : RawNode) (rule : NodeRule) :
    ((rule.verdict n).findings.map (·.key)).Sublist rule.keys := by
  cases rule with
  | knownExploited =>
      simp only [NodeRule.verdict, knownExploitedVerdict, List.map_append, List.map_cons]
      refine .append (.cons_cons _ (keys_if_sublist _ rfl)) ?_
      rw [key_listFinding]
      exact .refl _
  | complianceSummary =>
      simp only [NodeRule.verdict, complianceVerdict, List.map_append, List.map_cons,
        keys_countFindings, keys_listFindings, key_listFinding]
      refine .append (.append (.refl _) ?_) (.cons_cons _ List.filter_sublist)
      exact keys_if_sublist _ (key_totalFinding n "findings" none)
  | containerImage =>
      simp only [NodeRule.verdict, imageVerdict, List.map_append, keys_countFindings, List.map_cons,
        key_imageTotal]
      exact .refl _
  | vulnerability =>
      simp only [NodeRule.verdict, vulnerabilityVerdict, List.map_append, List.map_cons,
        key_filledFinding]
      refine .append (.append (.append (.cons_cons _ (.cons_cons _ ?_)) ?_) ?_) ?_
      · exact keys_knownFinding_sublist _ _
      · exact keys_knownFinding_sublist _ _
      · exact keys_knownFinding_sublist _ _
      · split
        · exact List.nil_sublist _
        · exact .refl _
  | cloudResource | generic => exact List.nil_sublist _

theorem nodup_keys_verdict (n : RawNode) (rule : NodeRule) :
    ((rule.verdict n).findings.map (·.key)).Nodup :=
  (keys_verdict_sublist n rule).nodup rule.nodup_keys

/-! ## What stands under a key -/

namespace Finding

@[simp] theorem key_derived (key : String) (value : Json) : (derived key value).key = key := rfl

@[simp] theorem key_placeholder (key : String) (value : Json) :
    (placeholder key value).key = key := rfl

/-- The finding of what is known, or else of what stands in for it. -/
def ofOption (key : String) (value? : Option Json) (default : Json) : Finding :=
  match value? with
  | some value => derived key value
  | none => placeholder key default

theorem filledFinding_eq (key : String) (value : Option String) (default : String) :
    filledFinding key value default =
      .ofOption key (value.map .string) (.string default) := by
  cases value <;> rfl

def lookup (findings : List Finding) (key : String) : Option Finding :=
  findings.find? (·.key == key)

@[simp] theorem lookup_nil (key : String) : lookup [] key = none := rfl

@[simp] theorem lookup_cons (f : Finding) (findings : List Finding) (key : String) :
    lookup (f :: findings) key = if f.key = key then some f else lookup findings key := by
  split
  · next hkey => exact List.find?_cons_of_pos (beq_iff_eq.mpr hkey)
  · next hkey => exact List.find?_cons_of_neg (mt beq_iff_eq.mp hkey)

@[simp] theorem lookup_append (findings more : List Finding) (key : String) :
    lookup (findings ++ more) key = (lookup findings key).or (lookup more key) :=
  List.find?_append

@[simp] theorem lookup_ite (c : Prop) [Decidable c] (findings more : List Finding) (key : String) :
    lookup (if c then findings else more) key =
      if c then lookup findings key else lookup more key :=
  apply_ite (lookup · key) c findings more

@[simp] theorem lookup_knownFinding (key : String) (value : Option String) (other : String) :
    lookup (knownFinding key value) other =
      if key = other then value.map fun s => derived key (.string s) else none := by
  cases value with
  | none => exact (ite_self none).symm
  | some s => exact lookup_cons (derived key (.string s)) [] other

theorem lookup_eq_none {findings : List Finding} {key : String}
    (h : key ∉ findings.map (·.key)) : lookup findings key = none := by
  refine List.find?_eq_none.mpr fun f hf hkey => h ?_
  exact List.mem_map.mpr ⟨f, hf, beq_iff_eq.mp hkey⟩

theorem contains_placeholders {findings : List Finding} (h : (findings.map (·.key)).Nodup)
    (key : String) :
    ((findings.filter (!·.observed)).map (·.key)).contains key =
      (lookup findings key).any (!·.observed) := by
  induction findings with
  | nil => rfl
  | cons f findings ih =>
      obtain ⟨hf, hrest⟩ := List.nodup_cons.mp h
      have ih := ih hrest
      by_cases hkey : f.key = key
      · subst hkey
        rw [lookup_eq_none hf] at ih
        cases hobserved : f.observed
        · simp [hobserved]
        · simpa [hobserved] using ih
      · rw [lookup_cons, if_neg hkey, ← ih]
        cases hobserved : f.observed
        · simp [hobserved, Ne.symm hkey]
        · simp [hobserved]

theorem keys_placeholders_sublist (findings : List Finding) :
    ((findings.filter (!·.observed)).map (·.key)).Sublist (findings.map (·.key)) :=
  List.filter_sublist.map _

theorem find?_writeFindings {findings : List Finding} (h : (findings.map (·.key)).Nodup)
    (p : Properties) (key : String) :
    (writeFindings p findings).find? key =
      ((lookup findings key).map (·.value)).or (p.find? key) := by
  induction findings generalizing p with
  | nil => rfl
  | cons f findings ih =>
      obtain ⟨hf, hrest⟩ := List.nodup_cons.mp h
      rw [writeFindings, List.foldl_cons]
      refine (ih hrest _).trans ?_
      rw [Dictionary.find?_insert, lookup_cons]
      by_cases hkey : f.key = key
      · -- no later finding writes over this one
        subst hkey
        rw [lookup_eq_none hf, if_pos rfl, if_pos rfl]
        rfl
      · rw [if_neg hkey, if_neg (Ne.symm hkey)]

end Finding

/-- What the rule of a node writes under a key. -/
def RawNode.finding? (n : RawNode) (key : String) : Option Finding :=
  Finding.lookup ((NodeRule.select n).verdict n).findings key

theorem RawNode.finding?_of_not_mem {n : RawNode} {rule : NodeRule} (h : NodeRule.select n = rule)
    {key : String} (hkey : key ∉ rule.keys) : n.finding? key = none := by
  rw [finding?, h]
  exact Finding.lookup_eq_none fun hmem => hkey ((keys_verdict_sublist n rule).subset hmem)

namespace Classification

variable {n : RawNode} {key : String}

theorem contains_placeholders (n : RawNode) (key : String) :
    n.classify.placeholders.contains key = (n.finding? key).any (!·.observed) :=
  Finding.contains_placeholders (nodup_keys_verdict n _) key

theorem find?_properties (n : RawNode) (key : String) :
    n.classify.properties.find? key =
      ((n.finding? key).map (·.value)).or (n.properties.find? key) :=
  Finding.find?_writeFindings (nodup_keys_verdict n _) n.properties key

theorem find?_of_none (h : n.finding? key = none) :
    n.classify.properties.find? key = n.properties.find? key := by
  rw [find?_properties, h]
  rfl

theorem find?_of_not_mem (h : key ∉ n.classify.rule.keys) :
    n.classify.properties.find? key = n.properties.find? key :=
  find?_of_none (RawNode.finding?_of_not_mem rfl h)

theorem nodup_placeholders (n : RawNode) : n.classify.placeholders.Nodup :=
  (Finding.keys_placeholders_sublist _).nodup (nodup_keys_verdict n _)

theorem exists_finding?_of_mem_placeholders (h : key ∈ n.classify.placeholders) :
    ∃ f, n.finding? key = some f := by
  have hplaceholder := contains_placeholders n key
  rw [List.contains_iff_mem.mpr h] at hplaceholder
  cases hfinding : n.finding? key with
  | none =>
      rw [hfinding] at hplaceholder
      exact nomatch hplaceholder
  | some f => exact ⟨f, rfl⟩

theorem mem_keys_of_mem_placeholders (h : key ∈ n.classify.placeholders) :
    key ∈ n.classify.rule.keys := by
  obtain ⟨f, hfinding⟩ := exists_finding?_of_mem_placeholders h
  by_contra hkey
  rw [RawNode.finding?_of_not_mem rfl hkey] at hfinding
  exact nomatch hfinding

theorem contains_of_mem_placeholders (h : key ∈ n.classify.placeholders) :
    n.classify.properties.contains key := by
  obtain ⟨f, hfinding⟩ := exists_finding?_of_mem_placeholders h
  rw [Dictionary.contains, find?_properties, hfinding]
  rfl

theorem contains_of_contains (h : n.properties.contains key) :
    n.classify.properties.contains key := by
  rw [Dictionary.contains, find?_properties, Option.isSome_or]
  exact Bool.or_eq_true_iff.mpr (.inr h)

theorem fills_of_derived {value : Json} (h : n.finding? key = some (.derived key value))
    (default : Json) : n.classify.Fills key (some value) default := by
  refine ⟨?_, nofun⟩
  rw [observed?, contains_placeholders, find?_properties, h]
  rfl

theorem not_mem_placeholders_of_observed? {c : Classification} {value : Json}
    (h : c.observed? key = some value) : key ∉ c.placeholders := by
  intro hkey
  rw [observed?, if_pos (List.contains_iff_mem.mpr hkey)] at h
  exact Option.some_ne_none _ h.symm

theorem find?_of_observed? {c : Classification} {value : Json}
    (h : c.observed? key = some value) : c.properties.find? key = some value := by
  rw [← observed?_or_placeholder?, h, Option.some_or]

theorem placeholder?_of_observed? {c : Classification} {value : Json}
    (h : c.observed? key = some value) : c.placeholder? key = none := by
  rw [placeholder?, if_neg]
  exact mt List.contains_iff_mem.mp (not_mem_placeholders_of_observed? h)

theorem fills_of_placeholder {default : Json}
    (h : n.finding? key = some (.placeholder key default)) :
    n.classify.Fills key none default := by
  rw [Fills, observed?, placeholder?, contains_placeholders, find?_properties, h]
  exact ⟨rfl, fun _ => rfl⟩

theorem fills_of_ofOption {value? : Option Json} {default : Json}
    (h : n.finding? key = some (.ofOption key value? default)) :
    n.classify.Fills key value? default := by
  cases value? with
  | none => exact fills_of_placeholder h
  | some value => exact fills_of_derived h default

theorem fills_of_filledFinding {value : Option String} {default : String}
    (h : n.finding? key = some (filledFinding key value default)) :
    n.classify.Fills key (value.map .string) (.string default) := by
  rw [Finding.filledFinding_eq] at h
  exact fills_of_ofOption h

theorem Fills.find?_eq {c : Classification} {value? : Option Json} {default : Json}
    (h : c.Fills key value? default) : c.properties.find? key = some (value?.getD default) := by
  obtain ⟨hobserved, hplaceholder⟩ := h
  rw [← observed?_or_placeholder?, hobserved]
  cases value? with
  | none => exact hplaceholder rfl
  | some value => rfl

theorem Fills.find?_map {α : Type} {c : Classification} {f : α → Json} {value? : Option α}
    {default : α} (h : c.Fills key (value?.map f) (f default)) :
    c.properties.find? key = some (f (value?.getD default)) := by
  rw [h.find?_eq, Option.getD_map]

theorem Fills.mem_placeholders_iff {c : Classification} {value? : Option Json} {default : Json}
    (h : c.Fills key value? default) : key ∈ c.placeholders ↔ value? = none := by
  have hfind := h.find?_eq
  obtain ⟨hobserved, -⟩ := h
  rw [observed?, hfind] at hobserved
  by_cases hkey : key ∈ c.placeholders
  · rw [if_pos (List.contains_iff_mem.mpr hkey)] at hobserved
    exact iff_of_true hkey hobserved.symm
  · rw [if_neg (mt List.contains_iff_mem.mp hkey)] at hobserved
    refine iff_of_false hkey fun hnone => ?_
    rw [hnone] at hobserved
    exact Option.some_ne_none _ hobserved

theorem observed?_of_none (h : n.finding? key = none) :
    n.classify.observed? key = n.properties.find? key := by
  rw [observed?, contains_placeholders, find?_properties, h]
  rfl

theorem placeholder?_of_none (h : n.finding? key = none) : n.classify.placeholder? key = none := by
  rw [placeholder?, contains_placeholders, h]
  rfl

end Classification

end AssetAtlas

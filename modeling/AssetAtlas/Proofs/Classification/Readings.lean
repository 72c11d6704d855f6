import AssetAtlas.Proofs.Classification.Findings
import AssetAtlas.Proofs.Count.Saturation
import AssetAtlas.Proofs.Record.Identifier

/-!
What a rule reads under a key: a text, a list or a count. Each of these is written back in a form
that reads as the same again, and so is the placeholder that stands in where nothing can be read.
-/

namespace AssetAtlas

/-! ## Texts -/

namespace RawNode

variable {n : RawNode} {key : String}

theorem trim_ne_empty_of_text? {s : String} (h : n.text? key = some s) : Text.trim s ≠ "" := by
  unfold text? at h
  split at h
  · split at h
    · exact nomatch h
    · next hs =>
        obtain rfl := Option.some.inj h
        simpa using hs
  · obtain rfl := Option.some.inj h
    exact Number.trim_text_ne_empty _
  · exact nomatch h

theorem text?_of_string {s : String} (hs : Text.trim s ≠ "")
    (h : n.properties.find? key = some (.string s)) : n.text? key = some s := by
  rw [text?, h]
  exact if_neg (by simpa using hs)

theorem text?_congr {m : RawNode} {other : String}
    (h : m.properties.find? other = n.properties.find? key) : m.text? other = n.text? key := by
  rw [text?, text?, h]

theorem text?_of_find?_eq_none (h : n.properties.find? key = none) : n.text? key = none := by
  rw [text?, h]

end RawNode

theorem NodeRule.select_congr {m n : RawNode} (hlabels : m.labels = n.labels)
    (hname : m.text? "name" = n.text? "name") : select m = select n := by
  have happlies : applies m = applies n := by
    funext rule
    unfold applies isComplianceSummary RawNode.hasLabel
    rw [hlabels, hname]
  rw [select, select, happlies]

/-! ## Lists -/

namespace RawNode

variable {n : RawNode} {key : String}

def list? (n : RawNode) (key : String) : Option (List Json) :=
  if isGiven (n.properties.find? key) then (decodeList (n.properties.find? key)).toOption else none

theorem list?_of_array {items : List Json} (h : n.properties.find? key = some (.array items)) :
    n.list? key = some items := by
  rw [list?, h]
  rfl

end RawNode

theorem not_isGiven_iff {value? : Option Json} :
    ¬ isGiven value? = true ↔ value? = none ∨ value? = some .null := by
  cases value? with
  | none => simp [isGiven]
  | some value => cases value <;> simp [isGiven]

theorem decodeList_of_not_given {value? : Option Json} (h : ¬ isGiven value? = true) :
    decodeList value? = .ok [] := by
  rcases not_isGiven_iff.mp h with rfl | rfl <;> rfl

theorem listFinding_fst (n : RawNode) (key : String) :
    (listFinding n key).1 = .ofOption key ((n.list? key).map .array) (.array []) := by
  unfold listFinding RawNode.list?
  dsimp only
  by_cases hgiven : isGiven (n.properties.find? key) = true
  · rw [hgiven]
    cases decodeList (n.properties.find? key) <;> rfl
  · rw [decodeList_of_not_given hgiven, Bool.eq_false_of_not_eq_true hgiven]
    rfl

theorem Finding.lookup_listFindings (n : RawNode) (keys : List String) (key : String) :
    lookup ((keys.map (listFinding n)).map (·.1)) key =
      if key ∈ keys then some (listFinding n key).1 else none := by
  induction keys with
  | nil => rfl
  | cons first keys ih =>
      rw [List.map_cons, List.map_cons, lookup_cons, key_listFinding, ih]
      by_cases hkey : first = key
      · rw [if_pos hkey, if_pos (List.mem_cons.mpr (.inl hkey.symm)), hkey]
      · rw [if_neg hkey]
        simp [Ne.symm hkey]

/-! ## Counts -/

def Json.ofCount (count : UInt64) : Json :=
  .number (.natural count)

theorem RawNode.count?_of_ofCount {n : RawNode} {key : String} {count : UInt64}
    (h : n.properties.find? key = some (.ofCount count)) : n.count? key = some count := by
  rw [count?, h]
  rfl

section Counts

variable (n : RawNode) (suffix : String) (counts : Option Properties)

theorem severityCount?_none (severity : String) :
    severityCount? n suffix none severity = n.count? (severity ++ "_" ++ suffix) := rfl

theorem countFinding_eq (severity : String) :
    countFinding n suffix counts severity =
      .ofOption (severity ++ "_" ++ suffix)
        ((severityCount? n suffix counts severity).map .ofCount) (.ofCount 0) := by
  unfold countFinding
  cases severityCount? n suffix counts severity <;> rfl

def knownCounts : List UInt64 :=
  severities.filterMap (severityCount? n suffix counts)

def knownTotal? : Option UInt64 :=
  if knownCounts n suffix counts = [] then none else some (saturatingSum (knownCounts n suffix counts))

theorem totalFinding_eq :
    totalFinding n suffix counts =
      .ofOption ("total_" ++ suffix) ((knownTotal? n suffix counts).map .ofCount) (.ofCount 0) := by
  unfold totalFinding knownTotal? knownCounts
  cases severities.filterMap (severityCount? n suffix counts) <;> rfl

theorem knownTotal?_eq_none_iff :
    knownTotal? n suffix counts = none ↔
      ∀ severity ∈ severities, severityCount? n suffix counts severity = none := by
  unfold knownTotal? knownCounts
  rw [ite_eq_left_iff]
  simp

theorem getD_knownTotal? :
    (knownTotal? n suffix counts).getD 0 =
      saturatingSum
        (severities.map fun severity => (severityCount? n suffix counts severity).getD 0) := by
  rw [← saturatingSum_filterMap]
  unfold knownTotal? knownCounts
  split
  · next hnone => rw [hnone]; rfl
  · rfl

end Counts

end AssetAtlas

import AssetAtlas.Proofs.Classification.Readings
import AssetAtlas.Proofs.Dictionary

/-!
Counts of a container image. Either a map says how many vulnerabilities there are of each severity,
or the image gives the counts and perhaps a total. All five numbers that are shown are whole, and the
total covers the counts: it is the sum over the whole map, or the total that is given, or the sum of
the counts.
-/

namespace AssetAtlas

theorem cappedSum_find?_le {keys : List String} (h : keys.Nodup) (map : Properties) :
    cappedSum (keys.map fun key => ((map.find? key).bind Json.count?).getD 0) ≤
      cappedSum (map.values.filterMap Json.count?) := by
  have hsum := map.sum_find?_le h fun value => ((Json.count? value).getD 0).toNat
  have hkeys (key : String) : (((map.find? key).bind Json.count?).getD 0).toNat =
      ((map.find? key).map fun value => ((Json.count? value).getD 0).toNat).getD 0 := by
    cases map.find? key <;> rfl
  rw [cappedSum, cappedSum, sum_toNat_filterMap, List.map_map]
  refine inf_le_inf_right _ ?_
  simpa [Function.comp_def, hkeys] using hsum

/-! ## What an image says -/

namespace RawNode

/-- The counts of an image come as a map with these members: as an object, or as a text that encodes
one. -/
def GivesMap (n : RawNode) (members : List (String × Json)) : Prop :=
  n.properties.find? "vulnerabilities" = some (.object members) ∨
    ∃ s, n.properties.find? "vulnerabilities" = some (.string s) ∧
      Json.ofText s = .ok (.object members)

/-- The total that an image knows: of its map, or else the one that it gives, or else the sum of the
counts that it gives. -/
def imageTotal? (n : RawNode) : Option UInt64 :=
  match (imageCounts n).1 with
  | some map => some (saturatingSum (map.values.filterMap Json.count?))
  | none => (n.count? "total_vulnerabilities").or (knownTotal? n "vulnerabilities" none)

theorem imageCounts_of_givesMap {n : RawNode} {members : List (String × Json)}
    (h : n.GivesMap members) : (imageCounts n).1 = some (lowerKeys (.ofList members)) := by
  rcases h with hobject | ⟨s, htext, hmeans⟩
  · rw [imageCounts, hobject]
  · rw [imageCounts, htext]
    dsimp only
    rw [hmeans]

theorem imageCounts_eq_none {n : RawNode} (h : ∀ members, ¬ n.GivesMap members) :
    (imageCounts n).1 = none := by
  unfold imageCounts
  split
  · next members hobject => exact absurd (.inl hobject) (h members)
  · next s htext =>
      split
      · next members hmeans => exact absurd (.inr ⟨s, htext, hmeans⟩) (h members)
      · rfl
  · rfl

theorem imageTotal?_of_givesMap {n : RawNode} {members : List (String × Json)}
    (h : n.GivesMap members) :
    n.imageTotal? =
      some (saturatingSum ((lowerKeys (.ofList members)).values.filterMap Json.count?)) := by
  rw [imageTotal?, imageCounts_of_givesMap h]

theorem imageTotal?_of_no_map {n : RawNode} (h : ∀ members, ¬ n.GivesMap members) :
    n.imageTotal? =
      (n.count? "total_vulnerabilities").or (knownTotal? n "vulnerabilities" none) := by
  rw [imageTotal?, imageCounts_eq_none h]

end RawNode

namespace Image

theorem mem_keys_iff (key : String) :
    key ∈ NodeRule.containerImage.keys ↔
      (∃ severity ∈ severities, key = severity ++ "_vulnerabilities") ∨
        key = "total_vulnerabilities" := by
  simp [NodeRule.keys, eq_comm]

section Findings

variable {n : RawNode}

theorem imageTotal_eq (n : RawNode) :
    imageTotal n (imageCounts n).1 =
      .ofOption "total_vulnerabilities" (n.imageTotal?.map .ofCount) (.ofCount 0) := by
  unfold imageTotal RawNode.imageTotal?
  dsimp only
  cases (imageCounts n).1 with
  | some map => rfl
  | none =>
      cases n.count? "total_vulnerabilities" with
      | some total => rfl
      | none => exact totalFinding_eq n "vulnerabilities" none

variable (h : NodeRule.select n = .containerImage)

include h

theorem finding?_count {severity : String} (hseverity : severity ∈ severities) :
    n.finding? (severity ++ "_vulnerabilities") =
      some (countFinding n "vulnerabilities" (imageCounts n).1 severity) := by
  rw [RawNode.finding?, h]
  simp only [severities, List.mem_cons, List.not_mem_nil, or_false] at hseverity
  rcases hseverity with rfl | rfl | rfl | rfl <;>
    simp [NodeRule.verdict, imageVerdict, countFindings, severities]

theorem finding?_total :
    n.finding? "total_vulnerabilities" = some (imageTotal n (imageCounts n).1) := by
  rw [RawNode.finding?, h]
  simp [NodeRule.verdict, imageVerdict, countFindings, severities]

theorem fills_count {severity : String} (hseverity : severity ∈ severities) :
    n.classify.Fills (severity ++ "_vulnerabilities")
      ((severityCount? n "vulnerabilities" (imageCounts n).1 severity).map .ofCount)
      (.ofCount 0) := by
  apply Classification.fills_of_ofOption
  rw [finding?_count h hseverity, countFinding_eq, String.append_assoc]
  rfl

theorem fills_total :
    n.classify.Fills "total_vulnerabilities" (n.imageTotal?.map .ofCount) (.ofCount 0) := by
  apply Classification.fills_of_ofOption
  rw [finding?_total h, imageTotal_eq]

end Findings

/-! ## What is shown -/

/-- The count of a severity that is shown, zero where it is not known. -/
def shownCount (n : RawNode) (severity : String) : UInt64 :=
  (severityCount? n "vulnerabilities" (imageCounts n).1 severity).getD 0

/-- The total that is shown, zero where it is not known. -/
def shownTotal (n : RawNode) : UInt64 :=
  n.imageTotal?.getD 0

section Shown

variable {n : RawNode} (h : NodeRule.select n = .containerImage)

include h

theorem find?_shownCount {severity : String} (hseverity : severity ∈ severities) :
    n.classify.properties.find? (severity ++ "_vulnerabilities") =
      some (.ofCount (shownCount n severity)) :=
  (fills_count h hseverity).find?_map

theorem find?_shownTotal :
    n.classify.properties.find? "total_vulnerabilities" = some (.ofCount (shownTotal n)) :=
  (fills_total h).find?_map

end Shown

/-- Four counts and a total are shown, and they fit together. -/
structure Coheres (n : RawNode) (c : Classification) (count : String → UInt64) (total : UInt64) :
    Prop where
  count_eq : ∀ severity ∈ severities,
    c.properties.find? (severity ++ "_vulnerabilities") = some (.ofCount (count severity))
  total_eq : c.properties.find? "total_vulnerabilities" = some (.ofCount total)
  total_of_map : ∀ members, n.GivesMap members →
    total.toNat = cappedSum ((lowerKeys (.ofList members)).values.filterMap Json.count?)
  counts_le_of_map : ∀ members, n.GivesMap members →
    cappedSum (severities.map count) ≤ total.toNat
  observed_of_map : ∀ members, n.GivesMap members →
    ∀ key ∈ NodeRule.containerImage.keys, key ∉ c.placeholders
  total_of_no_map : (∀ members, ¬ n.GivesMap members) →
    total.toNat = ((n.count? "total_vulnerabilities").map UInt64.toNat).getD
      (cappedSum (severities.map count))
  placeholder_of_no_map : (∀ members, ¬ n.GivesMap members) →
    ("total_vulnerabilities" ∈ c.placeholders ↔
      n.count? "total_vulnerabilities" = none ∧
        ∀ severity ∈ severities, severity ++ "_vulnerabilities" ∈ c.placeholders)

/-- The total of a container image covers its counts, by a map or without one. -/
theorem image_counts_cohere {n : RawNode} (h : NodeRule.select n = .containerImage) :
    Coheres n n.classify (shownCount n) (shownTotal n) := by
  have hcount severity (hseverity : severity ∈ severities) := fills_count h hseverity
  have htotal := fills_total h
  have htotal_of_map members (hmap : n.GivesMap members) : (shownTotal n).toNat =
      cappedSum ((lowerKeys (.ofList members)).values.filterMap Json.count?) := by
    rw [shownTotal, RawNode.imageTotal?_of_givesMap hmap]
    exact toNat_saturatingSum _
  constructor
  · exact fun severity hseverity => find?_shownCount h hseverity
  · exact find?_shownTotal h
  · exact htotal_of_map
  · intro members hmap
    have hnodup : severities.Nodup := by decide
    unfold shownCount
    rw [htotal_of_map members hmap, RawNode.imageCounts_of_givesMap hmap]
    exact cappedSum_find?_le hnodup _
  · intro members hmap key hkey
    rcases (mem_keys_iff key).mp hkey with ⟨severity, hseverity, rfl⟩ | rfl
    · rw [(hcount severity hseverity).mem_placeholders_iff, RawNode.imageCounts_of_givesMap hmap]
      exact nofun
    · rw [htotal.mem_placeholders_iff, RawNode.imageTotal?_of_givesMap hmap]
      exact nofun
  · intro hmap
    rw [shownTotal, RawNode.imageTotal?_of_no_map hmap]
    unfold shownCount
    rw [RawNode.imageCounts_eq_none hmap, ← toNat_saturatingSum, ← getD_knownTotal?]
    cases n.count? "total_vulnerabilities" <;> rfl
  · intro hmap
    rw [htotal.mem_placeholders_iff, RawNode.imageTotal?_of_no_map hmap, Option.map_eq_none_iff,
      Option.or_eq_none_iff, knownTotal?_eq_none_iff]
    refine and_congr_right fun _ => forall₂_congr fun severity hseverity => ?_
    rw [(hcount severity hseverity).mem_placeholders_iff, RawNode.imageCounts_eq_none hmap,
      Option.map_eq_none_iff]

/-- An image with a map whose keys differ only in case and whose counts come in several forms. -/
def mappedImage : RawNode where
  id := .string "8"
  labels := ["DockerImage"]
  properties := .ofList
    [("vulnerabilities", .object [("CRITICAL", .string " 3 "), ("Critical", .number (.natural 1)),
        ("high", .number (.natural 0xFFFFFFFFFFFFFFFF)), ("unknown", .number (.natural 2)),
        ("low", .bool true)]),
      ("total_vulnerabilities", .number (.natural 5))]

theorem image_counts_cohere_mapped :
    NodeRule.select mappedImage = .containerImage ∧
      Coheres mappedImage mappedImage.classify (shownCount mappedImage) (shownTotal mappedImage) ∧
      (severities.map (shownCount mappedImage) = [1, 0xFFFFFFFFFFFFFFFF, 0, 0] ∧
        shownTotal mappedImage = 0xFFFFFFFFFFFFFFFF) := by
  have hrule : NodeRule.select mappedImage = .containerImage := by decide
  exact ⟨hrule, image_counts_cohere hrule, by decide +kernel⟩

end Image

end AssetAtlas

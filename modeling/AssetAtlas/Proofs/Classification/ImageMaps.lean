import AssetAtlas.Proofs.Classification.ImageCounts

/-!
Maps of counts whose keys differ only in case. The counts of an image are looked up in lower case,
and the map is made anew with its keys in lower case first. So of the keys that become equal only the
last one is counted, under its severity and in the total. All entries are counted if those whose key
comes again further on stand for nothing.
-/

namespace AssetAtlas

theorem cappedSum_lastEntries {entries : List (String × Json)}
    {count? : String × Json → Option UInt64}
    (h : entries.Pairwise fun a b => a.1 = b.1 → (count? a).getD 0 = 0) :
    cappedSum ((lastEntries entries).filterMap count?) = cappedSum (entries.filterMap count?) := by
  rw [cappedSum, cappedSum, sum_toNat_filterMap, sum_toNat_filterMap, sum_lastEntries]
  refine h.imp fun hzero hkey => ?_
  rw [hzero hkey]
  rfl

namespace Image

/-! ## Counts of entries -/

def inLowerCase (map : Properties) : List (String × Json) :=
  map.entries.map fun e => (Text.lower e.1, e.2)

def countsIn (entries : List (String × Json)) : List UInt64 :=
  entries.filterMap fun e => e.2.count?

def countsUnder (entries : List (String × Json)) (key : String) : List UInt64 :=
  countsIn (entries.filter (·.1 = key))

/-- An entry whose key comes again further on stands for no count, or for zero. -/
def RepeatsCountNothing (entries : List (String × Json)) : Prop :=
  entries.Pairwise fun a b => a.1 = b.1 → a.2.count?.getD 0 = 0

theorem countsUnder_eq (entries : List (String × Json)) (key : String) :
    countsUnder entries key =
      entries.filterMap fun e => if e.1 = key then e.2.count? else none := by
  rw [countsUnder, countsIn, List.filterMap_filter]
  simp

theorem RepeatsCountNothing.cappedSum_countsIn {entries : List (String × Json)}
    (h : RepeatsCountNothing entries) :
    cappedSum (countsIn (lastEntries entries)) = cappedSum (countsIn entries) :=
  cappedSum_lastEntries h

theorem RepeatsCountNothing.cappedSum_countsUnder {entries : List (String × Json)}
    (h : RepeatsCountNothing entries) (key : String) :
    cappedSum (countsUnder (lastEntries entries) key) = cappedSum (countsUnder entries key) := by
  rw [countsUnder_eq, countsUnder_eq]
  refine cappedSum_lastEntries (h.imp fun hzero hsame => ?_)
  split
  · exact hzero hsame
  · rfl

theorem lowerKeys_eq (map : Properties) : lowerKeys map = .ofList (inLowerCase map) := rfl

theorem countsIn_lowerKeys_perm (map : Properties) :
    ((lowerKeys map).values.filterMap Json.count?).Perm
      (countsIn (lastEntries (inLowerCase map))) := by
  rw [lowerKeys_eq, Dictionary.values, List.filterMap_map]
  exact (Dictionary.entries_ofList_perm _).filterMap _

theorem countsUnder_lowerKeys_perm (map : Properties) (key : String) :
    (((lowerKeys map).find? key).bind Json.count?).toList.Perm
      (countsUnder (lastEntries (inLowerCase map)) key) := by
  have hfound : (((lowerKeys map).find? key).bind Json.count?).toList =
      countsUnder (lowerKeys map).entries key := by
    rw [countsUnder, countsIn, filter_key_eq (lowerKeys map).ordered, Dictionary.find?]
    cases (lowerKeys map).entries.lookup key with
    | none => rfl
    | some value => cases hcount : value.count? <;> simp [hcount]
  rw [hfound, lowerKeys_eq]
  exact ((Dictionary.entries_ofList_perm _).filter _).filterMap _

/-! ## What is shown -/

/-- An image shows the sums of the counts of some entries, by severity and in total. -/
structure SumsUp (c : Classification) (entries : List (String × Json)) : Prop where
  count_eq : ∀ severity ∈ severities, ∃ count : UInt64,
    c.properties.find? (severity ++ "_vulnerabilities") = some (.ofCount count) ∧
      count.toNat = cappedSum (countsUnder entries severity)
  total_eq : ∃ total : UInt64,
    c.properties.find? "total_vulnerabilities" = some (.ofCount total) ∧
      total.toNat = cappedSum (countsIn entries)

section Shown

variable {n : RawNode} {members : List (String × Json)} (hmap : n.GivesMap members)

include hmap

theorem toNat_shownCount (severity : String) :
    (shownCount n severity).toNat =
      cappedSum (countsUnder (lastEntries (inLowerCase (.ofList members))) severity) := by
  rw [shownCount, RawNode.imageCounts_of_givesMap hmap,
    ← cappedSum_perm (countsUnder_lowerKeys_perm _ _), cappedSum_toList]
  rfl

theorem toNat_shownTotal :
    (shownTotal n).toNat = cappedSum (countsIn (lastEntries (inLowerCase (.ofList members)))) := by
  rw [shownTotal, RawNode.imageTotal?_of_givesMap hmap,
    ← cappedSum_perm (countsIn_lowerKeys_perm _)]
  exact toNat_saturatingSum _

theorem sumsUp_lastEntries (h : NodeRule.select n = .containerImage) :
    SumsUp n.classify (lastEntries (inLowerCase (.ofList members))) where
  count_eq severity hseverity :=
    ⟨_, find?_shownCount h hseverity, toNat_shownCount hmap severity⟩
  total_eq := ⟨_, find?_shownTotal h, toNat_shownTotal hmap⟩

end Shown

theorem SumsUp.of_repeatsCountNothing {c : Classification} {entries : List (String × Json)}
    (hsums : SumsUp c (lastEntries entries)) (h : RepeatsCountNothing entries) :
    SumsUp c entries := by
  constructor
  · intro severity hseverity
    obtain ⟨count, hfind, hcount⟩ := hsums.count_eq severity hseverity
    exact ⟨count, hfind, hcount.trans (h.cappedSum_countsUnder severity)⟩
  · obtain ⟨total, hfind, htotal⟩ := hsums.total_eq
    exact ⟨total, hfind, htotal.trans h.cappedSum_countsIn⟩

/-- An image with a map shows the sums over the last spelling of each key. No count is lost if the
other spellings stand for nothing. -/
theorem image_counts_last_spellings {n : RawNode} (h : NodeRule.select n = .containerImage)
    {members : List (String × Json)} (hmap : n.GivesMap members) :
    SumsUp n.classify (lastEntries (inLowerCase (.ofList members))) ∧
      (RepeatsCountNothing (inLowerCase (.ofList members)) →
        SumsUp n.classify (inLowerCase (.ofList members))) := by
  have hsums := sumsUp_lastEntries hmap h
  exact ⟨hsums, hsums.of_repeatsCountNothing⟩

def imageOf (members : List (String × Json)) : RawNode where
  id := .string "8"
  labels := ["dockerimage"]
  properties := .ofList [("vulnerabilities", .object members)]

theorem image_counts_last_spellings_unreadable :
    let members : List (String × Json) :=
      [("CRITICAL", .string "many"), ("Critical", .string " 3 "),
        ("high", .ofCount 0xFFFFFFFFFFFFFFFF), ("unknown", .ofCount 2)]
    NodeRule.select (imageOf members) = .containerImage ∧ (imageOf members).GivesMap members ∧
      RepeatsCountNothing (inLowerCase (.ofList members)) ∧
      SumsUp (imageOf members).classify (inLowerCase (.ofList members)) ∧
      (imageOf members).classify.properties.find? "total_vulnerabilities" =
        some (.ofCount 0xFFFFFFFFFFFFFFFF) := by
  intro members
  have hrule : NodeRule.select (imageOf members) = .containerImage := by decide
  have hmap : (imageOf members).GivesMap members := .inl rfl
  have hrepeats : RepeatsCountNothing (inLowerCase (.ofList members)) := by
    unfold RepeatsCountNothing
    decide +kernel
  have hsums := (image_counts_last_spellings hrule hmap).2 hrepeats
  exact ⟨hrule, hmap, hrepeats, hsums, by decide +kernel⟩

/-- Of two spellings of a severity the first one is lost. -/
theorem first_spelling_lost :
    let members : List (String × Json) := [("HIGH", .ofCount 5), ("High", .ofCount 2)]
    NodeRule.select (imageOf members) = .containerImage ∧ (imageOf members).GivesMap members ∧
      ¬ SumsUp (imageOf members).classify (inLowerCase (.ofList members)) := by
  intro members
  refine ⟨by decide, .inl rfl, fun h => ?_⟩
  obtain ⟨total, hfind, htotal⟩ := h.total_eq
  have hshown : (imageOf members).classify.properties.find? "total_vulnerabilities" =
      some (.ofCount 2) := by
    decide +kernel
  rw [hshown] at hfind
  obtain rfl : 2 = total := Number.natural.inj (Json.number.inj (Option.some.inj hfind))
  exact absurd htotal (by decide +kernel)

end Image

end AssetAtlas

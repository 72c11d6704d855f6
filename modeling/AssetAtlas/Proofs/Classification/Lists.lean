import AssetAtlas.Proofs.Classification.ComplianceSummary
import AssetAtlas.Proofs.Classification.KnownExploited

/-!
List properties. The rules for exploited vulnerabilities and for compliance summaries turn some
properties into lists. A list, a text that encodes one and a single text are decoded. What can be no
list becomes the empty one and is reported once, and it does not count as observed.
-/

namespace AssetAtlas

theorem flatMap_ite_singleton {α : Type} (p : α → Bool) (xs : List α) :
    (xs.flatMap fun x => if p x then [x] else []) = xs.filter p := by
  induction xs with
  | nil => rfl
  | cons x xs ih =>
      rw [List.flatMap_cons, List.filter_cons, ih]
      split <;> rfl

/-! ## What a value says as a list -/

def encodedItems? (s : String) : Option (List Json) :=
  (Json.ofText s).toOption.bind Json.items?

/-- Whether a value can be no list: a truth value, a number, an object, or a text that begins like a
list and encodes none. -/
def Json.isNoList : Json → Bool
  | .bool _ | .number _ | .object _ => true
  | .string s => Text.beginsWith (Text.trim s) "[" && (encodedItems? (Text.trim s)).isNone
  | .null | .array _ => false

/-- The items of the list that a property says, if it is there at all. -/
inductive ListsAs : Option Json → List Json → Prop
  | missing : ListsAs none []
  | null : ListsAs (some .null) []
  | array (items : List Json) : ListsAs (some (.array items)) items
  | encoded {s : String} {items : List Json} (hbegins : Text.beginsWith (Text.trim s) "[" = true)
      (hitems : encodedItems? (Text.trim s) = some items) : ListsAs (some (.string s)) items
  | single {s : String} (hfilled : Text.trim s ≠ "")
      (hother : Text.beginsWith (Text.trim s) "[" = false) :
      ListsAs (some (.string s)) [.string (Text.trim s)]
  | blank {s : String} (hblank : Text.trim s = "") : ListsAs (some (.string s)) []
  | broken {value : Json} (hbroken : value.isNoList = true) : ListsAs (some value) []

theorem decodeList_of_blank {s : String} (h : Text.trim s = "") :
    decodeList (some (.string s)) = .ok [] := by
  rw [decodeList, h]
  rfl

theorem decodeList_of_other {s : String} (hfilled : Text.trim s ≠ "")
    (hother : Text.beginsWith (Text.trim s) "[" = false) :
    decodeList (some (.string s)) = .ok [.string (Text.trim s)] := by
  simp [decodeList, hfilled, hother]

theorem toOption_decodeList_of_list {s : String} (h : Text.beginsWith (Text.trim s) "[" = true) :
    (decodeList (some (.string s))).toOption = encodedItems? (Text.trim s) := by
  have hfilled : Text.trim s ≠ "" := by
    intro hblank
    rw [hblank] at h
    exact absurd h (by decide)
  simp only [decodeList, encodedItems?]
  rw [if_neg (by simpa using hfilled), if_pos h]
  cases Json.ofText (Text.trim s) with
  | ok value => cases value <;> rfl
  | error fault => rfl

theorem toOption_decodeList_eq_none_iff {value? : Option Json} :
    (decodeList value?).toOption = none ↔ value?.any Json.isNoList = true := by
  match value? with
  | none | some .null | some (.array _) => exact iff_of_false nofun nofun
  | some (.bool _) | some (.number _) | some (.object _) => exact iff_of_true rfl rfl
  | some (.string s) =>
      cases hbegins : Text.beginsWith (Text.trim s) "[" with
      | true =>
          rw [toOption_decodeList_of_list hbegins]
          simp [Json.isNoList, hbegins]
      | false =>
          have hlist : ((some (Json.string s)).any Json.isNoList) = false := by
            simp [Json.isNoList, hbegins]
          rw [hlist]
          by_cases hblank : Text.trim s = ""
          · rw [decodeList_of_blank hblank]
            exact iff_of_false nofun nofun
          · rw [decodeList_of_other hblank hbegins]
            exact iff_of_false nofun nofun

theorem ListsAs.getD_toOption_decodeList {value? : Option Json} {items : List Json}
    (h : ListsAs value? items) : (decodeList value?).toOption.getD [] = items := by
  cases h with
  | missing | null | array => rfl
  | encoded hbegins hitems => rw [toOption_decodeList_of_list hbegins, hitems, Option.getD_some]
  | single hfilled hother =>
      rw [decodeList_of_other hfilled hother]
      rfl
  | blank hblank =>
      rw [decodeList_of_blank hblank]
      rfl
  | @broken value hbroken =>
      have hnone : (decodeList (some value)).toOption = none :=
        toOption_decodeList_eq_none_iff.mpr hbroken
      rw [hnone, Option.getD_none]

theorem exists_listsAs (value? : Option Json) : ∃ items, ListsAs value? items := by
  match value? with
  | none => exact ⟨_, .missing⟩
  | some .null => exact ⟨_, .null⟩
  | some (.array items) => exact ⟨_, .array items⟩
  | some (.bool _) | some (.number _) | some (.object _) => exact ⟨_, .broken rfl⟩
  | some (.string s) =>
      cases hbegins : Text.beginsWith (Text.trim s) "[" with
      | true =>
          cases hitems : encodedItems? (Text.trim s) with
          | some items => exact ⟨_, .encoded hbegins hitems⟩
          | none => exact ⟨_, .broken (by simp [Json.isNoList, hbegins, hitems])⟩
      | false =>
          by_cases hblank : Text.trim s = ""
          · exact ⟨_, .blank hblank⟩
          · exact ⟨_, .single hblank hbegins⟩

theorem listsAs_iff {value? : Option Json} {items : List Json} :
    ListsAs value? items ↔ items = (decodeList value?).toOption.getD [] := by
  constructor
  · exact fun h => h.getD_toOption_decodeList.symm
  · rintro rfl
    obtain ⟨items, hitems⟩ := exists_listsAs value?
    rw [hitems.getD_toOption_decodeList]
    exact hitems

/-! ## What a node says -/

namespace RawNode

variable {n : RawNode} {key : String}

/-- The properties that a rule turns into lists, in order; some of them only if they are there. -/
def listKeys (n : RawNode) : NodeRule → List String
  | .knownExploited => ["cwes"]
  | .complianceSummary =>
    "compliance_standards" ::
      ["bucket_names", "credential_names", "findings"].filter n.properties.contains
  | .containerImage | .vulnerability | .cloudResource | .generic => []

def breaksList (n : RawNode) (key : String) : Bool :=
  (n.properties.find? key).any Json.isNoList

theorem listsAs_iff_getD_list? {items : List Json} :
    ListsAs (n.properties.find? key) items ↔ items = (n.list? key).getD [] := by
  rw [listsAs_iff, list?]
  split
  · exact Iff.rfl
  · next hgiven =>
      rw [decodeList_of_not_given hgiven]
      exact Iff.rfl

theorem list?_eq_none_iff :
    n.list? key = none ↔
      n.properties.find? key = none ∨ n.properties.find? key = some .null ∨ n.breaksList key := by
  rw [list?, ← or_assoc, ← not_isGiven_iff]
  split
  · next hgiven =>
      rw [or_iff_right (not_not_intro hgiven)]
      exact toOption_decodeList_eq_none_iff
  · next hgiven => exact iff_of_true rfl (.inl hgiven)

/-! ## What is reported -/

theorem issues_listFinding (n : RawNode) (key : String) :
    ((listFinding n key).2.map (·.property) = if n.breaksList key then [key] else []) ∧
      ∀ i ∈ (listFinding n key).2, i.node = n.fallbackName := by
  have hbroken : (decodeList (n.properties.find? key)).toOption = none ↔ n.breaksList key = true :=
    toOption_decodeList_eq_none_iff
  unfold listFinding
  dsimp only
  cases hlist : decodeList (n.properties.find? key) with
  | ok items =>
      rw [hlist] at hbroken
      rw [if_neg (mt hbroken.mpr nofun)]
      exact ⟨rfl, List.forall_mem_nil _⟩
  | error defect =>
      rw [hlist] at hbroken
      rw [if_pos (hbroken.mp rfl)]
      exact ⟨rfl, List.forall_mem_singleton.mpr rfl⟩

end RawNode

/-- The properties under some keys are shown as the lists that they say. Those that can be no list
are reported, each once and in order. Placeholders stand where nothing is said or nothing can be
read. -/
structure Classification.ShowsLists (c : Classification) (n : RawNode) (keys : List String) :
    Prop where
  decoded : ∀ key ∈ keys, ∃ items, c.properties.find? key = some (.array items) ∧
    ∀ items', ListsAs (n.properties.find? key) items' ↔ items' = items
  reported : c.issues.map (·.property) = keys.filter n.breaksList
  reported_of : ∀ i ∈ c.issues, i.node = n.fallbackName
  placeholder_iff : ∀ key ∈ keys, key ∈ c.placeholders ↔
    n.properties.find? key = none ∨ n.properties.find? key = some .null ∨ n.breaksList key

namespace Classification

variable {n : RawNode}

theorem fills_list {rule : NodeRule} (h : NodeRule.select n = rule) {key : String}
    (hkey : key ∈ n.listKeys rule) :
    n.classify.Fills key ((n.list? key).map .array) (.array []) := by
  cases rule with
  | knownExploited =>
      obtain rfl := List.mem_singleton.mp hkey
      exact KnownExploited.fills_cwes h
  | complianceSummary =>
      rcases List.mem_cons.mp hkey with rfl | hkey
      · exact ComplianceSummary.fills_list h List.mem_cons_self (.inl rfl)
      · obtain ⟨hname, hgiven⟩ := List.mem_filter.mp hkey
        exact ComplianceSummary.fills_list h (List.mem_cons_of_mem _ hname) (.inr hgiven)
  | containerImage | vulnerability | cloudResource | generic => exact nomatch hkey

theorem issues_eq {rule : NodeRule} (h : NodeRule.select n = rule)
    (hrule : rule = .knownExploited ∨ rule = .complianceSummary) :
    n.classify.issues = (n.listKeys rule).flatMap fun key => (listFinding n key).2 := by
  have hissues : n.classify.issues = (rule.verdict n).issues := by
    rw [← h]
    rfl
  rw [hissues]
  rcases hrule with rfl | rfl
  · exact (List.flatMap_singleton _ _).symm
  · simp only [NodeRule.verdict, complianceVerdict, RawNode.listKeys, List.flatMap_map]

/-- Exploited vulnerabilities and compliance summaries show every list property as a list, and
report every one that can be none. -/
theorem lists_decoded_or_reported
    (h : NodeRule.select n = .knownExploited ∨ NodeRule.select n = .complianceSummary) :
    n.classify.ShowsLists n (n.listKeys n.classify.rule) := by
  have hissues := issues_eq rfl h
  constructor
  · intro key hkey
    exact ⟨_, (fills_list rfl hkey).find?_map, fun _ => RawNode.listsAs_iff_getD_list?⟩
  · rw [hissues, List.map_flatMap]
    exact (List.flatMap_congr fun key _ => (n.issues_listFinding key).1).trans
      (flatMap_ite_singleton _ _)
  · intro i hi
    rw [hissues] at hi
    obtain ⟨key, -, hi⟩ := List.mem_flatMap.mp hi
    exact (n.issues_listFinding key).2 i hi
  · intro key hkey
    rw [(fills_list rfl hkey).mem_placeholders_iff, Option.map_eq_none_iff]
    exact RawNode.list?_eq_none_iff

/-- A summary that gives a list that is cut off, a truth value, a single text and a null. -/
def mixedLists : RawNode where
  id := .string "7"
  labels := ["S3ComplianceSummary"]
  properties := .ofList
    [("compliance_standards", .string " [\"GDPR\","), ("bucket_names", .bool true),
      ("credential_names", .string " admin "), ("findings", .null)]

theorem lists_decoded_or_reported_mixed :
    NodeRule.select mixedLists = .complianceSummary ∧
      mixedLists.classify.ShowsLists mixedLists (mixedLists.listKeys mixedLists.classify.rule) ∧
      mixedLists.classify.issues.map (·.property) = ["compliance_standards", "bucket_names"] ∧
      mixedLists.classify.properties.find? "credential_names" = some (.array [.string "admin"]) ∧
      "findings" ∈ mixedLists.classify.placeholders := by
  have hrule : NodeRule.select mixedLists = .complianceSummary := by decide
  have hlists := lists_decoded_or_reported (.inr hrule)
  exact ⟨hrule, hlists, by decide +kernel, by decide +kernel, by decide +kernel⟩

end Classification

end AssetAtlas

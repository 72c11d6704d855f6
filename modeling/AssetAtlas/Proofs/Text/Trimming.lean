import Mathlib.Data.List.DropRight
import AssetAtlas.Text.Blank

/-!
Trimming takes the blank characters from both ends at once: what is left has none at its ends, and
trimming it again changes nothing. Where a text does not begin with a blank character, the trimmed
text begins as the text itself does.
-/

namespace AssetAtlas.Text

theorem trimChars_eq_rdropWhile (cs : List Char) :
    trimChars cs = (cs.dropWhile isBlank).rdropWhile isBlank := rfl

theorem dropWhile_eq_self_of_prefix {p : Char → Bool} {cs ds : List Char} (h : cs <+: ds)
    (hds : ds.dropWhile p = ds) : cs.dropWhile p = cs := by
  obtain ⟨rest, rfl⟩ := h
  cases cs with
  | nil => rfl
  | cons c cs =>
      have hc : ¬ p c = true := List.dropWhile_eq_self_iff.mp hds (Nat.zero_lt_succ _)
      exact List.dropWhile_cons_of_neg hc

theorem trimChars_trimChars (cs : List Char) : trimChars (trimChars cs) = trimChars cs := by
  -- cutting off behind leaves the front as it is
  have hfront : (trimChars cs).dropWhile isBlank = trimChars cs :=
    dropWhile_eq_self_of_prefix (List.rdropWhile_prefix isBlank _)
      (List.dropWhile_idempotent isBlank cs)
  rw [trimChars_eq_rdropWhile (trimChars cs), hfront]
  exact List.rdropWhile_idempotent isBlank _

@[simp] theorem trim_trim (s : String) : trim (trim s) = trim s := by
  rw [trim, trim, String.toList_ofList, trimChars_trimChars]

theorem trim_eq_empty_iff (s : String) : trim s = "" ↔ ∀ c ∈ s.toList, isBlank c = true := by
  rw [trim, String.ofList_eq_empty_iff, trimChars_eq_rdropWhile, List.rdropWhile_eq_nil_iff]
  constructor
  · intro hrest c hc
    rw [← List.takeWhile_append_dropWhile (p := isBlank) (l := s.toList)] at hc
    rcases List.mem_append.mp hc with hfront | hrest'
    · exact List.mem_takeWhile_imp hfront
    · exact hrest c hrest'
  · intro hall c hc
    exact hall c (List.dropWhile_sublist isBlank |>.subset hc)

theorem trim_ne_empty_iff (s : String) : trim s ≠ "" ↔ ∃ c ∈ s.toList, isBlank c = false := by
  rw [Ne, trim_eq_empty_iff]
  simp

theorem trim_ofList_ne_empty {cs : List Char} {c : Char} (hc : c ∈ cs) (h : isBlank c = false) :
    trim (String.ofList cs) ≠ "" := by
  rw [trim_ne_empty_iff, String.toList_ofList]
  exact ⟨c, hc, h⟩

theorem trim_append_left_ne_empty {s : String} (h : trim s ≠ "") (t : String) :
    trim (s ++ t) ≠ "" := by
  obtain ⟨c, hc, hblank⟩ := (trim_ne_empty_iff s).mp h
  rw [trim_ne_empty_iff, String.toList_append]
  exact ⟨c, List.mem_append_left _ hc, hblank⟩

theorem trim_append_right_ne_empty {t : String} (h : trim t ≠ "") (s : String) :
    trim (s ++ t) ≠ "" := by
  obtain ⟨c, hc, hblank⟩ := (trim_ne_empty_iff t).mp h
  rw [trim_ne_empty_iff, String.toList_append]
  exact ⟨c, List.mem_append_right _ hc, hblank⟩

theorem nonBlank?_eq_some_iff {s t : String} :
    nonBlank? s = some t ↔ trim s = t ∧ t ≠ "" := by
  unfold nonBlank?
  dsimp only
  split
  · next hempty =>
      have hblank : trim s = "" := by simpa using hempty
      rw [hblank]
      exact iff_of_false nofun fun ⟨heq, hne⟩ => hne heq.symm
  · next hfilled =>
      have hsome : trim s ≠ "" := by simpa using hfilled
      rw [Option.some_inj]
      exact ⟨fun heq => ⟨heq, heq ▸ hsome⟩, And.left⟩

theorem nonBlank?_eq_some_self {s t : String} (h : nonBlank? s = some t) : nonBlank? t = some t := by
  obtain ⟨rfl, hne⟩ := nonBlank?_eq_some_iff.mp h
  exact nonBlank?_eq_some_iff.mpr ⟨trim_trim s, hne⟩

/-! ## The beginning of a text -/

def beginsBlank (s : String) : Bool :=
  s.toList.head?.any isBlank

theorem trimChars_prefix_self {s : String} (h : beginsBlank s = false) :
    trimChars s.toList <+: s.toList := by
  have hfront : s.toList.dropWhile isBlank = s.toList := by
    unfold beginsBlank at h
    cases hs : s.toList with
    | nil => rfl
    | cons c cs =>
        rw [hs] at h
        exact List.dropWhile_cons_of_neg (by simpa using h)
  rw [trimChars_eq_rdropWhile, hfront]
  exact List.rdropWhile_prefix isBlank _

theorem beginsWith_of_trim {s start : String} (hs : beginsBlank s = false)
    (h : beginsWith (trim s) start = true) : beginsWith s start = true := by
  rw [beginsWith, List.isPrefixOf_iff_prefix] at h ⊢
  rw [trim, String.toList_ofList] at h
  exact h.trans (trimChars_prefix_self hs)

theorem beginsBlank_of_beginsWith {s start : String} {c : Char} (hc : c ∈ start.toList.head?)
    (h : beginsWith s start = true) : beginsBlank s = isBlank c := by
  rw [beginsWith, List.isPrefixOf_iff_prefix] at h
  obtain ⟨rest, hrest⟩ := h
  rw [beginsBlank, ← hrest, List.head?_append_of_ne_nil, Option.mem_def.mp hc]
  · rfl
  · rintro hnil
    rw [hnil] at hc
    exact nomatch hc

end AssetAtlas.Text

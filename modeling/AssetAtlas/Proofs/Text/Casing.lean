import AssetAtlas.Proofs.Text.Trimming
import AssetAtlas.Text.Casing

/-!
Lower case in the sense of Unicode and of ASCII. The lower case of a text is made of characters that
are their own lower case wherever they stand, so taking it again changes nothing, and no capital
letter of ASCII is left in it, also where a letter from outside ASCII becomes one of ASCII. No text
becomes blank in lower case.
-/

namespace AssetAtlas.Text

theorem toLower_of_toNat {c : Char} (h : c.toNat < 0x41 ∨ 0x5A < c.toNat) : c.toLower = c := by
  refine dif_neg fun ⟨hlow, hhigh⟩ => ?_
  have hlow : 0x41 ≤ c.toNat := hlow
  have hhigh : c.toNat ≤ 0x5A := hhigh
  omega

theorem toNat_toLower {c : Char} (h : 0x41 ≤ c.toNat ∧ c.toNat ≤ 0x5A) :
    c.toLower.toNat = c.toNat + 32 := by
  have hval : c.toLower.val = c.val + 32 := congrArg Char.val (dif_pos h)
  have hnat : c.toLower.toNat = (c.toNat + 32) % 2 ^ 32 := by
    rw [Char.toNat, hval, UInt32.toNat_add]
    rfl
  omega

theorem toLower_toLower (c : Char) : c.toLower.toLower = c.toLower := by
  by_cases hcapital : 0x41 ≤ c.toNat ∧ c.toNat ≤ 0x5A
  · have hnat := toNat_toLower hcapital
    exact toLower_of_toNat (by omega)
  · have hsame : c.toLower = c := toLower_of_toNat (by omega)
    rw [hsame, hsame]

theorem isBlank_toLower (c : Char) : isBlank c.toLower = isBlank c := by
  by_cases hcapital : 0x41 ≤ c.toNat ∧ c.toNat ≤ 0x5A
  · have hnat := toNat_toLower hcapital
    have hletter (d : Char) (hd : 0x41 ≤ d.toNat ∧ d.toNat ≤ 0x7A) : isBlank d = false := by
      simp [isBlank]
      omega
    rw [hletter c (by omega), hletter c.toLower (by omega)]
  · rw [toLower_of_toNat (by omega)]

theorem toLower_of_isBlank {c : Char} (h : isBlank c = true) : c.toLower = c := by
  apply toLower_of_toNat
  simp [isBlank] at h
  omega

/-! ## Runs of code points -/

/-- The counterpart of the last code point of a run. -/
def CaseRun.lastImage (r : CaseRun) : Nat :=
  r.2.2.2 + (r.2.1 - r.1)

/-- Whether no counterpart in the first run is a code point of the second one: the two lie apart, or
they alternate. -/
def CaseRun.avoids (r s : CaseRun) : Bool :=
  Nat.blt r.lastImage s.1 || Nat.blt s.2.1 r.2.2.2 ||
    (s.2.2.1 == 2 && (r.1 == r.2.1 || r.2.2.1 == 2) && (r.2.2.2 + s.1) % 2 == 1)

/-- Code points that are no lower case letters: up to the last capital letter of ASCII, blank
characters, the two capital letters that are not in a run, and what is no character. -/
def oddRanges : List (Nat × Nat) :=
  [(0, 0x5A), (0x85, 0x85), (0xA0, 0xA0), (0x130, 0x130), (0x3A3, 0x3A3), (0x1680, 0x1680),
    (0x2000, 0x200A), (0x2028, 0x2029), (0x202F, 0x202F), (0x205F, 0x205F), (0x3000, 0x3000),
    (0xD800, 0xDFFF)]

theorem CaseRun.covers_iff (r : CaseRun) (n : Nat) :
    r.covers n = true ↔ r.1 ≤ n ∧ n ≤ r.2.1 ∧ (n - r.1) % r.2.2.1 = 0 := by
  simp [covers, and_assoc]

theorem CaseRun.not_covers_of_avoids {r s : CaseRun} (h : r.avoids s = true) {n : Nat}
    (hn : r.covers n = true) : ¬ s.covers (r.2.2.2 + (n - r.1)) = true := by
  obtain ⟨hfirst, hlast, hstep⟩ := (r.covers_iff n).mp hn
  rw [covers_iff]
  rintro ⟨hfirst', hlast', hstep'⟩
  simp only [avoids, lastImage, Bool.or_eq_true, Bool.and_eq_true, beq_iff_eq, Nat.blt_eq] at h
  rcases h with (hbelow | habove) | ⟨⟨htwo', hsingle | htwo⟩, hodd⟩
  · omega
  · omega
  · rw [htwo'] at hstep'
    omega
  · rw [htwo'] at hstep'
    rw [htwo] at hstep
    omega

/-- No lower case letter has a lower case of its own. -/
theorem lowerRuns_avoid : (lowerRuns.all fun r => lowerRuns.all r.avoids) = true := by
  decide +kernel

theorem lowerRuns_regular : ∀ r ∈ lowerRuns, r.lastImage < 0x110000 ∧
    ∀ odd ∈ oddRanges, r.lastImage < odd.1 ∨ odd.2 < r.2.2.2 := by
  decide +kernel

theorem mapThrough_cases (runs : List CaseRun) (n : Nat) :
    (∃ r ∈ runs, r.covers n = true ∧ mapThrough runs n = r.2.2.2 + (n - r.1)) ∨
      (∀ r ∈ runs, ¬ r.covers n = true) ∧ mapThrough runs n = n := by
  unfold mapThrough
  cases hfind : runs.find? (·.covers n) with
  | some r =>
      have hcovers : r.covers n = true := by simpa using List.find?_some hfind
      exact .inl ⟨r, List.mem_of_find?_eq_some hfind, hcovers, rfl⟩
  | none => exact .inr ⟨List.find?_eq_none.mp hfind, rfl⟩

theorem mapThrough_eq_self {runs : List CaseRun} {n : Nat}
    (h : ∀ r ∈ runs, ¬ r.covers n = true) : mapThrough runs n = n := by
  rcases mapThrough_cases runs n with ⟨r, hr, hn, -⟩ | ⟨-, hsame⟩
  · exact absurd hn (h r hr)
  · exact hsame

theorem mapThrough_lowerRuns_idem (n : Nat) :
    mapThrough lowerRuns (mapThrough lowerRuns n) = mapThrough lowerRuns n := by
  rcases mapThrough_cases lowerRuns n with ⟨r, hr, hn, himage⟩ | ⟨-, hsame⟩
  · rw [himage]
    apply mapThrough_eq_self
    intro s hs
    exact CaseRun.not_covers_of_avoids
      (List.all_eq_true.mp (List.all_eq_true.mp lowerRuns_avoid r hr) s hs) hn
  · rw [hsame, hsame]

theorem mapThrough_lowerRuns_cases (n : Nat) :
    mapThrough lowerRuns n = n ∨
      mapThrough lowerRuns n < 0x110000 ∧
        inRanges oddRanges (mapThrough lowerRuns n) = false := by
  rcases mapThrough_cases lowerRuns n with ⟨r, hr, hn, himage⟩ | ⟨-, hsame⟩
  · obtain ⟨hlimit, hodd⟩ := lowerRuns_regular r hr
    obtain ⟨hfirst, hlast, -⟩ := (r.covers_iff n).mp hn
    unfold CaseRun.lastImage at hlimit hodd
    rw [himage]
    refine .inr ⟨by omega, List.any_eq_false.mpr fun odd hmem => ?_⟩
    have hapart := hodd odd hmem
    simp only [Bool.and_eq_true, decide_eq_true_eq]
    omega
  · exact .inl hsame

/-! ## Characters -/

/-- A character that stays as it is in lower case, whatever stands around it. -/
def IsLower (c : Char) : Prop :=
  ∀ before after, lowerChar before c after = [c]

theorem toNat_ofNat_of_regular {n : Nat} (hlimit : n < 0x110000)
    (hodd : inRanges oddRanges n = false) : (Char.ofNat n).toNat = n := by
  have hvalid : n.isValidChar := by
    simp [inRanges, oddRanges] at hodd
    unfold Nat.isValidChar
    omega
  rw [Char.ofNat, dif_pos hvalid]
  rfl

theorem isLower_of_toLower {c : Char} (hascii : c.toNat < 0x80) (h : c.toLower = c) :
    IsLower c := by
  intro before after
  rw [lowerChar, if_pos hascii, h]

theorem isLower_toLower {c : Char} (hascii : c.toNat < 0x80) : IsLower c.toLower := by
  refine isLower_of_toLower ?_ (toLower_toLower c)
  by_cases hcapital : 0x41 ≤ c.toNat ∧ c.toNat ≤ 0x5A
  · rw [toNat_toLower hcapital]
    omega
  · rw [toLower_of_toNat (by omega)]
    exact hascii

theorem isLower_of_mapThrough {c : Char} (hbeyond : ¬ c.toNat < 0x80) (hsigma : c ≠ 'Σ')
    (hdotted : c ≠ 'İ') (h : mapThrough lowerRuns c.toNat = c.toNat) : IsLower c := by
  intro before after
  rw [lowerChar, if_neg hbeyond, if_neg hsigma, if_neg hdotted, h, Char.ofNat_toNat]

theorem isLower_ofNat_of_regular {n : Nat} (hlimit : n < 0x110000)
    (hodd : inRanges oddRanges n = false) (h : mapThrough lowerRuns n = n) :
    IsLower (Char.ofNat n) := by
  have hnat := toNat_ofNat_of_regular hlimit hodd
  simp [inRanges, oddRanges] at hodd
  by_cases hascii : (Char.ofNat n).toNat < 0x80
  · apply isLower_of_toLower hascii
    apply toLower_of_toNat
    omega
  · apply isLower_of_mapThrough hascii
    · intro heq
      rw [heq] at hnat
      have hsigma : 'Σ'.toNat = 0x3A3 := rfl
      omega
    · intro heq
      rw [heq] at hnat
      have hdotted : 'İ'.toNat = 0x130 := rfl
      omega
    · rw [hnat]
      exact h

theorem isLower_of_mem_lowerChar {before after : List Char} {c d : Char}
    (h : d ∈ lowerChar before c after) : IsLower d := by
  unfold lowerChar at h
  split at h
  · next hascii =>
      obtain rfl := List.mem_singleton.mp h
      exact isLower_toLower hascii
  · next hbeyond =>
      split at h
      · obtain rfl := List.mem_singleton.mp h
        split
        · exact isLower_of_mapThrough (by decide) (by decide) (by decide) (by decide +kernel)
        · exact isLower_of_mapThrough (by decide) (by decide) (by decide) (by decide +kernel)
      · next hsigma =>
          split at h
          · simp only [List.mem_cons, List.not_mem_nil, or_false] at h
            rcases h with rfl | rfl
            · exact isLower_of_toLower (by decide) (by decide)
            · exact isLower_of_mapThrough (by decide) (by decide) (by decide) (by decide +kernel)
          · next hdotted =>
              obtain rfl := List.mem_singleton.mp h
              rcases mapThrough_lowerRuns_cases c.toNat with hsame | ⟨hlimit, hodd⟩
              · rw [hsame, Char.ofNat_toNat]
                exact isLower_of_mapThrough hbeyond hsigma hdotted hsame
              · exact isLower_ofNat_of_regular hlimit hodd (mapThrough_lowerRuns_idem _)

theorem isLower_of_mem_lowerAfter {before cs : List Char} {d : Char}
    (h : d ∈ lowerAfter before cs) : IsLower d := by
  induction cs generalizing before with
  | nil => exact nomatch h
  | cons c rest ih =>
      rcases List.mem_append.mp h with hc | hrest
      · exact isLower_of_mem_lowerChar hc
      · exact ih hrest

theorem lowerAfter_eq_self {before cs : List Char} (h : ∀ c ∈ cs, IsLower c) :
    lowerAfter before cs = cs := by
  induction cs generalizing before with
  | nil => rfl
  | cons c rest ih =>
      obtain ⟨hc, hrest⟩ := List.forall_mem_cons.mp h
      rw [lowerAfter, hc, ih hrest, List.singleton_append]

@[simp] theorem lower_lower (s : String) : lower (lower s) = lower s := by
  unfold lower
  rw [String.toList_ofList, lowerAfter_eq_self fun c => isLower_of_mem_lowerAfter]

theorem IsLower.toLower_eq {c : Char} (h : IsLower c) : c.toLower = c := by
  by_cases hascii : c.toNat < 0x80
  · have hlower := h [] []
    rw [lowerChar, if_pos hascii] at hlower
    exact List.head_eq_of_cons_eq hlower
  · exact toLower_of_toNat (by omega)

/-! ## Blank texts -/

theorem isBlank_ofNat_of_regular {n : Nat} (hlimit : n < 0x110000)
    (hodd : inRanges oddRanges n = false) : isBlank (Char.ofNat n) = false := by
  have hnat := toNat_ofNat_of_regular hlimit hodd
  simp [inRanges, oddRanges] at hodd
  simp [isBlank, hnat]
  omega

theorem isBlank_of_lowerChar {before after : List Char} {c : Char}
    (h : ∀ d ∈ lowerChar before c after, isBlank d = true) : isBlank c = true := by
  unfold lowerChar at h
  split at h
  · rw [← isBlank_toLower]
    exact h _ List.mem_cons_self
  · split at h
    · have hsigma := h _ List.mem_cons_self
      split at hsigma
      · exact absurd hsigma (by decide)
      · exact absurd hsigma (by decide)
    · split at h
      · exact absurd (h _ List.mem_cons_self) (by decide)
      · have himage := h _ List.mem_cons_self
        rcases mapThrough_lowerRuns_cases c.toNat with hsame | ⟨hlimit, hodd⟩
        · rw [hsame, Char.ofNat_toNat] at himage
          exact himage
        · rw [isBlank_ofNat_of_regular hlimit hodd] at himage
          exact absurd himage Bool.false_ne_true

theorem isBlank_of_lowerAfter {before cs : List Char}
    (h : ∀ d ∈ lowerAfter before cs, isBlank d = true) : ∀ c ∈ cs, isBlank c = true := by
  induction cs generalizing before with
  | nil => exact nofun
  | cons c rest ih =>
      obtain ⟨hc, hrest⟩ := List.forall_mem_append.mp h
      exact List.forall_mem_cons.mpr ⟨isBlank_of_lowerChar hc, ih hrest⟩

theorem trim_eq_empty_of_lower {s : String} (h : trim (lower s) = "") : trim s = "" := by
  rw [trim_eq_empty_iff, lower, String.toList_ofList] at h
  exact (trim_eq_empty_iff s).mpr (isBlank_of_lowerAfter h)

/-! ## The letters of ASCII -/

theorem asciiLower_eq_self {s : String} (h : ∀ c ∈ s.toList, c.toLower = c) : asciiLower s = s := by
  rw [asciiLower, List.map_congr_left h, List.map_id', String.ofList_toList]

@[simp] theorem asciiLower_lower (s : String) : asciiLower (lower s) = lower s := by
  apply asciiLower_eq_self
  intro c hc
  rw [lower, String.toList_ofList] at hc
  exact (isLower_of_mem_lowerAfter hc).toLower_eq

theorem asciiLower_of_trim_eq_empty {s : String} (h : trim s = "") : asciiLower s = s :=
  asciiLower_eq_self fun c hc => toLower_of_isBlank ((trim_eq_empty_iff s).mp h c hc)

end AssetAtlas.Text

import AssetAtlas.Json.Value
import AssetAtlas.Proofs.Count.Saturation

/-!
What is read as a count. Of the texts these are the ones that spell a number which a word can hold,
with at least one digit and nothing else but a plus sign. Of the numbers these are the ones that are
not negative.
-/

namespace AssetAtlas

namespace Decimal

inductive Spells : List Char → Nat → Prop where
  | plain {ds : List Char} (hne : ds ≠ []) (hds : ∀ d ∈ ds, isDigit d = true) :
      Spells ds (valueOf ds)
  | signed {ds : List Char} (hne : ds ≠ []) (hds : ∀ d ∈ ds, isDigit d = true) :
      Spells ('+' :: ds) (valueOf ds)

/-- A count without a sign. -/
def plainWord? (ds : List Char) : Option UInt64 :=
  if ds.isEmpty || !ds.all isDigit then none
  else if valueOf ds ≤ wordMax then some (.ofNat (valueOf ds)) else none

theorem word?_signed (ds : List Char) : word? ('+' :: ds) = plainWord? ds := rfl

theorem word?_of_unsigned {cs : List Char} (h : ∀ ds, cs ≠ '+' :: ds) :
    word? cs = plainWord? cs := by
  cases cs with
  | nil => rfl
  | cons c ds =>
      have hc : c ≠ '+' := fun heq => h ds (heq ▸ rfl)
      simp only [word?, plainWord?]

theorem plainWord?_eq_some_iff {ds : List Char} {n : UInt64} :
    plainWord? ds = some n ↔ ds ≠ [] ∧ (∀ d ∈ ds, isDigit d = true) ∧ valueOf ds = n.toNat := by
  have hread : (ds.isEmpty || !ds.all isDigit) = false ↔
      ds ≠ [] ∧ ∀ d ∈ ds, isDigit d = true := by
    simp
  rw [← and_assoc, ← hread, plainWord?]
  cases ds.isEmpty || !ds.all isDigit with
  | true => simp
  | false =>
      rw [if_neg (by decide), Option.ite_none_right_eq_some, Option.some_inj]
      constructor
      · rintro ⟨hle, rfl⟩
        exact ⟨rfl, (toNat_ofNat_of_le hle).symm⟩
      · rintro ⟨-, hn⟩
        rw [hn]
        exact ⟨toNat_le_wordMax n, UInt64.ofNat_toNat⟩

theorem word?_eq_some_iff {cs : List Char} {n : UInt64} :
    word? cs = some n ↔ Spells cs n.toNat := by
  constructor
  · intro h
    by_cases hsign : ∃ ds, cs = '+' :: ds
    · obtain ⟨ds, rfl⟩ := hsign
      obtain ⟨hne, hds, hn⟩ := plainWord?_eq_some_iff.mp h
      exact hn ▸ .signed hne hds
    · rw [word?_of_unsigned (not_exists.mp hsign)] at h
      obtain ⟨hne, hds, hn⟩ := plainWord?_eq_some_iff.mp h
      exact hn ▸ .plain hne hds
  · generalize hn : n.toNat = k
    rintro (⟨hne, hds⟩ | ⟨hne, hds⟩)
    · -- the sign is no digit, so nothing is taken off the digits
      have hsign : ∀ ds, cs ≠ '+' :: ds := by
        rintro ds rfl
        exact absurd (hds '+' List.mem_cons_self) (by decide)
      rw [word?_of_unsigned hsign]
      exact plainWord?_eq_some_iff.mpr ⟨hne, hds, hn.symm⟩
    · rw [word?_signed]
      exact plainWord?_eq_some_iff.mpr ⟨hne, hds, hn.symm⟩

end Decimal

namespace Json

/-- A real number counts as its whole part, or as the largest word if that is smaller. Blank
characters around a text do not matter. -/
inductive CountsAs : Json → Nat → Prop where
  | natural (n : UInt64) : CountsAs (.number (.natural n)) n.toNat
  | real {x : Float} (h : 0 ≤ x) : CountsAs (.number (.real x)) x.toUInt64.toNat
  | text {s : String} {k : Nat} (h : Decimal.Spells (Text.trimChars s.toList) k)
      (hword : k ≤ Decimal.wordMax) : CountsAs (.string s) k

theorem countsAs_iff {value : Json} {k : Nat} :
    value.CountsAs k ↔ ∃ c, value.count? = some c ∧ c.toNat = k := by
  constructor
  · intro h
    cases h with
    | natural n => exact ⟨n, rfl, rfl⟩
    | real hx => exact ⟨_, if_pos hx, rfl⟩
    | text h hword =>
        have hk : (UInt64.ofNat k).toNat = k := toNat_ofNat_of_le hword
        exact ⟨.ofNat k, Decimal.word?_eq_some_iff.mpr (hk.symm ▸ h), hk⟩
  · rintro ⟨c, hc, rfl⟩
    cases value with
    | null | bool | array | object => exact nomatch hc
    | string s => exact .text (Decimal.word?_eq_some_iff.mp hc) (toNat_le_wordMax c)
    | number n =>
        cases n with
        | natural n =>
            cases hc
            exact .natural c
        | negative n => exact nomatch hc
        | real x =>
            obtain ⟨hx, hc⟩ := Option.ite_none_right_eq_some.mp hc
            cases hc
            exact .real hx

end Json

end AssetAtlas

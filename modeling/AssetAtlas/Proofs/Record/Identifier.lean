import AssetAtlas.Proofs.Text.Trimming
import AssetAtlas.Record.Basic

/-!
Identifiers of nodes and relationships. Whatever the store sends, an identifier that can be read is
not empty: empty texts are refused, and the text of a number is never blank, since it has digits or
at least a name.
-/

namespace AssetAtlas

namespace Decimal

theorem trim_ofList_digitsOf_ne_empty (n : Nat) : Text.trim (String.ofList (digitsOf n)) ≠ "" := by
  obtain ⟨c, hc⟩ := List.exists_mem_of_ne_nil _ (Nat.toDigits_ne_nil (b := 10) (n := n))
  apply Text.trim_ofList_ne_empty hc
  have hdigit : c.isDigit = true := Nat.isDigit_of_mem_toDigits (by decide) (by decide) hc
  obtain ⟨hlow, hhigh⟩ : 0x30 ≤ c.toNat ∧ c.toNat ≤ 0x39 := Char.isDigit_iff_toNat.mp hdigit
  simp [Text.isBlank]
  omega

theorem trim_positionalText_ne_empty (whole : String) (d : Digits) :
    Text.trim (positionalText whole d) ≠ "" := by
  unfold positionalText
  dsimp only
  split
  · apply Text.trim_append_left_ne_empty
    rw [String.ofList_append]
    exact Text.trim_append_left_ne_empty (trim_ofList_digitsOf_ne_empty _) _
  · split
    · exact Text.trim_ofList_ne_empty (List.mem_append_right _ List.mem_cons_self) (by decide)
    · exact Text.trim_ofList_ne_empty List.mem_cons_self (by decide)

theorem trim_scientificText_ne_empty (d : Digits) : Text.trim (scientificText d) ≠ "" :=
  Text.trim_append_right_ne_empty (trim_ofList_digitsOf_ne_empty _) _

theorem Style.trim_unsigned_ne_empty (s : Style) (bits : UInt64) :
    Text.trim (s.unsigned bits) ≠ "" := by
  unfold Style.unsigned
  split
  · exact Text.trim_append_left_ne_empty (by decide) _
  · dsimp only
    split
    · exact trim_positionalText_ne_empty _ _
    · split
      · exact trim_positionalText_ne_empty _ _
      · exact trim_scientificText_ne_empty _

theorem Style.trim_text_ne_empty (s : Style) (x : Float) : Text.trim (s.text x) ≠ "" := by
  unfold Style.text
  split
  · decide
  · apply Text.trim_append_right_ne_empty
    split
    · decide
    · exact s.trim_unsigned_ne_empty _

end Decimal

theorem Number.trim_text_ne_empty (n : Number) : Text.trim n.text ≠ "" := by
  have hnatural (n : Nat) : Text.trim (Nat.repr n) ≠ "" := Decimal.trim_ofList_digitsOf_ne_empty n
  cases n with
  | natural n => exact hnatural n.toNat
  | negative n =>
      show Text.trim (Int.repr n.toInt) ≠ ""
      cases n.toInt with
      | ofNat m => exact hnatural m
      | negSucc m => exact Text.trim_append_right_ne_empty (hnatural _) _
  | real x =>
      rw [Number.text]
      split
      · exact Decimal.Style.data.trim_text_ne_empty x
      · decide

theorem Number.text_ne_empty (n : Number) : n.text ≠ "" := by
  intro h
  apply n.trim_text_ne_empty
  rw [h]
  rfl

theorem identifier?_ne_empty {j : Json} {id : String} (h : identifier? j = some id) : id ≠ "" := by
  unfold identifier? at h
  split at h
  · split at h
    · exact nomatch h
    · next hs =>
        obtain rfl := Option.some.inj h
        intro hempty
        exact hs (String.isEmpty_iff.mpr hempty)
  · obtain rfl := Option.some.inj h
    exact Number.text_ne_empty _
  · exact nomatch h

end AssetAtlas

import AssetAtlas.Decimal.Reading

/-!
Counts are 64-bit words. A sum that no word can hold is the largest word, so that adding up the
counts of a result never starts again from zero.
-/

namespace AssetAtlas

/-- Counts add up to at most the largest word. -/
def saturatingAdd (a b : UInt64) : UInt64 :=
  .ofNat (min (a.toNat + b.toNat) Decimal.wordMax)

theorem toNat_saturatingAdd (a b : UInt64) :
    (saturatingAdd a b).toNat = min (a.toNat + b.toNat) Decimal.wordMax := by
  simp only [saturatingAdd, UInt64.toNat_ofNat']
  exact Nat.mod_eq_of_lt (by simp only [Decimal.wordMax]; omega)

/-- The sum of counts, at most the largest word. -/
def saturatingSum (counts : List UInt64) : UInt64 :=
  counts.foldl saturatingAdd 0

end AssetAtlas

import AssetAtlas.Decimal.Shortest

/-!
How a binary64 number is written: the shortest digits that read back, laid out positionally or in
scientific form. A style fixes where positional writing ends and what a whole number looks like.
-/

namespace AssetAtlas.Decimal

structure Style where
  /-- Exponents of the leading digit that are written positionally; all of them when absent. -/
  positional : Option (Int × Int)
  /-- What follows the digits of a number that is written positionally without a fraction. -/
  whole : String

/-- The style of numbers in structured text: positional for leading places from 10⁻⁵ to 10¹⁵, and
always recognisable as not an integer. -/
def Style.data : Style := ⟨some (-5, 15), ".0"⟩

/-- The style of numbers in messages: positional whatever the size, and whole numbers bare. -/
def Style.message : Style := ⟨none, ""⟩

def digitsOf (n : Nat) : List Char :=
  Nat.toDigits 10 n

/-- `0.00ddd`, `dd.dd` or `dd00`, by where the point falls. -/
def positionalText (whole : String) (d : Digits) : String :=
  let ds := digitsOf d.digits
  let point : Int := ds.length + d.exponent
  if 0 ≤ d.exponent then
    String.ofList (ds ++ List.replicate d.exponent.toNat '0') ++ whole
  else if 0 < point then
    String.ofList (ds.take point.toNat ++ '.' :: ds.drop point.toNat)
  else
    String.ofList ('0' :: '.' :: List.replicate (-point).toNat '0' ++ ds)

/-- `d.ddde+x`, without a point when there is one digit. -/
def scientificText (d : Digits) : String :=
  let ds := digitsOf d.digits
  let exponent : Int := ds.length + d.exponent - 1
  let mantissa := match ds with
    | [] => []
    | [c] => [c]
    | c :: rest => c :: '.' :: rest
  String.ofList mantissa ++ "e" ++ (if exponent < 0 then "-" else "+") ++
    String.ofList (digitsOf exponent.natAbs)

def Style.unsigned (s : Style) (bits : UInt64) : String :=
  if bits.toNat % Nat.pow 2 63 = 0 then "0" ++ s.whole
  else
    let d := shortest bits
    let leading : Int := (digitsOf d.digits).length + d.exponent - 1
    match s.positional with
    | none => positionalText s.whole d
    | some (least, most) =>
      if least ≤ leading ∧ leading ≤ most then positionalText s.whole d else scientificText d

/-- The text of a number; the sign of a negative zero is kept. -/
def Style.text (s : Style) (x : Float) : String :=
  if x.isNaN then "NaN"
  else
    let bits := x.toBits
    (if Nat.pow 2 63 ≤ bits.toNat then "-" else "") ++ if x.isInf then "inf" else s.unsigned bits

end AssetAtlas.Decimal

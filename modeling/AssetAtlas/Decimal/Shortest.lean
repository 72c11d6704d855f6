/-!
The shortest decimal digits that denote a binary64 number.

A finite number is `mantissa * 2 ^ exponent`, and the reals that round to it form an interval around
it. For one digit, two digits and so on, the two neighbours of the number on that decimal grid are
tried; the first grid that has a neighbour inside the interval gives the digits, and of two such
neighbours the nearer one is taken. All of it is exact arithmetic on natural numbers.
-/

namespace AssetAtlas.Decimal

/-- A nonnegative fraction. -/
structure Ratio where
  num : Nat
  den : Nat
deriving DecidableEq, Repr

namespace Ratio

def lt (a b : Ratio) : Bool :=
  a.num * b.den < b.num * a.den

def le (a b : Ratio) : Bool :=
  a.num * b.den ≤ b.num * a.den

/-- `num * 10 ^ exponent` -/
def ofDecimal (num : Nat) (exponent : Int) : Ratio :=
  if 0 ≤ exponent then ⟨num * Nat.pow 10 exponent.toNat, 1⟩
  else ⟨num, Nat.pow 10 (-exponent).toNat⟩

/-- `num * 2 ^ exponent` -/
def ofBinary (num : Nat) (exponent : Int) : Ratio :=
  if 0 ≤ exponent then ⟨num * Nat.pow 2 exponent.toNat, 1⟩
  else ⟨num, Nat.pow 2 (-exponent).toNat⟩

/-- The whole part of `a / 10 ^ exponent`. -/
def floorAt (a : Ratio) (exponent : Int) : Nat :=
  if 0 ≤ exponent then a.num / (a.den * Nat.pow 10 exponent.toNat)
  else a.num * Nat.pow 10 (-exponent).toNat / a.den

def distance (a b : Ratio) : Ratio :=
  ⟨(a.num * b.den - b.num * a.den) + (b.num * a.den - a.num * b.den), a.den * b.den⟩

end Ratio

/-- A positive finite binary64 number, as the value and the ends of the interval that rounds to
it. The ends belong to the interval when the mantissa is even. -/
structure Rounding where
  value : Ratio
  low : Ratio
  high : Ratio
  closed : Bool

namespace Rounding

/-- Reads the fields of a binary64 bit pattern whose sign is ignored. The lower end is half as far
away when the mantissa is the least one of its binade. -/
def ofBits (bits : UInt64) : Rounding :=
  let fraction := bits.toNat % Nat.pow 2 52
  let biased := bits.toNat / Nat.pow 2 52 % Nat.pow 2 11
  let mantissa := if biased = 0 then fraction else fraction + Nat.pow 2 52
  let exponent : Int := (if biased = 0 then 1 else biased : Nat) - 1075
  let narrow := fraction = 0 && 1 < biased
  { value := .ofBinary (4 * mantissa) (exponent - 2)
    low := .ofBinary (4 * mantissa - if narrow then 1 else 2) (exponent - 2)
    high := .ofBinary (4 * mantissa + 2) (exponent - 2)
    closed := mantissa % 2 = 0 }

def holds (r : Rounding) (a : Ratio) : Bool :=
  if r.closed then r.low.le a && a.le r.high else r.low.lt a && a.lt r.high

/-- The neighbour of the number on the grid of the multiples of `10 ^ exponent` that rounds to it,
the nearer one if both do, and the even one of two equally near. -/
def onGrid? (r : Rounding) (exponent : Int) : Option Nat :=
  let below := r.value.floorAt exponent
  let down := Ratio.ofDecimal below exponent
  let up := Ratio.ofDecimal (below + 1) exponent
  match r.holds down, r.holds up with
  | false, false => none
  | true, false => some below
  | false, true => some (below + 1)
  | true, true =>
    let d := r.value.distance down
    let u := r.value.distance up
    if d.lt u then some below
    else if u.lt d then some (below + 1)
    else some (if below % 2 = 0 then below else below + 1)

/-- The place of the leading digit: the largest `e` with `10 ^ e ≤ value`, found from an estimate
by the number of bits and corrected by at most `steps` places either way. -/
def leadingPlace (r : Rounding) (steps : Nat) : Int :=
  let bits : Int := (Nat.log2 r.value.num : Int) - (Nat.log2 r.value.den : Int)
  let estimate := Int.fdiv (bits * 30103) 100000 + 1
  correct steps estimate
where
  /-- Lowers the place until its power of ten is at most the value. -/
  correct : Nat → Int → Int
    | 0, e => e
    | steps + 1, e =>
      if (Ratio.ofDecimal 1 e).le r.value then e else correct steps (e - 1)

end Rounding

/-- Decimal digits with a place: `digits * 10 ^ exponent`. -/
structure Digits where
  digits : Nat
  exponent : Int
deriving DecidableEq, Repr

/-- Moves trailing zeros of the digits into the exponent, at most `steps` of them. -/
def Digits.strip : Nat → Digits → Digits
  | 0, d => d
  | steps + 1, d =>
    if d.digits ≠ 0 ∧ d.digits % 10 = 0 then strip steps ⟨d.digits / 10, d.exponent + 1⟩ else d

/-- Tries the grids from the coarsest one on: the one whose unit is `10 ^ place` first. -/
def firstGrid (r : Rounding) : Nat → Int → Option Digits
  | 0, _ => none
  | grids + 1, place =>
    match r.onGrid? place with
    | some n => if n = 0 then firstGrid r grids (place - 1) else some ⟨n, place⟩
    | none => firstGrid r grids (place - 1)

/-- The shortest digits of a positive finite binary64 number; seventeen always suffice. -/
def shortest (bits : UInt64) : Digits :=
  let r := Rounding.ofBits bits
  let place := r.leadingPlace 4
  ((firstGrid r 18 place).getD ⟨0, 0⟩).strip 20

end AssetAtlas.Decimal

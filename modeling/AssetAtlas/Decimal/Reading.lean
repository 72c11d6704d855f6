import AssetAtlas.Text.Blank

/-!
Numbers from text: whole counts, binary64 numbers written in decimal, and the scaling rule for
decimals in structured text.
-/

namespace AssetAtlas.Decimal

def digit? (c : Char) : Option Nat :=
  if '0' ≤ c ∧ c ≤ '9' then some (c.toNat - '0'.toNat) else none

def isDigit (c : Char) : Bool :=
  (digit? c).isSome

/-- The value of a run of decimal digits; other characters count as zero. -/
def valueOf (ds : List Char) : Nat :=
  ds.foldl (fun n c => 10 * n + (digit? c).getD 0) 0

def wordMax : Nat := 0xFFFFFFFFFFFFFFFF

/-- A 64-bit count: decimal digits, at least one, after an optional plus sign. -/
def word? (cs : List Char) : Option UInt64 :=
  let ds := match cs with
    | '+' :: rest => rest
    | _ => cs
  if ds.isEmpty || !ds.all isDigit then none
  else
    let n := valueOf ds
    if n ≤ wordMax then some (.ofNat n) else none

/-- The parts of an unsigned decimal: the digits before and after the point and the exponent. -/
structure Parts where
  whole : List Char
  fraction : List Char
  exponent : Int

/-- An exponent: an optional sign and at least one digit, to the end of the text. -/
def exponent? (cs : List Char) : Option Int :=
  let (negative, ds) := match cs with
    | '-' :: rest => (true, rest)
    | '+' :: rest => (false, rest)
    | _ => (false, cs)
  if ds.isEmpty || !ds.all isDigit then none
  else some (if negative then -(valueOf ds : Int) else valueOf ds)

/-- Splits an unsigned decimal. There must be a digit before or after the point; the point may end
the mantissa or begin it. -/
def parts? (cs : List Char) : Option Parts :=
  let whole := cs.takeWhile isDigit
  let afterWhole := cs.dropWhile isDigit
  let (fraction, rest) := match afterWhole with
    | '.' :: tail => (tail.takeWhile isDigit, tail.dropWhile isDigit)
    | _ => ([], afterWhole)
  if whole.isEmpty && fraction.isEmpty then none
  else match rest with
    | [] => some ⟨whole, fraction, 0⟩
    | c :: tail =>
      if c = 'e' ∨ c = 'E' then (exponent? tail).map fun e => ⟨whole, fraction, e⟩ else none

/-- The binary64 number nearest to `mantissa * 10 ^ exponent`, zero or infinity when it is out of
range by so much that no digit matters. -/
def nearest (mantissa : Nat) (exponent : Int) : Float :=
  let size : Int := (Nat.toDigits 10 mantissa).length
  if mantissa = 0 then 0
  else if 400 < size + exponent then Float.ofScientific 1 false 400
  else if size + exponent < -400 then 0
  else if exponent < 0 then Float.ofScientific mantissa true exponent.natAbs
  else Float.ofScientific mantissa false exponent.natAbs

def Parts.toFloat (p : Parts) : Float :=
  nearest (valueOf (p.whole ++ p.fraction)) (p.exponent - p.fraction.length)

/-- A binary64 number as people write it: an optional sign, then a decimal, `inf`, `infinity` or
`nan` in any case. -/
def float? (s : String) : Option Float :=
  let (negative, cs) := match s.toList with
    | '-' :: rest => (true, rest)
    | '+' :: rest => (false, rest)
    | cs => (false, cs)
  let magnitude : Option Float :=
    match Text.asciiLower (String.ofList cs) with
    | "inf" | "infinity" => some (1 / 0)
    | "nan" => some (0 / 0)
    | _ => (parts? cs).map Parts.toFloat
  magnitude.map fun x => if negative then -x else x

/-- `x * 10 ^ exponent`, rounded once per power of ten that is used: powers from 10⁻³⁰⁸ to 10³⁰⁸ are
applied in one step, and smaller ones after division by 10³⁰⁸. Nothing when the result is too
large. -/
def scale? : Nat → Float → Int → Option Float
  | 0, _, _ => some 0
  | steps + 1, x, exponent =>
    if exponent.natAbs ≤ 308 then
      let power := Float.ofScientific 1 false exponent.natAbs
      if exponent < 0 then some (x / power)
      else
        let y := x * power
        if y.isInf then none else some y
    else if x == 0 then some x
    else if 0 ≤ exponent then none
    else scale? steps (x / Float.ofScientific 1 false 308) (exponent + 308)

/-- Takes digits into a mantissa as long as it stays a 64-bit word. Answers the mantissa and how
many digits were taken. -/
def takeDigits (mantissa : Nat) : List Char → Nat × Nat
  | [] => (mantissa, 0)
  | c :: rest =>
    let next := 10 * mantissa + (digit? c).getD 0
    if wordMax < next then (mantissa, 0)
    else
      let (m, n) := takeDigits next rest
      (m, n + 1)

/-- The number that an unsigned decimal denotes in structured text. The leading digits that fit a
64-bit word are the mantissa; further digits before the point only shift it, and further digits
after the point are dropped. -/
def Parts.scaled? (p : Parts) : Option Float :=
  let (wholeMantissa, wholeTaken) := takeDigits 0 p.whole
  let dropped := p.whole.length - wholeTaken
  let (mantissa, fractionTaken) := takeDigits wholeMantissa p.fraction
  scale? 4 (UInt64.ofNat mantissa).toFloat (p.exponent + dropped - fractionTaken)

end AssetAtlas.Decimal

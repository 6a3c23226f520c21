import LoginService.Decimal.Binary64

/-!
# The shortest decimal that reads back

A floating point number stands for every real number that rounds to it. `shortest` finds the
decimal with the fewest digits in that interval, and of those the one nearest to the number. The
search looks at one decimal grid after the other, coarsest first: if a grid has a point in the
interval, then one of the number's two neighbours on that grid lies in it.

Two ways of writing the result are given: `scientific`, which switches to an exponent for very
large and very small numbers, and `positional`, which never does.
-/

namespace LoginService.Decimal

/-- A decimal `digits * 10 ^ exponent`. -/
structure Scaled where
  /-- The digits as a number. -/
  digits : Nat
  /-- The power of ten of the last digit. -/
  exponent : Int
  deriving DecidableEq, Repr

namespace Shortest

/-- The interval of reals that round to a number, as numerators over one denominator. -/
structure Interval where
  /-- The number itself. -/
  value : Nat
  /-- The lower end. -/
  low : Nat
  /-- The upper end. -/
  high : Nat
  /-- The common denominator. -/
  den : Nat
  /-- Whether the ends belong to the interval. -/
  closed : Bool

/-- The interval of a positive number. Below a power of two the gap to the next number is half
as wide, except at the least exponent. -/
def Interval.of (mantissa : Nat) (exponent : Int) : Interval :=
  let below := if mantissa = Binary64.leastNormal ∧ Binary64.minExponent < exponent then 1 else 2
  let e := exponent - 2
  let up := if 0 ≤ e then Nat.pow 2 e.toNat else 1
  { value := 4 * mantissa * up
    low := (4 * mantissa - below) * up
    high := (4 * mantissa + 2) * up
    den := if 0 ≤ e then 1 else Nat.pow 2 (-e).toNat
    closed := mantissa % 2 == 0 }

/-- How many zeros follow the point of `value / den` before the first digit, when the quotient is
below one. -/
def leadingZeros (value den : Nat) : Nat → Nat → Nat
  | 0, zeros => zeros
  | fuel + 1, zeros =>
    if den ≤ value * 10 then zeros else leadingZeros (value * 10) den fuel (zeros + 1)

/-- The power of ten just above the number: its count of digits before the point, or minus the
count of zeros after it. -/
def Interval.magnitude (i : Interval) : Int :=
  if i.den ≤ i.value then (Nat.toDigits 10 (i.value / i.den)).length
  else -(leadingZeros i.value i.den 400 0 : Int)

/-- The neighbour on the grid of step `10 ^ unit` that lies in the interval, the nearer one when
both do. -/
def Interval.onGrid (i : Interval) (unit : Int) : Option Scaled :=
  let num := if 0 ≤ unit then 1 else Nat.pow 10 (-unit).toNat
  let den := i.den * (if 0 ≤ unit then Nat.pow 10 unit.toNat else 1)
  let value := i.value * num
  let a := value / den
  let lowOk := if i.closed then i.low * num ≤ a * den else i.low * num < a * den
  let highOk := if i.closed then (a + 1) * den ≤ i.high * num else (a + 1) * den < i.high * num
  let upNearer :=
    let r := value % den
    if 2 * r < den then false else if den < 2 * r then true else a % 2 == 1
  if lowOk && highOk then some ⟨if upNearer then a + 1 else a, unit⟩
  else if lowOk then some ⟨a, unit⟩
  else if highOk then some ⟨a + 1, unit⟩
  else none

/-- Try grids from the one with `count` digits on. -/
def search (i : Interval) (magnitude : Int) : Nat → Nat → Scaled
  | 0, count => (i.onGrid (magnitude - count)).getD ⟨0, 0⟩
  | fuel + 1, count =>
    match i.onGrid (magnitude - count) with
    | some d => if d.digits = 0 then search i magnitude fuel (count + 1) else d
    | none => search i magnitude fuel (count + 1)

/-- Move trailing zeros of the digits into the exponent. -/
def stripZeros : Nat → Scaled → Scaled
  | 0, d => d
  | fuel + 1, d =>
    if d.digits ≠ 0 ∧ d.digits % 10 = 0 then stripZeros fuel ⟨d.digits / 10, d.exponent + 1⟩ else d

end Shortest

/-- The shortest decimal that rounds to `mantissa * 2 ^ exponent`, for a positive mantissa. -/
def shortest (mantissa : Nat) (exponent : Int) : Scaled :=
  let i := Shortest.Interval.of mantissa exponent
  Shortest.stripZeros 20 (Shortest.search i i.magnitude 17 1)

/-! ## Writing -/

/-- `n` zeros. -/
def zeros (n : Nat) : String := String.ofList (List.replicate n '0')

/-- Digits with the point after the first `n`; `n` is less than their count. -/
def withPoint (digits : String) (n : Nat) : String :=
  String.ofList (digits.toList.take n) ++ "." ++ String.ofList (digits.toList.drop n)

/-- A positive decimal without an exponent; a whole number gets `tail` at its end. -/
def positionalText (d : Scaled) (tail : String) : String :=
  let digits := toString d.digits
  let point : Int := digits.length + d.exponent
  if 0 ≤ d.exponent then digits ++ zeros d.exponent.toNat ++ tail
  else if 0 < point then withPoint digits point.toNat
  else "0." ++ zeros (-point).toNat ++ digits

/-- A positive decimal with one digit before the point and an exponent that shows its sign. -/
def exponentText (d : Scaled) : String :=
  let digits := toString d.digits
  let e : Int := digits.length + d.exponent - 1
  let mantissa := if digits.length = 1 then digits else withPoint digits 1
  mantissa ++ "e" ++ (if e < 0 then "-" else "+") ++ toString e.natAbs

/-- The text of a number: positional from `10 ^ -5` up to below `10 ^ 16`, where a whole number
ends in `.0`, and with an exponent elsewhere. -/
def scientific : Binary64 → String
  | .finite negative mantissa exponent =>
    let sign := if negative then "-" else ""
    if mantissa = 0 then sign ++ "0.0"
    else
      let d := shortest mantissa exponent
      let e : Int := (toString d.digits).length + d.exponent - 1
      sign ++ (if -5 ≤ e ∧ e ≤ 15 then positionalText d ".0" else exponentText d)
  | .infinite negative => if negative then "-inf" else "inf"
  | .nan => "NaN"

/-- The text of a number without an exponent; a whole number has no point. -/
def positional : Binary64 → String
  | .finite negative mantissa exponent =>
    let sign := if negative then "-" else ""
    if mantissa = 0 then sign ++ "0" else sign ++ positionalText (shortest mantissa exponent) ""
  | .infinite negative => if negative then "-inf" else "inf"
  | .nan => "NaN"

end LoginService.Decimal

import LoginService.Text.Ascii

/-!
# Binary floating point with 53 bits

Floating point numbers as exact data: a finite number is a sign, a mantissa below `2 ^ 53` and an
exponent of two that is at least `-1074`. Rounding works on quotients of natural numbers, so every
operation here is exact arithmetic followed by one rounding to the nearest representable value,
a tie going to the even mantissa.
-/

namespace LoginService.Decimal

/-- A floating point number. -/
inductive Binary64 where
  /-- The value `mantissa * 2 ^ exponent`, negated when `negative` is set. -/
  | finite (negative : Bool) (mantissa : Nat) (exponent : Int)
  /-- An infinity. -/
  | infinite (negative : Bool)
  /-- Not a number. -/
  | nan
  deriving DecidableEq, Repr

namespace Binary64

/-- The least exponent of a finite number. -/
def minExponent : Int := -1074

/-- The greatest exponent of a finite number. -/
def maxExponent : Int := 971

/-- Zero, with a sign. -/
def zero (negative : Bool) : Binary64 := .finite negative 0 minExponent

/-- Turn a number around. -/
def neg : Binary64 → Binary64
  | .finite n m e => .finite (!n) m e
  | .infinite n => .infinite (!n)
  | .nan => .nan

/-- The sign of a number. -/
def isNegative : Binary64 → Bool
  | .finite n _ _ => n
  | .infinite n => n
  | .nan => false

/-- Whether a number is infinite. -/
def isInfinite : Binary64 → Bool
  | .infinite _ => true
  | _ => false

/-- Whether a number is neither infinite nor undefined. -/
def isFinite : Binary64 → Bool
  | .finite .. => true
  | _ => false

/-- Whether a number is a zero of either sign. -/
def isZero : Binary64 → Bool
  | .finite _ m _ => m == 0
  | _ => false

/-! ## Rounding -/

/-- The first number above all mantissas, `2 ^ 53`. -/
def mantissaLimit : Nat := 9007199254740992

/-- The least mantissa of 53 bits, `2 ^ 52`. -/
def leastNormal : Nat := 4503599627370496

/-- The quotient of two natural numbers, rounded to the nearest natural number, a tie to even. -/
def divNearest (num den : Nat) : Nat :=
  let q := num / den
  let r := num % den
  if 2 * r < den then q
  else if den < 2 * r then q + 1
  else if q % 2 = 0 then q else q + 1

/-- Numerator and denominator of `num / (den * 2 ^ e)`. -/
def scaled (num den : Nat) (e : Int) : Nat × Nat :=
  if 0 ≤ e then (num, den * Nat.pow 2 e.toNat) else (num * Nat.pow 2 (-e).toNat, den)

/-- The number nearest to `num / den`, for a positive denominator. -/
def ofRatio (negative : Bool) (num den : Nat) : Binary64 :=
  if num = 0 then zero negative
  else
    let size : Int := (Nat.log2 num : Int) - (Nat.log2 den : Int)
    let guess := max (size - 53) minExponent
    let (n, d) := scaled num den guess
    let e := if mantissaLimit ≤ n / d then guess + 1 else guess
    let (n, d) := scaled num den e
    let m := divNearest n d
    let (m, e) := if m = mantissaLimit then (leastNormal, e + 1) else (m, e)
    if maxExponent < e then .infinite negative else .finite negative m e

/-- The number nearest to a natural number. -/
def ofNat (n : Nat) : Binary64 := ofRatio false n 1

/-- The number nearest to `coefficient * 10 ^ exponent`. Far outside the range the power of ten
is not formed: the result is an infinity or a zero. -/
def ofDecimal (negative : Bool) (coefficient : Nat) (exponent : Int) : Binary64 :=
  if coefficient = 0 then zero negative
  else
    let magnitude : Int := (Nat.toDigits 10 coefficient).length + exponent
    if 400 < magnitude then .infinite negative
    else if magnitude < -400 then zero negative
    else if 0 ≤ exponent then ofRatio negative (coefficient * Nat.pow 10 exponent.toNat) 1
    else ofRatio negative coefficient (Nat.pow 10 (-exponent).toNat)

/-! ## Products and quotients -/

/-- The product of two numbers, for finite factors. -/
def mul : Binary64 → Binary64 → Binary64
  | .finite n₁ m₁ e₁, .finite n₂ m₂ e₂ =>
    let (num, den) := scaled (m₁ * m₂) 1 (-(e₁ + e₂))
    ofRatio (n₁ != n₂) num den
  | .nan, _ => .nan
  | _, .nan => .nan
  | a, b => .infinite (a.isNegative != b.isNegative)

/-- The quotient of two finite numbers with a divisor other than zero. -/
def div : Binary64 → Binary64 → Binary64
  | .finite n₁ m₁ e₁, .finite n₂ m₂ e₂ =>
    if m₂ = 0 then .nan
    else
      let (num, den) := scaled m₁ m₂ (e₂ - e₁)
      ofRatio (n₁ != n₂) num den
  | _, _ => .nan

/-- The number nearest to a power of ten. -/
def powerOfTen (k : Nat) : Binary64 := ofRatio false (Nat.pow 10 k) 1

/-! ## Reading decimals -/

/-- The value of a list of decimal digits, most significant first, after `start`. -/
def digitsValue (start : Nat) (ds : List Char) : Nat :=
  ds.foldl (fun n c => n * 10 + (c.toNat - 48)) start

/-- Read an optional exponent (`e`, a sign, digits) that must end the text. -/
def exponentOf? : List Char → Option Int
  | [] => some 0
  | c :: rest =>
    if c = 'e' ∨ c = 'E' then
      let (negative, ds) := match rest with
        | '+' :: ds => (false, ds)
        | '-' :: ds => (true, ds)
        | ds => (false, ds)
      if ds.isEmpty || !ds.all Text.isDigit then none
      else
        let n : Int := digitsValue 0 ds
        some (if negative then -n else n)
    else none

/-- Read an unsigned decimal: digits with at most one point among them, at least one digit in
all, and an optional exponent. -/
def unsignedOf? (negative : Bool) (cs : List Char) : Option Binary64 :=
  let whole := cs.takeWhile Text.isDigit
  let rest := cs.dropWhile Text.isDigit
  let (fraction, rest) := match rest with
    | '.' :: r => (r.takeWhile Text.isDigit, r.dropWhile Text.isDigit)
    | r => ([], r)
  if whole.isEmpty && fraction.isEmpty then none
  else
    match exponentOf? rest with
    | none => none
    | some e =>
      some (ofDecimal negative (digitsValue (digitsValue 0 whole) fraction) (e - fraction.length))

/-- Read a decimal number: an optional sign, then a decimal or one of the words `inf`,
`infinity` and `nan` in any case. -/
def ofText? (s : String) : Option Binary64 :=
  let (negative, cs) := match s.toList with
    | '-' :: r => (true, r)
    | '+' :: r => (false, r)
    | r => (false, r)
  let word := String.ofList (cs.map Text.lowerChar)
  if word = "inf" ∨ word = "infinity" then some (.infinite negative)
  else if word = "nan" then some .nan
  else unsignedOf? negative cs

end Binary64

end LoginService.Decimal

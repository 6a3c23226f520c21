import LoginService.Json.Cursor

/-!
# JSON numbers

A number without fraction and exponent is whole when it fits 64 bits, signed or unsigned; every
other number, and the negative zero, is a floating point number.

A floating point number is made from at most as many leading digits as fit an unsigned 64-bit
integer. That integer is rounded once, and then scaled by a power of ten with one more rounding,
so the result may differ from the nearest number in the last place. A number too large for the
format is refused.
-/

namespace LoginService.Json

open Decimal

/-- A number of a document. -/
inductive Number where
  /-- A whole number between `-2 ^ 63` and `2 ^ 64 - 1`. -/
  | whole (i : Int)
  /-- Any other number. -/
  | float (x : Binary64)
  deriving DecidableEq, Repr

/-- What a number looks like in a message. -/
def Number.found : Number → Found
  | .whole i => .integer i
  | .float x => .float x

namespace Number

/-- The first number above the unsigned 64-bit integers. -/
def limit : Nat := 18446744073709551616

/-- The greatest exponent that can be written. -/
def exponentLimit : Nat := 2147483647

/-! ## Runs of digits -/

/-- Take digits into `significand` as long as it stays below the limit: the new significand, how
many digits were taken in all, and what is left. -/
def takeDigits (significand count : Nat) : List UInt8 → Nat × Nat × List UInt8
  | [] => (significand, count, [])
  | b :: rest =>
    if Byte.isDigit b then
      let next := significand * 10 + (b.toNat - 0x30)
      if next < limit then takeDigits next (count + 1) rest else (significand, count, b :: rest)
    else (significand, count, b :: rest)

/-- Step over digits: how many there are, and what is left. -/
def dropDigits (count : Nat) : List UInt8 → Nat × List UInt8
  | [] => (count, [])
  | b :: rest => if Byte.isDigit b then dropDigits (count + 1) rest else (count, b :: rest)

/-- What reading the digits of an exponent gives. -/
structure ExponentDigits where
  value : Nat
  /-- How many digits were read. -/
  count : Nat
  rest : List UInt8
  /-- Whether the last digit read took the exponent above what can be written. -/
  tooLarge : Bool

/-- Take the digits of an exponent, up to and including one that makes it too large. -/
def takeExponent (value count : Nat) : List UInt8 → ExponentDigits
  | [] => ⟨value, count, [], false⟩
  | b :: rest =>
    if Byte.isDigit b then
      let next := value * 10 + (b.toNat - 0x30)
      if exponentLimit < next then ⟨value, count + 1, rest, true⟩
      else takeExponent next (count + 1) rest
    else ⟨value, count, b :: rest, false⟩

/-- Whether the cursor looks at a digit. -/
def atDigit : List UInt8 → Bool
  | [] => false
  | b :: _ => Byte.isDigit b

/-! ## Scaling -/

/-- Scale a number by a power of ten. An exponent beyond the table of powers is taken off in
pieces of `308`, until nothing is left of the number or the rest fits. -/
def scale (x : Binary64) : Nat → Int → Option Binary64
  | 0, _ => some x
  | fuel + 1, exponent =>
    if exponent.natAbs ≤ 308 then
      if 0 ≤ exponent then
        let y := x.mul (Binary64.powerOfTen exponent.toNat)
        if y.isInfinite then none else some y
      else some (x.div (Binary64.powerOfTen exponent.natAbs))
    else if x.isZero then some x
    else if 0 ≤ exponent then none
    else scale (x.div (Binary64.powerOfTen 308)) fuel (exponent + 308)

/-- The number `significand * 10 ^ exponent`. A 64-bit integer divided four times by `10 ^ 308`
is zero, so four pieces are enough. -/
def ofParts (negative : Bool) (significand : Nat) (exponent : Int) (c : Cursor) : Read Number :=
  match scale (Binary64.ofNat significand) 5 exponent with
  | none => c.fail .numberOutOfRange
  | some x => .ok (.float (if negative then x.neg else x), c)

/-! ## Parts of a number -/

/-- An exponent, at its mark. -/
def readExponent (negative : Bool) (significand : Nat) (shift : Int) (c : Cursor) :
    Read Number :=
  let c := c.advance
  let (down, c) := match c.rest with
    | b :: _ =>
      if b = Byte.plus then (false, c.advance)
      else if b = Byte.minus then (true, c.advance)
      else (false, c)
    | [] => (false, c)
  match c.rest with
  | [] => c.fail .endInValue
  | b :: rest =>
    if Byte.isDigit b then
      let e := takeExponent (b.toNat - 0x30) 1 rest
      let c := c.past e.count e.rest
      if e.tooLarge then
        if significand ≠ 0 ∧ !down then c.fail .numberOutOfRange
        else
          let (count, rest) := dropDigits 0 c.rest
          .ok (.float (Binary64.zero negative), c.past count rest)
      else
        ofParts negative significand (if down then shift - e.value else shift + e.value) c
    else c.failAhead .badNumber

/-- What follows the last digit that counts: an exponent or nothing. -/
def readTail (negative : Bool) (significand : Nat) (shift : Int) (c : Cursor) : Read Number :=
  match c.rest with
  | b :: _ =>
    if Byte.isExponentMark b then readExponent negative significand shift c
    else ofParts negative significand shift c
  | [] => ofParts negative significand shift c

/-- A fraction, at its point. Digits beyond what the significand can hold are dropped. -/
def readFraction (negative : Bool) (significand : Nat) (shift : Int) (c : Cursor) :
    Read Number :=
  let c := c.advance
  let (significand, count, rest) := takeDigits significand 0 c.rest
  let c := c.past count rest
  if atDigit rest then
    let (more, rest) := dropDigits 0 rest
    readTail negative significand (shift - count) (c.past more rest)
  else if count = 0 then
    match rest with
    | [] => c.fail .endInValue
    | _ => c.failAhead .badNumber
  else readTail negative significand (shift - count) c

/-- What follows the digits before the point, all of which are in the significand. -/
def readAfterWhole (negative : Bool) (significand : Nat) (c : Cursor) : Read Number :=
  let whole : Read Number :=
    if !negative then .ok (.whole significand, c)
    else if significand = 0 ∨ 9223372036854775808 < significand then
      .ok (.float (Binary64.ofNat significand).neg, c)
    else .ok (.whole (-(significand : Int)), c)
  match c.rest with
  | b :: _ =>
    if b = Byte.point then readFraction negative significand 0 c
    else if Byte.isExponentMark b then readExponent negative significand 0 c
    else whole
  | [] => whole

/-- More digits before the point than the significand can hold: each one left out is worth a
power of ten. -/
def readLong (negative : Bool) (significand : Nat) (c : Cursor) : Read Number :=
  let (count, rest) := dropDigits 0 c.rest
  let c := c.past count rest
  match rest with
  | b :: _ =>
    if b = Byte.point then readFraction negative significand count c
    else if Byte.isExponentMark b then readExponent negative significand count c
    else ofParts negative significand count c
  | [] => ofParts negative significand count c

/-- A number after its sign. -/
def read (negative : Bool) (c : Cursor) : Read Number :=
  match c.rest with
  | [] => c.fail .endInValue
  | b :: rest =>
    if b = Byte.zero then
      let c := c.advance
      if atDigit c.rest then c.failAhead .badNumber else readAfterWhole negative 0 c
    else if Byte.isDigit b then
      let (significand, count, rest) := takeDigits (b.toNat - 0x30) 1 rest
      let c := c.past count rest
      if atDigit rest then readLong negative significand c
      else readAfterWhole negative significand c
    else c.failAhead .badNumber

end Number

end LoginService.Json

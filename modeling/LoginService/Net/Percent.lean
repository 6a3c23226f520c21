import LoginService.Text.Ascii
import LoginService.Text.Utf8

/-!
# Percent signs

In an address a percent sign with two hexadecimal digits stands for a byte. A percent sign without
them stands for itself. The query of an address is a list of names and values, in which a plus sign
stands for a space.
-/

namespace LoginService.Percent

open Text

/-- The value of a byte that is a hexadecimal digit. -/
def digit? (b : UInt8) : Option Nat :=
  hexDigit? (Char.ofNat b.toNat)

/-- The byte that a percent sign with two digits stands for. -/
def escaped? (sign high low : UInt8) : Option UInt8 :=
  if sign = 0x25 then do return UInt8.ofNat (16 * (← digit? high) + (← digit? low)) else none

/-- The bytes that some bytes stand for. -/
def decode : List UInt8 → List UInt8
  | a :: b :: c :: rest =>
    match escaped? a b c with
    | some byte => byte :: decode rest
    | none => a :: decode (b :: c :: rest)
  | bytes => bytes

/-- The text that a text stands for, if it is one. -/
def decodeText (cs : List Char) : Except Utf8.Fault String :=
  (Utf8.decode (decode (Utf8.encode cs))).map String.ofList

/-- A name or a value of a query; what is no text in it is replaced. -/
def decodeField (cs : List Char) : String :=
  let spaced := cs.map fun c => if c = '+' then ' ' else c
  String.ofList (Utf8.decodeLossy (decode (Utf8.encode spaced)))

/-- The names and values of a query. -/
def queryPairs (cs : List Char) : List (String × String) :=
  ((splitOnChar '&' cs).filter (fun piece => !piece.isEmpty)).map fun piece =>
    (decodeField (piece.takeWhile (· ≠ '=')), decodeField ((piece.dropWhile (· ≠ '=')).drop 1))

end LoginService.Percent

import LoginService.Text.Ascii

/-!
# Network addresses

Addresses of both families as they are read and shown. Four numbers between points make an address
of the old family; no number has a zero in front. Eight groups of hexadecimal digits between colons
make one of the new family; two colons stand for the groups of zeros that are left out, at least
one, and the last two groups may be written as an address of the old family.
-/

namespace LoginService

open Text

/-- A network address. -/
inductive IpAddress where
  | v4 (a b c d : UInt8)
  | v6 (groups : Vector UInt16 8)
  deriving DecidableEq, Repr

/-- A network address with a port. -/
structure SocketAddress where
  ip : IpAddress
  port : UInt16
  deriving DecidableEq, Repr

namespace IpAddress

/-! ## Reading -/

/-- One of four numbers. -/
def octet? (digits : List Char) : Option UInt8 :=
  if digits.isEmpty || 3 < digits.length || !digits.all isDigit then none
  else if digits.head? = some '0' && digits.length ≠ 1 then none
  else if decimalValue digits ≤ 255 then some (UInt8.ofNat (decimalValue digits))
  else none

/-- The four numbers of an address of the old family. -/
def octets? (cs : List Char) : Option (UInt8 × UInt8 × UInt8 × UInt8) :=
  match splitOnChar '.' cs with
  | [a, b, c, d] => do return (← octet? a, ← octet? b, ← octet? c, ← octet? d)
  | _ => none

/-- One of eight groups. -/
def group? (digits : List Char) : Option UInt16 :=
  if digits.isEmpty || 4 < digits.length then none
  else do
    let values ← digits.mapM hexDigit?
    return UInt16.ofNat (values.foldl (fun n d => 16 * n + d) 0)

/-- The groups at the end of an address: the last piece may be written as four numbers. -/
def lastGroups? : List (List Char) → Option (List UInt16)
  | [] => some []
  | [piece] =>
    match group? piece with
    | some g => some [g]
    | none =>
      (octets? piece).map fun (a, b, c, d) =>
        [a.toUInt16 * 256 + b.toUInt16, c.toUInt16 * 256 + d.toUInt16]
  | piece :: pieces => do return (← group? piece) :: (← lastGroups? pieces)

/-- The characters before and after the first two colons that follow each other. -/
def splitAtGap? : List Char → Option (List Char × List Char)
  | [] => none
  | ':' :: ':' :: rest => some ([], rest)
  | c :: rest => (splitAtGap? rest).map fun (before, after) => (c :: before, after)

/-- The pieces between colons; no characters have no pieces. -/
def pieces (cs : List Char) : List (List Char) :=
  if cs.isEmpty then [] else splitOnChar ':' cs

/-- The groups of an address of the new family. -/
def groups? (cs : List Char) : Option (List UInt16) :=
  match splitAtGap? cs with
  | none => lastGroups? (pieces cs)
  | some (before, after) => do
    let front ← (pieces before).mapM group?
    let back ← lastGroups? (pieces after)
    if 8 ≤ front.length + back.length then none
    else return front ++ List.replicate (8 - front.length - back.length) 0 ++ back

/-- The address of the old family that characters spell. -/
def parseV4? (cs : List Char) : Option IpAddress :=
  (octets? cs).map fun (a, b, c, d) => .v4 a b c d

/-- The address of the new family that characters spell. -/
def parseV6? (cs : List Char) : Option IpAddress :=
  (groups? cs).bind fun gs =>
    if h : gs.length = 8 then some (.v6 ⟨gs.toArray, by simp [h]⟩) else none

/-- The address that a string spells. -/
def parse? (s : String) : Option IpAddress :=
  match parseV4? s.toList with
  | some ip => some ip
  | none => parseV6? s.toList

/-! ## Showing -/

/-- A group in hexadecimal digits. -/
def shownGroup (g : UInt16) : String :=
  String.ofList (Nat.toDigits 16 g.toNat)

/-- Groups between colons. -/
def shownGroups (gs : List UInt16) : String :=
  joinWith ":" (gs.map shownGroup)

/-- How many zero groups follow each other from a place on. -/
def zerosFrom (gs : List UInt16) (i : Nat) : Nat :=
  ((gs.drop i).takeWhile (· == 0)).length

/-- Where the longest run of zero groups begins; of runs of one length the first. -/
def longestZeros (gs : List UInt16) : Nat :=
  (List.range gs.length).foldl
    (fun best i => if zerosFrom gs best < zerosFrom gs i then i else best) 0

/-- The text of an address of the new family: two colons stand for the longest run of zero groups,
if it has at least two. One that stands for an address of the old family ends with that. -/
def shownV6 (gs : List UInt16) : String :=
  match gs with
  | [0, 0, 0, 0, 0, 0xFFFF, x, y] =>
    s!"::ffff:{x.toNat / 256}.{x.toNat % 256}.{y.toNat / 256}.{y.toNat % 256}"
  | _ =>
    let start := longestZeros gs
    let count := zerosFrom gs start
    if 2 ≤ count then shownGroups (gs.take start) ++ "::" ++ shownGroups (gs.drop (start + count))
    else shownGroups gs

/-- The text of an address. -/
def shown : IpAddress → String
  | .v4 a b c d => s!"{a}.{b}.{c}.{d}"
  | .v6 groups => shownV6 groups.toList

end IpAddress

/-- The text of an address with a port. -/
def SocketAddress.shown (s : SocketAddress) : String :=
  match s.ip with
  | .v4 .. => s!"{s.ip.shown}:{s.port}"
  | .v6 _ => s!"[{s.ip.shown}]:{s.port}"

end LoginService

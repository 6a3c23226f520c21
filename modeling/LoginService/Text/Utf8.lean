/-!
# UTF-8

Reading text from bytes and writing it back. The reader is a machine that takes one byte at a
time: between characters it owes nothing, and inside a character it knows how many continuation
bytes are still to come and which range the next one must lie in. The ranges after `E0`, `ED`,
`F0` and `F4` are narrower, which rules out overlong forms, surrogates and code points above
`10FFFF`. Where the bytes are not UTF-8, `Fault` says how far they were and how long the broken
character is.
-/

namespace LoginService.Text.Utf8

/-! ## Writing -/

/-- The bytes of a text, given as its list of characters. -/
def encode (cs : List Char) : List UInt8 :=
  cs.flatMap String.utf8EncodeChar

/-- The bytes of a string. -/
def bytesOf (s : String) : List UInt8 :=
  s.toUTF8.toList

/-! ## Reading -/

/-- Where and how bytes fail to be UTF-8. -/
structure Fault where
  /-- How many leading bytes are valid text. -/
  validUpTo : Nat
  /-- How many bytes the broken character takes, or nothing when the bytes end inside it. -/
  badLength : Option Nat
  deriving DecidableEq, Repr

/-- A character whose first bytes have been read. -/
structure Pending where
  /-- Continuation bytes still to come, the next one included. -/
  owed : Nat
  /-- The least value the next byte may have. -/
  low : UInt8
  /-- The greatest value the next byte may have. -/
  high : UInt8
  /-- The bits of the code point read so far. -/
  code : Nat
  deriving DecidableEq, Repr

/-- What a byte between characters begins. -/
inductive Lead where
  /-- A character of one byte. -/
  | whole (c : Char)
  /-- A longer character. -/
  | opens (p : Pending)
  /-- Nothing: no character starts with this byte. -/
  | stray
  deriving Repr

/-- Classify the first byte of a character. -/
def Lead.of (b : UInt8) : Lead :=
  if b < 0x80 then .whole (Char.ofNat b.toNat)
  else if b < 0xC2 then .stray
  else if b < 0xE0 then .opens ⟨1, 0x80, 0xBF, b.toNat - 0xC0⟩
  else if b = 0xE0 then .opens ⟨2, 0xA0, 0xBF, 0⟩
  else if b = 0xED then .opens ⟨2, 0x80, 0x9F, 0xD⟩
  else if b < 0xF0 then .opens ⟨2, 0x80, 0xBF, b.toNat - 0xE0⟩
  else if b = 0xF0 then .opens ⟨3, 0x90, 0xBF, 0⟩
  else if b < 0xF4 then .opens ⟨3, 0x80, 0xBF, b.toNat - 0xF0⟩
  else if b = 0xF4 then .opens ⟨3, 0x80, 0x8F, 4⟩
  else .stray

/-- Run the machine from `pos` bytes in; the character being read began at `start`, and `acc`
holds the finished characters, newest first. -/
def decodeFrom (start pos : Nat) (pending : Option Pending) (acc : List Char) :
    List UInt8 → Except Fault (List Char)
  | [] =>
    match pending with
    | none => .ok acc.reverse
    | some _ => .error ⟨start, none⟩
  | b :: rest =>
    match pending with
    | none =>
      match Lead.of b with
      | .whole c => decodeFrom (pos + 1) (pos + 1) none (c :: acc) rest
      | .opens p => decodeFrom pos (pos + 1) (some p) acc rest
      | .stray => .error ⟨pos, some 1⟩
    | some p =>
      if p.low ≤ b ∧ b ≤ p.high then
        let code := p.code * 64 + (b.toNat - 0x80)
        if p.owed ≤ 1 then
          decodeFrom (pos + 1) (pos + 1) none (Char.ofNat code :: acc) rest
        else
          decodeFrom start (pos + 1) (some ⟨p.owed - 1, 0x80, 0xBF, code⟩) acc rest
      else .error ⟨start, some (pos - start)⟩

/-- The characters that some bytes spell. -/
def decode (bytes : List UInt8) : Except Fault (List Char) :=
  decodeFrom 0 0 none [] bytes

/-- How many leading bytes are valid text. -/
def validLength (bytes : List UInt8) : Nat :=
  match decode bytes with
  | .ok _ => bytes.length
  | .error fault => fault.validUpTo

/-- The string that some bytes spell, if they are UTF-8. -/
def decode? (bytes : List UInt8) : Option String :=
  match decode bytes with
  | .ok cs => some (String.ofList cs)
  | .error _ => none

/-- The characters that some bytes spell, with a replacement character for each broken one. The fuel
bounds how many characters are broken. -/
def decodeLossyFrom : Nat → List UInt8 → List Char
  | 0, _ => []
  | fuel + 1, bytes =>
    match decode bytes with
    | .ok cs => cs
    | .error fault =>
      let valid := (decode (bytes.take fault.validUpTo)).toOption.getD []
      let rest :=
        match fault.badLength with
        | some n => decodeLossyFrom fuel (bytes.drop (fault.validUpTo + n))
        | none => []
      valid ++ '\uFFFD' :: rest

/-- The characters that some bytes spell, with a replacement character for each broken one. -/
def decodeLossy (bytes : List UInt8) : List Char :=
  decodeLossyFrom (bytes.length + 1) bytes

/-- The wording of a fault. -/
def Fault.message (f : Fault) : String :=
  match f.badLength with
  | some n => s!"invalid utf-8 sequence of {n} bytes from index {f.validUpTo}"
  | none => s!"incomplete utf-8 byte sequence from index {f.validUpTo}"

end LoginService.Text.Utf8

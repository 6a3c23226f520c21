import LoginService.Json.Cursor
import LoginService.Text.Utf8

/-!
# JSON strings

A string is read by a machine that takes one byte at a time and collects the bytes it stands for;
whether they are UTF-8 is decided at the closing quote, for the string as a whole. An escape always
contributes whole characters, and a pair of surrogate escapes contributes one character.
-/

namespace LoginService.Json

/-- Where the machine stands between two bytes of a string. -/
inductive TextState where
  /-- Among plain bytes. -/
  | plain
  /-- After a backslash. -/
  | escape
  /-- Inside the four digits of an escape: the first half of the pair it completes, the digits
  read, and their value unless one was no digit. -/
  | hex (first : Option Nat) (count : Nat) (value : Option Nat)
  /-- After the first half of a surrogate pair. -/
  | half (first : Nat)
  /-- After the first half of a surrogate pair and a backslash. -/
  | halfEscape (first : Nat)
  deriving DecidableEq, Repr

/-- The byte that a short escape stands for. -/
def shortEscape? (b : UInt8) : Option UInt8 :=
  if b = Byte.quote ∨ b = Byte.backslash ∨ b = Byte.slash then some b
  else if b = 0x62 then some 0x08
  else if b = 0x66 then some 0x0C
  else if b = 0x6E then some 0x0A
  else if b = 0x72 then some 0x0D
  else if b = 0x74 then some 0x09
  else none

/-- What one byte does to the machine. -/
inductive TextStep where
  /-- Go on in a state, after putting bytes in front of the collected ones. -/
  | next (state : TextState) (newest : List UInt8)
  /-- The string ends. -/
  | close
  /-- The string is refused. -/
  | stop (cause : Cause)

/-- The effect of the fourth digit of an escape. -/
def completeHex (first : Option Nat) (value : Nat) : TextStep :=
  match first with
  | none =>
    if 0xDC00 ≤ value ∧ value ≤ 0xDFFF then .stop .loneSurrogate
    else if 0xD800 ≤ value ∧ value ≤ 0xDBFF then .next (.half value) []
    else .next .plain (String.utf8EncodeChar (Char.ofNat value)).reverse
  | some high =>
    if 0xDC00 ≤ value ∧ value ≤ 0xDFFF then
      let code := (high - 0xD800) * 0x400 + (value - 0xDC00) + 0x10000
      .next .plain (String.utf8EncodeChar (Char.ofNat code)).reverse
    else .stop .loneSurrogate

theorem completeHex_single {v : Nat} (h : v < 0xD800 ∨ 0xDFFF < v) :
    completeHex none v = .next .plain (String.utf8EncodeChar (Char.ofNat v)).reverse := by
  simp only [completeHex]
  rw [if_neg (by omega), if_neg (by omega)]

/-- The effect of one byte. -/
def TextState.step (s : TextState) (b : UInt8) : TextStep :=
  match s with
  | .plain =>
    if b = Byte.quote then .close
    else if b = Byte.backslash then .next .escape []
    else if b < 0x20 then .stop .controlCharacter
    else .next .plain [b]
  | .escape =>
    if b = 0x75 then .next (.hex none 0 (some 0)) []
    else
      match shortEscape? b with
      | some e => .next .plain [e]
      | none => .stop .badEscape
  | .hex first count value =>
    let value := match value, Byte.hexDigit? b with
      | some v, some d => some (v * 16 + d)
      | _, _ => none
    if count < 3 then .next (.hex first (count + 1) value) []
    else
      match value with
      | some v => completeHex first v
      | none => .stop .badEscape
  | .half first =>
    if b = Byte.backslash then .next (.halfEscape first) [] else .stop .unpairedSurrogate
  | .halfEscape first =>
    if b = 0x75 then .next (.hex (some first) 0 (some 0)) [] else .stop .unpairedSurrogate

theorem step_plain {b : UInt8} (hq : b ≠ Byte.quote) (hb : b ≠ Byte.backslash) (hc : ¬ b < 0x20) :
    TextState.plain.step b = .next .plain [b] := by
  simp only [TextState.step]
  rw [if_neg hq, if_neg hb, if_neg hc]

/-- Run the machine; `acc` holds the collected bytes, newest first. -/
def readTextFrom (s : TextState) (acc : List UInt8) :
    List UInt8 → Nat → Nat → Read (List UInt8)
  | [], line, column => (Cursor.mk [] line column).fail .endInText
  | b :: rest, line, column =>
    let line' := if b = Byte.lineFeed then line + 1 else line
    let column' := if b = Byte.lineFeed then 0 else column + 1
    match s.step b with
    | .next s' newest => readTextFrom s' (newest ++ acc) rest line' column'
    | .close => .ok (acc.reverse, ⟨rest, line', column'⟩)
    | .stop cause => (Cursor.mk rest line' column').fail cause

theorem readTextFrom_next {s s' : TextState} {newest : List UInt8} {b : UInt8}
    (h : s.step b = .next s' newest) (acc rest : List UInt8) (line column : Nat) :
    ∃ line' column', readTextFrom s acc (b :: rest) line column =
      readTextFrom s' (newest ++ acc) rest line' column' := by
  rw [readTextFrom]
  simp only [h]
  exact ⟨_, _, rfl⟩

/-- A string, after its opening quote. Its bytes must be UTF-8 once the escapes are resolved. Since
an escape is made of whole characters, the first broken character begins at the same place whether
or not they are, and that place is the position of the error. -/
def readText (c : Cursor) : Read String :=
  match readTextFrom .plain [] c.rest c.line c.column with
  | .error e => .error e
  | .ok (bytes, after) =>
    match Text.Utf8.decode? bytes with
    | some s => .ok (s, after)
    | none => (c.past (Text.Utf8.validLength c.rest + 1) after.rest).fail .badUtf8

/-! ## Stepping over a string -/

/-- Step over a string whose value is not wanted. Escapes must be well formed, but surrogates need
not pair up and the bytes need not be UTF-8. A control character is refused where it stands. -/
def skipTextFrom (s : TextState) : List UInt8 → Nat → Nat → Read Unit
  | [], line, column => (Cursor.mk [] line column).fail .endInText
  | b :: rest, line, column =>
    let line' := if b = Byte.lineFeed then line + 1 else line
    let column' := if b = Byte.lineFeed then 0 else column + 1
    let after := Cursor.mk rest line' column'
    match s with
    | .escape =>
      if b = 0x75 then skipTextFrom (.hex none 0 (some 0)) rest line' column'
      else if (shortEscape? b).isSome then skipTextFrom .plain rest line' column'
      else after.fail .badEscape
    | .hex first count value =>
      let value := if (Byte.hexDigit? b).isSome then value else none
      if count < 3 then skipTextFrom (.hex first (count + 1) value) rest line' column'
      else if value.isSome then skipTextFrom .plain rest line' column'
      else after.fail .badEscape
    | _ =>
      if b = Byte.quote then .ok ((), after)
      else if b = Byte.backslash then skipTextFrom .escape rest line' column'
      else if b < 0x20 then (Cursor.mk (b :: rest) line column).fail .controlCharacter
      else skipTextFrom .plain rest line' column'

/-- Step over a string, after its opening quote. -/
def skipText (c : Cursor) : Read Unit :=
  skipTextFrom .plain c.rest c.line c.column

end LoginService.Json

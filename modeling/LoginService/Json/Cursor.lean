import LoginService.Json.Error

/-!
# Reading position

A cursor is what is left of a document together with the position of its first byte. Readers take
a cursor and give a value with the cursor after it, or an error. An error is placed either at the
cursor or, when it concerns the byte the cursor looks at, just after that byte.
-/

namespace LoginService.Json

/-! ## Bytes with a meaning -/

namespace Byte

def lineFeed : UInt8 := 0x0A
def quote : UInt8 := 0x22
def plus : UInt8 := 0x2B
def comma : UInt8 := 0x2C
def minus : UInt8 := 0x2D
def point : UInt8 := 0x2E
def slash : UInt8 := 0x2F
def zero : UInt8 := 0x30
def colon : UInt8 := 0x3A
def openBracket : UInt8 := 0x5B
def backslash : UInt8 := 0x5C
def closeBracket : UInt8 := 0x5D
def openBrace : UInt8 := 0x7B
def closeBrace : UInt8 := 0x7D

/-- Whether a byte is a space, a tab, a line feed or a carriage return. -/
def isBlank (b : UInt8) : Bool := b == 0x20 || b == 0x09 || b == 0x0A || b == 0x0D

/-- Whether a byte is a decimal digit. -/
def isDigit (b : UInt8) : Bool := 0x30 ≤ b && b ≤ 0x39

/-- Whether a byte is the letter `e` in either case. -/
def isExponentMark (b : UInt8) : Bool := b == 0x65 || b == 0x45

/-- The value of a hexadecimal digit. -/
def hexDigit? (b : UInt8) : Option Nat :=
  if isDigit b then some (b.toNat - 0x30)
  else if 0x61 ≤ b ∧ b ≤ 0x66 then some (b.toNat - 0x57)
  else if 0x41 ≤ b ∧ b ≤ 0x46 then some (b.toNat - 0x37)
  else none

end Byte

/-! ## Cursors -/

/-- The unread part of a document and where it begins. -/
structure Cursor where
  rest : List UInt8
  line : Nat
  column : Nat
  deriving DecidableEq, Repr

/-- What reading a value gives. -/
abbrev Read (α : Type) := Except Error (α × Cursor)

namespace Cursor

/-- The cursor before a whole document. -/
def start (bytes : List UInt8) : Cursor := ⟨bytes, 1, 0⟩

/-- The position of the cursor. -/
def here (c : Cursor) : Position := ⟨c.line, c.column⟩

/-- Step over one byte; a line feed begins a new line. -/
def advance (c : Cursor) : Cursor :=
  match c.rest with
  | [] => c
  | b :: rest => if b = Byte.lineFeed then ⟨rest, c.line + 1, 0⟩ else ⟨rest, c.line, c.column + 1⟩

/-- Refuse at the cursor. -/
def fail {α : Type} (c : Cursor) (cause : Cause) : Except Error α :=
  .error ⟨cause, some c.here⟩

/-- Refuse because of the byte the cursor looks at: the position is the one after it. -/
def failAhead {α : Type} (c : Cursor) (cause : Cause) : Except Error α :=
  c.advance.fail cause

/-- Step over blanks. -/
def skipBlanksFrom : List UInt8 → Nat → Nat → Cursor
  | [], line, column => ⟨[], line, column⟩
  | b :: rest, line, column =>
    if b = Byte.lineFeed then skipBlanksFrom rest (line + 1) 0
    else if Byte.isBlank b then skipBlanksFrom rest line (column + 1)
    else ⟨b :: rest, line, column⟩

/-- The cursor at the next byte that is not blank. -/
def skipBlanks (c : Cursor) : Cursor := skipBlanksFrom c.rest c.line c.column

/-- Step over `count` bytes that hold no line feed, leaving `rest`. -/
def past (c : Cursor) (count : Nat) (rest : List UInt8) : Cursor :=
  ⟨rest, c.line, c.column + count⟩

/-- Step over the bytes of a word. -/
def word (c : Cursor) : List UInt8 → Read Unit
  | [] => .ok ((), c)
  | wanted :: more =>
    match c.rest with
    | [] => c.fail .endInValue
    | b :: _ => if b = wanted then c.advance.word more else c.failAhead .wantsWord

end Cursor

end LoginService.Json

import LoginService.Json.Value

/-!
# The grammar of JSON texts

Which texts spell which values, said without the reader: a relation for each kind of token, and
from them `Spells`, the texts of the values that are nested at most so deep. Blanks belong to no
value; they are put around values by `Padded`.

The digits of a number are described by `IsUnsigned`. Which number they stand for depends on how
numbers are rounded, so `Numeral` leaves it to `Number.read`, which has to read the digits as that
number wherever they stand.
-/

namespace LoginService.Json

/-- A relation between texts and what they spell. -/
abbrev Spelling (α : Type) := List UInt8 → α → Prop

/-! ## Blanks and commas -/

/-- Bytes that may stand between two tokens. -/
def Blank (ws : List UInt8) : Prop := ∀ b ∈ ws, Byte.isBlank b = true

section
variable {α : Type}

/-- A text with blanks around it. -/
def Padded (R : Spelling α) : Spelling α := fun bytes a =>
  ∃ before text after, Blank before ∧ R text a ∧ Blank after ∧ bytes = before ++ text ++ after

/-- Texts with commas between them. -/
inductive Separated (R : Spelling α) : Spelling (List α)
  | one {text : List UInt8} {a : α} : R text a → Separated R text [a]
  | more {text rest : List UInt8} {a : α} {as : List α} :
      R text a → Separated R rest as → Separated R (text ++ Byte.comma :: rest) (a :: as)

/-- What stands between the brackets of a container: blanks, or texts with commas between them. -/
def Listed (R : Spelling α) : Spelling (List α) := fun bytes as =>
  (as = [] ∧ Blank bytes) ∨ Separated R bytes as

end

/-! ## Strings -/

/-- Four hexadecimal digits and the number that they spell. -/
inductive Hex4 : Spelling Nat
  | mk {a b c d : UInt8} {w x y z : Nat} :
      Byte.hexDigit? a = some w → Byte.hexDigit? b = some x → Byte.hexDigit? c = some y →
      Byte.hexDigit? d = some z → Hex4 [a, b, c, d] (((w * 16 + x) * 16 + y) * 16 + z)

/-- The character of a surrogate pair. -/
def pairChar (high low : Nat) : Char :=
  Char.ofNat ((high - 0xD800) * 0x400 + (low - 0xDC00) + 0x10000)

/-- A piece of a string and the bytes that it stands for: a plain byte or an escape. -/
inductive Piece : Spelling (List UInt8)
  | plain {b : UInt8} : b ≠ Byte.quote → b ≠ Byte.backslash → ¬ b < 0x20 → Piece [b] [b]
  | short {e b : UInt8} : shortEscape? e = some b → Piece [Byte.backslash, e] [b]
  | unicode {ds : List UInt8} {v : Nat} : Hex4 ds v → v < 0xD800 ∨ 0xDFFF < v →
      Piece (Byte.backslash :: 0x75 :: ds) (String.utf8EncodeChar (Char.ofNat v))
  | pair {ds es : List UInt8} {high low : Nat} :
      Hex4 ds high → 0xD800 ≤ high → high ≤ 0xDBFF → Hex4 es low → 0xDC00 ≤ low → low ≤ 0xDFFF →
      Piece (Byte.backslash :: 0x75 :: (ds ++ Byte.backslash :: 0x75 :: es))
        (String.utf8EncodeChar (pairChar high low))

/-- The pieces between the quotes of a string. -/
inductive Pieces : Spelling (List UInt8)
  | nil : Pieces [] []
  | cons {text rest bytes more : List UInt8} :
      Piece text bytes → Pieces rest more → Pieces (text ++ rest) (bytes ++ more)

/-- A string without its quotes. What the pieces stand for has to be UTF-8 as a whole. -/
def Inside : Spelling String := fun text s =>
  ∃ bytes, Pieces text bytes ∧ Text.Utf8.decode? bytes = some s

/-- A string between quotes. -/
def Quoted : Spelling String := fun text s =>
  ∃ inside, Inside inside s ∧ text = Byte.quote :: (inside ++ [Byte.quote])

/-! ## Numbers -/

/-- Digits, at least one. -/
def Digits (ds : List UInt8) : Prop := ds ≠ [] ∧ ∀ b ∈ ds, Byte.isDigit b = true

/-- The digits before the point, without a leading zero. -/
def IsWhole (ds : List UInt8) : Prop := Digits ds ∧ (ds.head? = some Byte.zero → ds = [Byte.zero])

/-- A fraction, which may be missing. -/
def IsFraction (text : List UInt8) : Prop := text = [] ∨ ∃ ds, Digits ds ∧ text = Byte.point :: ds

/-- An exponent, which may be missing. -/
def IsExponent (text : List UInt8) : Prop :=
  text = [] ∨ ∃ mark sign ds, Byte.isExponentMark mark = true ∧
    (sign = [] ∨ sign = [Byte.plus] ∨ sign = [Byte.minus]) ∧ Digits ds ∧ text = mark :: (sign ++ ds)

/-- A number without sign. -/
def IsUnsigned (text : List UInt8) : Prop :=
  ∃ whole fraction exponent, IsWhole whole ∧ IsFraction fraction ∧ IsExponent exponent ∧
    text = whole ++ (fraction ++ exponent)

/-- Whether a byte could go on a number. -/
def extendsNumber (b : UInt8) : Bool :=
  Byte.isDigit b || b == Byte.point || Byte.isExponentMark b

/-- A text that does not go on a number. -/
def Stops (rest : List UInt8) : Prop := ∀ b, rest.head? = some b → extendsNumber b = false

/-- A reader takes a text, and nothing else, off every document that it begins and that does not
go on a number after it. -/
def Consumes {α : Type} (read : Cursor → Read α) : Spelling α := fun text a =>
  ∀ c rest, c.rest = text ++ rest → Stops rest → ∃ c', read c = .ok (a, c') ∧ c'.rest = rest

/-- A number. -/
inductive Numeral : Spelling Number
  | positive {text : List UInt8} {n : Number} :
      IsUnsigned text → Consumes (Number.read false) text n → Numeral text n
  | negative {text : List UInt8} {n : Number} :
      IsUnsigned text → Consumes (Number.read true) text n → Numeral (Byte.minus :: text) n

/-! ## Values -/

/-- A value that is no container. -/
inductive Scalar : Spelling Value
  | null : Scalar (0x6E :: nullTail) .null
  | truth : Scalar (0x74 :: trueTail) (.bool true)
  | falsity : Scalar (0x66 :: falseTail) (.bool false)
  | number {text : List UInt8} {n : Number} : Numeral text n → Scalar text (.number n)
  | text {text : List UInt8} {s : String} : Quoted text s → Scalar text (.text s)

/-- A key, a colon and a value. -/
def Member (R : Spelling Value) : Spelling (String × Value) := fun bytes m =>
  ∃ key value, Padded Quoted key m.1 ∧ Padded R value m.2 ∧ bytes = key ++ Byte.colon :: value

/-- A container of values that `R` describes. -/
inductive Container (R : Spelling Value) : Spelling Value
  | list {body : List UInt8} {items : List Value} : Listed (Padded R) body items →
      Container R (Byte.openBracket :: (body ++ [Byte.closeBracket])) (.list items)
  | object {body : List UInt8} {members : List (String × Value)} : Listed (Member R) body members →
      Container R (Byte.openBrace :: (body ++ [Byte.closeBrace])) (.object members)

/-- A value with at most `depth` containers around any part of it. -/
def Spells : Nat → Spelling Value
  | 0 => Scalar
  | depth + 1 => fun text v => Scalar text v ∨ Container (Spells depth) text v

/-- A document: a value among blanks, its containers nested no deeper than allowed. -/
def Document : Spelling Value := Padded (Spells maxDepth)

end LoginService.Json

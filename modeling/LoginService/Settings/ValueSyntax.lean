import LoginService.Json.Record
import LoginService.Settings.Tree
import LoginService.Text.Ascii

/-!
# Values in environment variables

A variable holds a truth value, a number, a text, a list in brackets or a dictionary in braces. Text
may stand without quotes as long as it holds no bracket, brace or comma. What cannot be read in this
way is, as a whole, a text.
-/

namespace LoginService.Settings

open Text

/-! ## Texts in quotes -/

/-- What one letter after a backslash stands for. -/
def shortEscape? : Char → Option Char
  | '"' => some '"'
  | '\\' => some '\\'
  | 'b' => some '\x08'
  | 'f' => some '\x0c'
  | 'n' => some '\n'
  | 'r' => some '\r'
  | 't' => some '\t'
  | _ => none

/-- The character that hexadecimal digits give the code point of. -/
def charOfHex? (digits : List Char) : Option Char :=
  match digits.foldlM (fun n d => (hexDigit? d).map (n * 16 + ·)) 0 with
  | some n =>
    if n < 0xD800 ∨ (0xDFFF < n ∧ n ≤ 0x10FFFF) then some (Char.ofNat n) else none
  | none => none

/-- Whether a character may stand between quotes as it is. -/
def isQuotable (c : Char) : Bool := c == '\t' || (0x20 ≤ c.toNat && c.toNat != 0x7F)

/-- A text between quotes with its escapes resolved. -/
def unescape? : List Char → Option (List Char)
  | [] => some []
  | '\\' :: 'u' :: a :: b :: c :: d :: rest => do
    return (← charOfHex? [a, b, c, d]) :: (← unescape? rest)
  | '\\' :: 'U' :: a :: b :: c :: d :: e :: f :: g :: h :: rest => do
    return (← charOfHex? [a, b, c, d, e, f, g, h]) :: (← unescape? rest)
  | '\\' :: letter :: rest => do
    return (← shortEscape? letter) :: (← unescape? rest)
  | c :: rest => if isQuotable c && c != '\\' then (unescape? rest).map (c :: ·) else none

/-- The characters up to the quote that ends a text, and those after it. -/
def splitQuoted? : List Char → Option (List Char × List Char)
  | [] => none
  | '"' :: rest => some ([], rest)
  | '\\' :: c :: rest => (splitQuoted? rest).map fun (inner, after) => ('\\' :: c :: inner, after)
  | c :: rest => (splitQuoted? rest).map fun (inner, after) => (c :: inner, after)

/-- A text after its opening quote. -/
def readQuoted? (cs : List Char) : Option (String × List Char) := do
  let (inner, rest) ← splitQuoted? cs
  return (String.ofList (← unescape? inner), rest)

/-! ## Scalars without quotes -/

/-- Whether a character ends a text without quotes. -/
def endsBare (c : Char) : Bool := c == ',' || c == '\x7b' || c == '\x7d' || c == '[' || c == ']'

/-- The value of one or more decimal digits. -/
def decimalValue? (cs : List Char) : Option Nat :=
  if !cs.isEmpty && cs.all isDigit then some (decimalValue cs) else none

/-- A whole number without a minus sign, of at most 64 bits. -/
def bareUnsigned? (cs : List Char) : Option Nat :=
  let digits := if cs.head? = some '+' then cs.drop 1 else cs
  match decimalValue? digits with
  | some n => if Json.IntRange.u64.holds n then some n else none
  | none => none

/-- A whole number with a minus sign, of at most 64 bits. -/
def bareSigned? : List Char → Option Int
  | '-' :: digits =>
    match decimalValue? digits with
    | some n => if Json.IntRange.i64.holds (-(n : Int)) then some (-(n : Int)) else none
    | none => none
  | _ => none

/-- A number with a point. -/
def bareFloat? (cs : List Char) : Option Decimal.Binary64 :=
  if cs.contains '.' then Decimal.Binary64.ofText? (String.ofList cs) else none

/-- What a text without quotes means. -/
def Scalar.ofBare (cs : List Char) : Scalar :=
  match bareFloat? cs with
  | some x => .float x
  | none =>
    match bareUnsigned? cs with
    | some n => .unsigned n
    | none =>
      match bareSigned? cs with
      | some i => .signed i
      | none => .text (String.ofList cs)

/-! ## Values -/

/-- What is left after the blanks at the start. -/
def skipBlanks (cs : List Char) : List Char := cs.dropWhile isAsciiBlank

/-- Whether a character may stand in a key without quotes. -/
def isKeyChar (c : Char) : Bool := isAsciiAlphanumeric c || c == '_' || c == '-'

/-- A key of a dictionary. -/
def readKey? : List Char → Option (String × List Char)
  | '"' :: rest => readQuoted? rest
  | cs =>
    let key := cs.takeWhile isKeyChar
    if key.isEmpty then none else some (String.ofList key, cs.dropWhile isKeyChar)

/-- Items with commas between them, and perhaps one after the last, up to a closing sign. The fuel
bounds their number. -/
def readDelimited? {α : Type} (item : List Char → Option (α × List Char)) (close : Char) :
    Nat → List Char → Option (List α × List Char)
  | 0, _ => none
  | fuel + 1, cs =>
    if cs.head? = some close then some ([], cs.drop 1)
    else
      match item cs with
      | none => none
      | some (a, rest) =>
        if rest.head? = some ',' then
          (readDelimited? item close fuel (rest.drop 1)).map fun (items, rest) => (a :: items, rest)
        else if rest.head? = some close then some ([a], rest.drop 1)
        else none

/-- A key, a sign and a value. -/
def readKeyValue? (value : List Char → Option (Tree × List Char)) (cs : List Char) :
    Option ((String × Tree) × List Char) := do
  let (key, rest) ← readKey? (skipBlanks cs)
  match skipBlanks rest with
  | '=' :: rest =>
    let (v, rest) ← value (skipBlanks rest)
    return ((key, v), skipBlanks rest)
  | _ => none

/-- A scalar as a tree. -/
def bareTree (s : Scalar) : Tree := .scalar .environment s

/-- A value, between blanks that are stepped over. The fuel bounds how deep values are nested. -/
def readValue? : Nat → List Char → Option (Tree × List Char)
  | 0, _ => none
  | fuel + 1, cs =>
    let read : Option (Tree × List Char) :=
      match skipBlanks cs with
      | 't' :: 'r' :: 'u' :: 'e' :: rest => some (bareTree (.bool true), rest)
      | 'f' :: 'a' :: 'l' :: 's' :: 'e' :: rest => some (bareTree (.bool false), rest)
      | '[' :: rest =>
        (readDelimited? (readValue? fuel) ']' (rest.length + 1) rest).map fun (items, rest) =>
          (.list .environment items, rest)
      | '\x7b' :: rest =>
        (readDelimited? (readKeyValue? (readValue? fuel)) '\x7d' (rest.length + 1) rest).map
          fun (members, rest) => (.dict .environment (Members.ofList members), rest)
      | '"' :: rest => (readQuoted? rest).map fun (s, rest) => (bareTree (.text s), rest)
      | '\'' :: c :: '\'' :: rest => some (bareTree (.text (String.singleton c)), rest)
      | '\'' :: _ => none
      | cs =>
        let bare := cs.takeWhile (fun c => !endsBare c)
        some (bareTree (.ofBare (trimChars bare)), cs.drop bare.length)
    read.map fun (t, rest) => (t, skipBlanks rest)

/-- What the text of a variable means. -/
def Tree.ofVariable (s : String) : Tree :=
  match readValue? (s.toList.length + 1) s.toList with
  | some (t, []) => t
  | _ => bareTree (.text s)

end LoginService.Settings

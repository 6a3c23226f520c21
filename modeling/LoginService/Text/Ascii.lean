/-!
# ASCII letter case and blanks

Case folding that touches only the 26 ASCII letters, the set of blank characters, and trimming.
Folding keeps every other character, so two names that differ in a non-ASCII letter stay different.
-/

namespace LoginService.Text

/-- The lower-case form of a character, for ASCII letters only. -/
def lowerChar (c : Char) : Char :=
  if 'A' ≤ c ∧ c ≤ 'Z' then Char.ofNat (c.toNat + 32) else c

/-- The upper-case form of a character, for ASCII letters only. -/
def upperChar (c : Char) : Char :=
  if 'a' ≤ c ∧ c ≤ 'z' then Char.ofNat (c.toNat - 32) else c

/-- A text with its ASCII letters in lower case. -/
def lower (s : String) : String :=
  String.ofList (s.toList.map lowerChar)

/-- A text with its ASCII letters in upper case. -/
def upper (s : String) : String :=
  String.ofList (s.toList.map upperChar)

/-- Whether two texts are equal up to the case of ASCII letters. -/
def sameIgnoringCase (a b : String) : Bool :=
  a.toList.map lowerChar == b.toList.map lowerChar

/-- Whether a character is blank: the ASCII blanks with the vertical tab, the next-line control,
and the spaces and separators of other scripts. -/
def isBlank (c : Char) : Bool :=
  let n := c.toNat
  (9 ≤ n && n ≤ 13) || n == 0x20 || n == 0x85 || n == 0xA0 || n == 0x1680 ||
    (0x2000 ≤ n && n ≤ 0x200A) || n == 0x2028 || n == 0x2029 || n == 0x202F || n == 0x205F ||
    n == 0x3000

/-- Whether a character is a blank of ASCII; the vertical tab is none. -/
def isAsciiBlank (c : Char) : Bool :=
  c == ' ' || c == '\t' || c == '\n' || c == '\x0c' || c == '\r'

/-- Whether a character is a decimal digit. -/
def isDigit (c : Char) : Bool :=
  '0' ≤ c && c ≤ '9'

/-- Whether a character is an ASCII letter or digit. -/
def isAsciiAlphanumeric (c : Char) : Bool :=
  isDigit c || ('a' ≤ c && c ≤ 'z') || ('A' ≤ c && c ≤ 'Z')

/-- The value of a hexadecimal digit. -/
def hexDigit? (c : Char) : Option Nat :=
  if isDigit c then some (c.toNat - 48)
  else if 'a' ≤ c ∧ c ≤ 'f' then some (c.toNat - 87)
  else if 'A' ≤ c ∧ c ≤ 'F' then some (c.toNat - 55)
  else none

/-- The number that decimal digits spell. -/
def decimalValue (digits : List Char) : Nat :=
  digits.foldl (fun n c => 10 * n + (c.toNat - 48)) 0

/-- A list of characters without the blanks at its two ends. -/
def trimChars (cs : List Char) : List Char :=
  ((cs.dropWhile isBlank).reverse.dropWhile isBlank).reverse

/-- A text without the blanks at its two ends. -/
def trim (s : String) : String :=
  String.ofList (trimChars s.toList)

/-- The pieces of a list of characters between the occurrences of one character. -/
def splitOnChar (sep : Char) : List Char → List (List Char)
  | [] => [[]]
  | c :: rest =>
    if c = sep then [] :: splitOnChar sep rest
    else
      match splitOnChar sep rest with
      | [] => [[c]]
      | piece :: pieces => (c :: piece) :: pieces

/-- Texts with a separator between each two. -/
def joinWith (sep : String) : List String → String
  | [] => ""
  | [s] => s
  | s :: rest => s ++ sep ++ joinWith sep rest

end LoginService.Text

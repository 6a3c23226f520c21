import LoginService.Text.Printable

/-!
# Quoted text

How a text is shown inside a message: between double quotes, with a backslash before quotes and
backslashes, short escapes for tab, line feed, carriage return and NUL, and `\u{…}` with the
hexadecimal code point for every other character that is invisible or extends the one before it.
-/

namespace LoginService.Text

/-- The characters that stand for one character of a quoted text. -/
def quotedChar (c : Char) : List Char :=
  if c = '"' then ['\\', '"']
  else if c = '\\' then ['\\', '\\']
  else if c = '\n' then ['\\', 'n']
  else if c = '\r' then ['\\', 'r']
  else if c = '\t' then ['\\', 't']
  else if c = '\x00' then ['\\', '0']
  else if isVisible c && !isExtending c then [c]
  else ['\\', 'u', '\x7b'] ++ Nat.toDigits 16 c.toNat ++ ['\x7d']

/-- A text between quotes, with escapes. -/
def quoted (s : String) : String :=
  "\"" ++ String.ofList (s.toList.flatMap quotedChar) ++ "\""

end LoginService.Text

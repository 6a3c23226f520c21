import LoginService.Text.Quoted

/-!
# Writing JSON

The compact form: no blanks, members in the given order, and in strings an escape exactly for
quotes, backslashes and control characters.
-/

namespace LoginService.Json

/-- The hexadecimal digit of a number below sixteen. -/
def hexChar (n : Nat) : Char :=
  Nat.digitChar n

/-- The characters that stand for one character of a string. -/
def escapeChar (c : Char) : List Char :=
  if c = '"' then ['\\', '"']
  else if c = '\\' then ['\\', '\\']
  else if c = '\n' then ['\\', 'n']
  else if c = '\r' then ['\\', 'r']
  else if c = '\t' then ['\\', 't']
  else if c = '\x08' then ['\\', 'b']
  else if c = '\x0c' then ['\\', 'f']
  else if c.toNat < 0x20 then
    ['\\', 'u', '0', '0', hexChar (c.toNat / 16), hexChar (c.toNat % 16)]
  else [c]

/-- A string between quotes. -/
def printString (s : String) : List Char :=
  '"' :: s.toList.flatMap escapeChar ++ ['"']

/-- A whole number. -/
def printInt (i : Int) : List Char :=
  (toString i).toList

/-- A truth value. -/
def printBool (b : Bool) : List Char :=
  if b then ['t', 'r', 'u', 'e'] else ['f', 'a', 'l', 's', 'e']

/-- The members of an object, each a key and the text of its value, with commas between them. -/
def printMembers : List (String × List Char) → List Char
  | [] => []
  | [(key, value)] => printString key ++ ':' :: value
  | (key, value) :: rest => printString key ++ ':' :: value ++ ',' :: printMembers rest

/-- An object of members whose values are already written. -/
def printObject (members : List (String × List Char)) : List Char :=
  '\x7b' :: printMembers members ++ ['\x7d']

/-- The items of a list, each already written, with commas between them. -/
def printItems : List (List Char) → List Char
  | [] => []
  | [item] => item
  | item :: rest => item ++ ',' :: printItems rest

/-- A list of items that are already written. -/
def printList (items : List (List Char)) : List Char :=
  '[' :: printItems items ++ [']']

end LoginService.Json

import LoginService.Text.Ascii
import LoginService.Yaml.Cursor

/-!
# Anchors, tags and directives

An anchor names a node, a tag names its type, and a directive says how tags are abbreviated. A tag
is a handle and a suffix; a handle stands for the beginning of a name.
-/

namespace LoginService.Yaml

/-- The name of an anchor or an alias, after its sign. -/
def readAnchor? (c : Cursor) : Option (String × Cursor) :=
  let (name, after) := c.takeWhile isNameChar
  let ended := endsWord after.rest ||
    after.rest.head?.any fun d => "?:,]\x7d%@`".toList.contains d
  if name.isEmpty || !ended then none else some (String.ofList name, after)

/-! ## Tags -/

/-- Whether a character may stand in a tag. Those of bracketed collections may only if the tag is
written between angle brackets. -/
def isTagChar (verbatim : Bool) (c : Char) : Bool :=
  isNameChar c || ";/?:@&=+$.%!~*'()".toList.contains c || (verbatim && ",[]".toList.contains c)

/-- How many bytes a character takes that begins with this one. -/
def byteCount? (lead : Nat) : Option Nat :=
  if lead < 0x80 then some 1
  else if 0xC0 ≤ lead ∧ lead < 0xE0 then some 2
  else if 0xE0 ≤ lead ∧ lead < 0xF0 then some 3
  else if 0xF0 ≤ lead ∧ lead < 0xF8 then some 4
  else none

/-- A byte written as a percent sign and two hexadecimal digits. -/
def escapedByte? : List Char → Option (Nat × List Char)
  | '%' :: a :: b :: rest =>
    match Text.hexDigit? a, Text.hexDigit? b with
    | some x, some y => some (16 * x + y, rest)
    | _, _ => none
  | _ => none

/-- The bytes after the first one of an escaped character, added to its code. -/
def escapedTail? : Nat → Nat → List Char → Option (Nat × List Char)
  | 0, code, rest => some (code, rest)
  | n + 1, code, rest =>
    match escapedByte? rest with
    | some (byte, rest) =>
      if 0x80 ≤ byte ∧ byte < 0xC0 then escapedTail? n (code * 64 + (byte - 0x80)) rest else none
    | none => none

/-- The code in the first byte of a character. -/
def leadCode (lead count : Nat) : Nat :=
  if count = 1 then lead else lead % Nat.pow 2 (7 - count)

/-- An escaped character. -/
def escapedChar? (cs : List Char) : Option (Char × List Char) := do
  let (lead, rest) ← escapedByte? cs
  let count ← byteCount? lead
  let (code, rest) ← escapedTail? (count - 1) (leadCode lead count) rest
  return (Char.ofNat code, rest)

/-- The characters of a tag, with escapes resolved. The fuel bounds their number. -/
def readTagCharsFrom (verbatim : Bool) : Nat → List Char → Cursor → Option (List Char × Cursor)
  | 0, acc, c => some (acc.reverse, c)
  | fuel + 1, acc, c =>
    match c.rest with
    | '%' :: _ =>
      match escapedChar? c.rest with
      | some (ch, rest) =>
        readTagCharsFrom verbatim fuel (ch :: acc) (c.past (c.rest.length - rest.length) rest)
      | none => none
    | ch :: _ =>
      if isTagChar verbatim ch then readTagCharsFrom verbatim fuel (ch :: acc) c.skip
      else some (acc.reverse, c)
    | [] => some (acc.reverse, c)

/-- The characters of a tag, with escapes resolved. -/
def readTagChars (verbatim : Bool) (c : Cursor) : Option (List Char × Cursor) :=
  readTagCharsFrom verbatim (c.rest.length + 1) [] c

/-- A handle: an exclamation mark, a name and perhaps a second mark. -/
def readHandle? (c : Cursor) : Option (List Char × Cursor) :=
  if !c.looksAt '!' then none
  else
    let (name, after) := c.skip.takeWhile isNameChar
    if after.looksAt '!' then some ('!' :: name ++ ['!'], after.skip) else some ('!' :: name, after)

/-- A tag as it is written. -/
structure TagText where
  handle : String
  suffix : String
  deriving DecidableEq, Repr

/-- A tag that is not between angle brackets. -/
def readShortTag? (c : Cursor) : Option (TagText × Cursor) := do
  let (handle, c) ← readHandle? c
  if 1 < handle.length && handle.getLast? == some '!' then
    let (suffix, c) ← readTagChars false c
    if suffix.isEmpty then none
    else return (⟨String.ofList handle, String.ofList suffix⟩, c)
  else
    let (more, c) ← readTagChars false c
    let suffix := handle.drop 1 ++ more
    if suffix.isEmpty then return (⟨"", "!"⟩, c)
    else return (⟨"!", String.ofList suffix⟩, c)

/-- A tag between angle brackets, at its exclamation mark. -/
def readVerbatimTag? (c : Cursor) : Option (TagText × Cursor) := do
  let (suffix, c) ← readTagChars true c.skip.skip
  if suffix.isEmpty || !c.looksAt '>' then none
  else return (⟨"", String.ofList suffix⟩, c.skip)

/-- A tag, at its exclamation mark. -/
def readTag? (inFlow : Bool) (c : Cursor) : Option (TagText × Cursor) := do
  let (tag, c) ← if c.skip.looksAt '<' then readVerbatimTag? c else readShortTag? c
  if endsWord c.rest || (inFlow && c.looksAt ',') then return (tag, c) else none

/-! ## Directives -/

/-- A directive. -/
inductive Directive where
  /-- The version of the format. -/
  | version (major minor : Nat)
  /-- What a handle stands for. -/
  | handle (name start : String)
  deriving DecidableEq, Repr

/-- A number of at most nine digits. -/
def readVersionNumber? (c : Cursor) : Option (Nat × Cursor) :=
  let (digits, after) := c.takeWhile Text.isDigit
  if digits.isEmpty || 9 < digits.length then none
  else some (digits.foldl (fun n d => n * 10 + (d.toNat - 48)) 0, after)

/-- The two numbers of a version. -/
def readVersion? (c : Cursor) : Option (Directive × Cursor) := do
  let (major, c) ← readVersionNumber? c
  if !c.looksAt '.' then none
  let (minor, c) ← readVersionNumber? c.skip
  return (.version major minor, c)

/-- A handle and what it stands for. -/
def readHandleMeaning? (c : Cursor) : Option (Directive × Cursor) := do
  let (handle, c) ← readHandle? c
  if handle ≠ ['!'] ∧ (handle.length < 2 ∨ handle.getLast? ≠ some '!') then none
  if !c.rest.head?.any isBlank then none
  let (start, c) ← readTagChars true c.skipBlanks
  if start.isEmpty || !endsWord c.rest then none
  return (.handle (String.ofList handle) (String.ofList start), c)

/-- A directive, after its percent sign, and the rest of its line. -/
def readDirective? (c : Cursor) : Option (Directive × Cursor) := do
  let (name, c) := c.takeWhile isNameChar
  if name.isEmpty || !endsWord c.rest then none
  let c := c.skipBlanks
  let (directive, c) ←
    if name = ['Y', 'A', 'M', 'L'] then readVersion? c
    else if name = ['T', 'A', 'G'] then readHandleMeaning? c
    else none
  let c := c.skipBlanks.skipComment
  if endsLine c.rest then return (directive, c.skipBreak) else none

end LoginService.Yaml

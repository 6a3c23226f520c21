import LoginService.Json.Number
import LoginService.Json.Text

/-!
# JSON values and their reader

A value is kept as it was written: the members of an object stand in text order, repeated keys
included. Containers may be nested 127 deep.

The loops over the items of a list and the members of an object are bounded by `fuel`. Each turn
reads at least one byte, so the length of the document is always enough, and whoever reads a
document passes one more than that.

How an object is read is left open: there are readers that keep its members as they stand, and
others that make something of them.
-/

namespace LoginService.Json

/-- A JSON value. -/
inductive Value where
  | null
  | bool (b : Bool)
  | number (n : Number)
  | text (s : String)
  | list (items : List Value)
  | object (members : List (String × Value))
  deriving Repr

/-- What a value looks like in a message. -/
def Value.found : Value → Found
  | .null => .null
  | .bool b => .bool b
  | .number n => n.found
  | .text s => .text s
  | .list _ => .sequence
  | .object _ => .map

/-- How deep containers may be nested. -/
def maxDepth : Nat := 127

/-- The items of a list and its closing bracket, after the opening one. -/
def readItems (item : Cursor → Read Value) :
    Nat → Bool → List Value → Cursor → Read (List Value)
  | 0, _, _, c => c.fail .endInList
  | fuel + 1, first, acc, c =>
    let c := c.skipBlanks
    match c.rest with
    | [] => c.fail .endInList
    | b :: _ =>
      if b = Byte.closeBracket then .ok (acc.reverse, c.advance)
      else if first then
        match item c with
        | .error e => .error e
        | .ok (v, c) => readItems item fuel false (v :: acc) c
      else if b = Byte.comma then
        let c := c.advance.skipBlanks
        match c.rest with
        | [] => c.fail .endInValue
        | b :: _ =>
          if b = Byte.closeBracket then c.failAhead .trailingComma
          else
            match item c with
            | .error e => .error e
            | .ok (v, c) => readItems item fuel false (v :: acc) c
      else c.failAhead .wantsCommaOrBracket

/-- Where the next key of an object begins, after its opening quote, or nothing at the closing
brace, which is left unread. -/
def nextKey (first : Bool) (c : Cursor) : Read Bool :=
  let c := c.skipBlanks
  match c.rest with
  | [] => c.fail .endInObject
  | b :: _ =>
    if b = Byte.closeBrace then .ok (false, c)
    else if first then
      if b = Byte.quote then .ok (true, c.advance) else c.failAhead .keyNotText
    else if b = Byte.comma then
      let c := c.advance.skipBlanks
      match c.rest with
      | [] => c.fail .endInValue
      | b :: _ =>
        if b = Byte.quote then .ok (true, c.advance)
        else if b = Byte.closeBrace then c.failAhead .trailingComma
        else c.failAhead .keyNotText
    else c.failAhead .wantsCommaOrBrace

/-- Step over the colon between a key and its value. -/
def readColon (c : Cursor) : Read Unit :=
  let c := c.skipBlanks
  match c.rest with
  | [] => c.fail .endInObject
  | b :: _ => if b = Byte.colon then .ok ((), c.advance) else c.failAhead .wantsColon

/-- The members of an object and its closing brace, after the opening one. -/
def readMembers (item : Cursor → Read Value) :
    Nat → Bool → List (String × Value) → Cursor → Read (List (String × Value))
  | 0, _, _, c => c.fail .endInObject
  | fuel + 1, first, acc, c =>
    match nextKey first c with
    | .error e => .error e
    | .ok (false, c) => .ok (acc.reverse, c.advance)
    | .ok (true, c) =>
      match readText c with
      | .error e => .error e
      | .ok (key, c) =>
        match readColon c with
        | .error e => .error e
        | .ok ((), c) =>
          match item c with
          | .error e => .error e
          | .ok (v, c) => readMembers item fuel false ((key, v) :: acc) c

/-- The letters of `null` after the first. -/
def nullTail : List UInt8 := [0x75, 0x6C, 0x6C]

/-- The letters of `true` after the first. -/
def trueTail : List UInt8 := [0x72, 0x75, 0x65]

/-- The letters of `false` after the first. -/
def falseTail : List UInt8 := [0x61, 0x6C, 0x73, 0x65]

/-- Apply a function to what was read. -/
def Read.map {α β : Type} (f : α → β) : Read α → Read β
  | .error e => .error e
  | .ok (a, c) => .ok (f a, c)

/-- A value that is no container, if one begins with this byte. The cursor looks at the byte. -/
def readScalar? (b : UInt8) (c : Cursor) : Option (Read Value) :=
  if b = 0x6E then some (Read.map (fun _ => .null) (c.advance.word nullTail))
  else if b = 0x74 then some (Read.map (fun _ => .bool true) (c.advance.word trueTail))
  else if b = 0x66 then some (Read.map (fun _ => .bool false) (c.advance.word falseTail))
  else if b = Byte.minus then some (Read.map .number (Number.read true c.advance))
  else if Byte.isDigit b then some (Read.map .number (Number.read false c))
  else if b = Byte.quote then some (Read.map .text (readText c.advance))
  else none

/-- How an object is read after its opening brace, given how the values in it are read. -/
abbrev ObjectReader := (Cursor → Read Value) → Cursor → Read Value

/-- An object with its members as they stand. -/
def readObject (fuel : Nat) : ObjectReader := fun item c =>
  Read.map .object (readMembers item fuel true [] c)

/-- A value with at most `depth` containers around any part of it. -/
def readValue (object : ObjectReader) (fuel : Nat) : Nat → Cursor → Read Value
  | depth, c =>
    let c := c.skipBlanks
    match c.rest with
    | [] => c.fail .endInValue
    | b :: _ =>
      match readScalar? b c with
      | some r => r
      | none =>
        if b = Byte.openBracket then
          match depth with
          | 0 => c.failAhead .tooDeep
          | depth + 1 =>
            Read.map .list (readItems (readValue object fuel depth) fuel true [] c.advance)
        else if b = Byte.openBrace then
          match depth with
          | 0 => c.failAhead .tooDeep
          | depth + 1 => object (readValue object fuel depth) c.advance
        else c.failAhead .wantsValue

/-- Refuse anything but blanks after a value. -/
def finish {α : Type} (a : α) (c : Cursor) : Except Error α :=
  let c := c.skipBlanks
  match c.rest with
  | [] => .ok a
  | _ => c.failAhead .trailingCharacters

/-- A reader applied to a whole document. -/
def readWhole {α : Type} (read : Cursor → Read α) (bytes : List UInt8) : Except Error α :=
  match read (Cursor.start bytes) with
  | .error e => .error e
  | .ok (a, c) => finish a c

end LoginService.Json

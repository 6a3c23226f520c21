import LoginService.Json.Record
import LoginService.Text.Utf8

/-!
# Documents embedded in documents

An object may stand for the value of another document. It has a single member then, under a key set
aside for this, which holds the text of that document. The text is read as soon as it has been
taken, so what is wrong with it comes before whatever is wrong behind it, and is placed in the
embedded document. If the key is not the first of an object, it is a key like any other.

An embedded document may hold others. As a string is shorter than the document it stands in, the
length of the document bounds how often this may go on.
-/

namespace LoginService.Json

/-- The key under which an object holds another document. -/
def embeddingKey : String := "$serde_json::private::RawValue"

/-- The first key of an object, and the cursor after it. -/
def firstKey? (c : Cursor) : Option (String × Cursor) :=
  match nextKey true c with
  | .ok (true, c) => (readText c).toOption
  | _ => none

/-- The closing brace of an object that is to have no further members. -/
def endObject (c : Cursor) : Read Unit :=
  let c := c.skipBlanks
  match c.rest with
  | [] => c.fail .endInObject
  | b :: _ =>
    if b = Byte.closeBrace then .ok ((), c.advance)
    else c.failAhead (if b = Byte.comma then .trailingComma else .trailingCharacters)

/-- The value of the document that an object holds, after its key. -/
def readEmbedded (parse : List UInt8 → Except Error Value) (c : Cursor) : Read Value :=
  match readColon c with
  | .error e => .error e
  | .ok ((), c) =>
    match readStringAs "raw value" c with
    | .error e => .error e
    | .ok (s, c) =>
      match parse (Text.Utf8.encode s.toList) with
      | .error e => .error ⟨.embedded e.cause, e.position⟩
      | .ok v => Read.map (fun _ => v) (endObject c)

/-- An object with its members as they stand, or the value of the document that it holds. -/
def resolveObject (parse : List UInt8 → Except Error Value) (fuel : Nat) : ObjectReader :=
  fun item c =>
    match firstKey? c with
    | some (key, c') =>
      if key = embeddingKey then readEmbedded parse c' else readObject fuel item c
    | none => readObject fuel item c

/-- The value that a document stands for, with documents embedded less than `turns` deep. -/
def Value.parseWithin : Nat → List UInt8 → Except Error Value
  | 0, bytes => (Cursor.start bytes).fail .endInValue
  | turns + 1, bytes =>
    readWhole
      (readValue (resolveObject (Value.parseWithin turns) (bytes.length + 1)) (bytes.length + 1)
        maxDepth)
      bytes

/-- The value that a document stands for. -/
def Value.parse (bytes : List UInt8) : Except Error Value :=
  Value.parseWithin (bytes.length + 1) bytes

end LoginService.Json

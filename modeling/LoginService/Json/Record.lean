import LoginService.Json.Skip

/-!
# Reading records straight from text

A record is written as an object, whose members may come in any order and among others, or as a
list of its fields in the order of declaration. It is read in one pass: the first thing that is
wrong, in text order, is the error.

While a record is read, its fields are collected in a state `σ` in which each may still be absent.
A field says how to read its value into that state, and a record says what is made of the state
in the end.
-/

namespace LoginService.Json

/-! ## Values of a wanted type -/

/-- Refuse the value at the cursor because something else is expected. A value that is itself
wrong is refused for that; the position is just after a scalar and before a container. -/
def refuseType {α : Type} (expected : String) (c : Cursor) : Except Error α :=
  match c.rest with
  | [] => c.failAhead .wantsValue
  | b :: _ =>
    match readScalar? b c with
    | some (.error e) => .error e
    | some (.ok (v, c)) => c.fail (.wrongType v.found expected)
    | none =>
      if b = Byte.openBracket then c.fail (.wrongType .sequence expected)
      else if b = Byte.openBrace then c.fail (.wrongType .map expected)
      else c.failAhead .wantsValue

/-- Look at the first byte of a value. -/
def atValue {α : Type} (c : Cursor) (read : UInt8 → Cursor → Read α) : Read α :=
  let c := c.skipBlanks
  match c.rest with
  | [] => c.fail .endInValue
  | b :: _ => read b c

/-- A string, which a message calls `expected`. -/
def readStringAs (expected : String) (c : Cursor) : Read String :=
  atValue c fun b c => if b = Byte.quote then readText c.advance else refuseType expected c

/-- A truth value. -/
def readBool (c : Cursor) : Read Bool :=
  atValue c fun b c =>
    if b = 0x74 then Read.map (fun _ => true) (c.advance.word trueTail)
    else if b = 0x66 then Read.map (fun _ => false) (c.advance.word falseTail)
    else refuseType "a boolean" c

/-- A range of whole numbers with a name. -/
structure IntRange where
  name : String
  least : Int
  greatest : Int

namespace IntRange

def i64 : IntRange := ⟨"i64", -9223372036854775808, 9223372036854775807⟩
def u16 : IntRange := ⟨"u16", 0, 65535⟩
def u32 : IntRange := ⟨"u32", 0, 4294967295⟩
def u64 : IntRange := ⟨"u64", 0, 18446744073709551615⟩

/-- Whether a range holds a number. -/
def holds (r : IntRange) (i : Int) : Bool := r.least ≤ i && i ≤ r.greatest

end IntRange

/-- A number that must be whole and in a range. -/
def readInt (range : IntRange) (c : Cursor) : Read Int :=
  atValue c fun b c =>
    let number := if b = Byte.minus then some (Number.read true c.advance)
      else if Byte.isDigit b then some (Number.read false c)
      else none
    match number with
    | none => refuseType range.name c
    | some (.error e) => .error e
    | some (.ok (.whole i, c)) =>
      if range.holds i then .ok (i, c) else c.fail (.wrongValue (.integer i) range.name)
    | some (.ok (.float x, c)) => c.fail (.wrongType (.float x) range.name)

/-! ## Records -/

/-- A field of a record whose fields are collected in `σ`. -/
structure Field (σ : Type) where
  name : String
  /-- Whether the field has been read. -/
  isSet : σ → Bool
  /-- Read the value of the field into the state; the fuel bounds the length of the document. -/
  read : Nat → Cursor → Read (σ → σ)

/-- A record. -/
structure Record (σ α : Type) where
  name : String
  /-- The fields in the order of declaration. -/
  fields : List (Field σ)
  /-- The state with every field absent. -/
  empty : σ
  /-- The record, or the name of the first field that is missing. -/
  build : σ → Except String α
  /-- Whether fields at the end of a list may be left out. -/
  optional : Bool

namespace Field

/-- A field that holds text. -/
def text {σ : Type} (name : String) (get : σ → Option String) (put : String → σ → σ) : Field σ :=
  ⟨name, fun s => (get s).isSome, fun _ c => Read.map put (readStringAs "a string" c)⟩

/-- A field that holds a whole number. -/
def int {σ : Type} (name : String) (range : IntRange) (get : σ → Option Int)
    (put : Int → σ → σ) : Field σ :=
  ⟨name, fun s => (get s).isSome, fun _ c => Read.map put (readInt range c)⟩

/-- A field that holds a truth value. -/
def bool {σ : Type} (name : String) (get : σ → Option Bool) (put : Bool → σ → σ) : Field σ :=
  ⟨name, fun s => (get s).isSome, fun _ c => Read.map put (readBool c)⟩

end Field

namespace Record

variable {σ α : Type}

/-- How a record describes itself. -/
def title (r : Record σ α) : String := "struct " ++ r.name

/-- How a record describes its length as a list. -/
def lengthTitle (r : Record σ α) : String :=
  let noun := if r.fields.length = 1 then "element" else "elements"
  s!"{r.title} with {r.fields.length} {noun}"

/-- Make the record of a complete state; a missing field is refused at the cursor. -/
def buildAt (r : Record σ α) (s : σ) (c : Cursor) : Read α :=
  match r.build s with
  | .ok a => .ok (a, c)
  | .error name => c.fail (.missingField name)

/-- The end of a list all of whose wanted items have been read. -/
def endList (r : Record σ α) (s : σ) (c : Cursor) : Read α :=
  let c := c.skipBlanks
  match c.rest with
  | [] => c.fail .endInList
  | b :: _ =>
    if b = Byte.closeBracket then r.buildAt s c.advance
    else if b = Byte.comma then
      let c := c.advance.skipBlanks
      match c.rest with
      | [] => c.failAhead .trailingCharacters
      | b :: _ =>
        c.failAhead (if b = Byte.closeBracket then .trailingComma else .trailingCharacters)
    else c.failAhead .trailingCharacters

/-- The fields of a record in order, as the items of a list after its opening bracket. -/
def readList (r : Record σ α) (fuel : Nat) : List (Field σ) → Nat → σ → Cursor → Read α
  | [], _, s, c => r.endList s c
  | field :: fields, count, s, c =>
    let c := c.skipBlanks
    match c.rest with
    | [] => c.fail .endInList
    | b :: _ =>
      if b = Byte.closeBracket then
        if r.optional then r.buildAt s c.advance
        else c.advance.fail (.wrongLength count r.lengthTitle)
      else if count ≠ 0 ∧ b ≠ Byte.comma then c.failAhead .wantsCommaOrBracket
      else
        let c := if count = 0 then c else c.advance.skipBlanks
        match c.rest with
        | [] => c.fail .endInValue
        | b :: _ =>
          if b = Byte.closeBracket then c.failAhead .trailingComma
          else
            match field.read fuel c with
            | .error e => .error e
            | .ok (put, c) => readList r fuel fields (count + 1) (put s) c

/-- Refuse a repeated key. The position is after the key, blanks and a closing brace. -/
def refuseRepeated (name : String) (c : Cursor) : Except Error α :=
  let c := c.skipBlanks
  match c.rest with
  | b :: _ => (if b = Byte.closeBrace then c.advance else c).fail (.duplicateField name)
  | [] => c.fail (.duplicateField name)

/-- The members of an object, after its opening brace; `turns` bounds their number. -/
def readMap (r : Record σ α) (fuel : Nat) : Nat → Bool → σ → Cursor → Read α
  | 0, _, _, c => c.fail .endInObject
  | turns + 1, first, s, c =>
    match nextKey first c with
    | .error e => .error e
    | .ok (false, c) => r.buildAt s c.advance
    | .ok (true, c) =>
      match readText c with
      | .error e => .error e
      | .ok (key, c) =>
        match r.fields.find? (fun f => f.name == key) with
        | none =>
          match readColon c with
          | .error e => .error e
          | .ok ((), c) =>
            match skipValue fuel c with
            | .error e => .error e
            | .ok ((), c) => readMap r fuel turns false s c
        | some field =>
          if field.isSet s then refuseRepeated key c
          else
            match readColon c with
            | .error e => .error e
            | .ok ((), c) =>
              match field.read fuel c with
              | .error e => .error e
              | .ok (put, c) => readMap r fuel turns false (put s) c

/-- A record. -/
def read (r : Record σ α) (fuel : Nat) (c : Cursor) : Read α :=
  atValue c fun b c =>
    if b = Byte.openBracket then r.readList fuel r.fields 0 r.empty c.advance
    else if b = Byte.openBrace then r.readMap fuel fuel true r.empty c.advance
    else refuseType r.title c

/-- The record that a document spells. -/
def parse (r : Record σ α) (bytes : List UInt8) : Except Error α :=
  readWhole (r.read (bytes.length + 1)) bytes

/-- A record as a field of another. -/
def field {τ : Type} (r : Record σ α) (name : String) (get : τ → Option α)
    (put : α → τ → τ) : Field τ :=
  ⟨name, fun t => (get t).isSome, fun fuel c => Read.map put (r.read fuel c)⟩

end Record

end LoginService.Json

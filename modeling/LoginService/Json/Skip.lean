import LoginService.Json.Value

/-!
# Stepping over a value

The value of a key that nobody asked for is stepped over without being built. Nesting is then
unlimited, since the open containers are kept in a list, and what is checked is only what is
needed to find the end of the value.
-/

namespace LoginService.Json

/-- An open container. -/
inductive Frame where
  | list
  | object
  deriving DecidableEq, Repr

/-- What is expected next while stepping over a value. -/
inductive SkipState where
  /-- A value. -/
  | value
  /-- The first item or member of the innermost container, or its end. -/
  | opened
  /-- A comma, or the end of the innermost container. -/
  | after
  /-- An item or member of the innermost container. -/
  | item
  deriving DecidableEq, Repr

/-- Step over the digits of an exponent, at its mark. -/
def skipExponent (c : Cursor) : Read Unit :=
  let c := c.advance
  let c := match c.rest with
    | b :: _ => if b = Byte.plus ∨ b = Byte.minus then c.advance else c
    | [] => c
  match c.rest with
  | [] => c.fail .badNumber
  | b :: _ =>
    if Byte.isDigit b then
      let (count, rest) := Number.dropDigits 0 c.rest
      .ok ((), c.past count rest)
    else c.failAhead .badNumber

/-- Step over an exponent, if there is one. -/
def skipNumberTail (c : Cursor) : Read Unit :=
  match c.rest with
  | b :: _ => if Byte.isExponentMark b then skipExponent c else .ok ((), c)
  | [] => .ok ((), c)

/-- Step over a number, after its sign. -/
def skipNumber (c : Cursor) : Read Unit :=
  match c.rest with
  | [] => c.fail .badNumber
  | b :: _ =>
    if Byte.isDigit b then
      let (count, rest) := if b = Byte.zero then (1, c.rest.tail) else Number.dropDigits 0 c.rest
      let c := c.past count rest
      match c.rest with
      | b :: _ =>
        if Byte.isDigit b then c.failAhead .badNumber
        else if b = Byte.point then
          let c := c.advance
          let (count, rest) := Number.dropDigits 0 c.rest
          let c := c.past count rest
          if count = 0 then c.failAhead .badNumber else skipNumberTail c
        else skipNumberTail c
      | [] => .ok ((), c)
    else c.failAhead .badNumber

/-- Step over a value that is no container, if one begins with this byte. -/
def skipScalar? (b : UInt8) (c : Cursor) : Option (Read Unit) :=
  if b = 0x6E then some (c.advance.word nullTail)
  else if b = 0x74 then some (c.advance.word trueTail)
  else if b = 0x66 then some (c.advance.word falseTail)
  else if b = Byte.minus then some (skipNumber c.advance)
  else if Byte.isDigit b then some (skipNumber c)
  else if b = Byte.quote then some (skipText c.advance)
  else none

/-- The cause of a text that ends inside a container. -/
def Frame.endCause : Frame → Cause
  | .list => .endInList
  | .object => .endInObject

/-- The cause of a byte that is neither a comma nor the end of a container. -/
def Frame.commaCause : Frame → Cause
  | .list => .wantsCommaOrBracket
  | .object => .wantsCommaOrBrace

/-- The byte that ends a container. -/
def Frame.closer : Frame → UInt8
  | .list => Byte.closeBracket
  | .object => Byte.closeBrace

/-- Step over the key of a member and its colon. -/
def skipKey (c : Cursor) : Read Unit :=
  let c := c.skipBlanks
  match c.rest with
  | [] => c.fail .endInObject
  | b :: _ =>
    if b = Byte.quote then
      match skipText c.advance with
      | .error e => .error e
      | .ok ((), c) => readColon c
    else c.failAhead .keyNotText

/-- Step over what is expected, inside the containers `frames`, innermost first. Between two
bytes the state changes at most three times, which bounds the fuel that is needed. -/
def skipFrom : Nat → SkipState → List Frame → Cursor → Read Unit
  | 0, _, _, c => c.fail .endInValue
  | fuel + 1, state, frames, c =>
    let c := c.skipBlanks
    match state, frames with
    | .value, _ =>
      match c.rest with
      | [] => c.fail .endInValue
      | b :: _ =>
        match skipScalar? b c with
        | some (.error e) => .error e
        | some (.ok ((), c)) => skipFrom fuel .after frames c
        | none =>
          if b = Byte.openBracket then skipFrom fuel .opened (.list :: frames) c.advance
          else if b = Byte.openBrace then skipFrom fuel .opened (.object :: frames) c.advance
          else c.failAhead .wantsValue
    | _, [] => .ok ((), c)
    | .opened, frame :: outer =>
      match c.rest with
      | [] => c.fail frame.endCause
      | b :: _ =>
        if b = frame.closer then skipFrom fuel .after outer c.advance
        else skipFrom fuel .item frames c
    | .after, frame :: outer =>
      match c.rest with
      | [] => c.fail frame.endCause
      | b :: _ =>
        if b = Byte.comma then skipFrom fuel .item frames c.advance
        else if b = frame.closer then skipFrom fuel .after outer c.advance
        else c.failAhead frame.commaCause
    | .item, .list :: _ => skipFrom fuel .value frames c
    | .item, .object :: _ =>
      match skipKey c with
      | .error e => .error e
      | .ok ((), c) => skipFrom fuel .value frames c

theorem skipFrom_item {n : Nat} {outer : List Frame} {c : Cursor} :
    skipFrom (n + 1) .item (.list :: outer) c
      = skipFrom n .value (.list :: outer) c.skipBlanks := by
  rw [skipFrom]

theorem skipFrom_done {n : Nat} {c : Cursor} :
    skipFrom (n + 1) .after [] c = .ok ((), c.skipBlanks) := by
  simp only [skipFrom]

/-- Step over a value. `fuel` bounds the length of the document. -/
def skipValue (fuel : Nat) (c : Cursor) : Read Unit :=
  skipFrom (4 * fuel) .value [] c

end LoginService.Json

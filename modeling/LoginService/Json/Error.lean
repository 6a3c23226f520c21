import LoginService.Decimal.Shortest
import LoginService.Text.Quoted

/-!
# What can be wrong with a JSON document

A refusal is a cause and, when it was met while reading text, a position. Causes fall into three
categories: the text ended too early, the text is not JSON, or the JSON is not of the wanted shape.
-/

namespace LoginService.Json

/-- A place in a text: its line, counted from one, and how many bytes of that line come before. -/
structure Position where
  line : Nat
  column : Nat
  deriving DecidableEq, Repr

/-- What stood where something else was wanted. -/
inductive Found where
  | null
  | bool (b : Bool)
  | integer (i : Int)
  | float (x : Decimal.Binary64)
  | text (s : String)
  | sequence
  | map
  deriving DecidableEq, Repr

/-- Why a document is refused. -/
inductive Cause where
  | endInValue
  | endInText
  | endInList
  | endInObject
  | wantsColon
  | wantsCommaOrBracket
  | wantsCommaOrBrace
  | wantsWord
  | wantsValue
  | badEscape
  | badNumber
  | numberOutOfRange
  | badUtf8
  | controlCharacter
  | keyNotText
  | loneSurrogate
  | unpairedSurrogate
  | trailingComma
  | trailingCharacters
  | tooDeep
  | wrongType (found : Found) (expected : String)
  | wrongValue (found : Found) (expected : String)
  | wrongLength (length : Nat) (expected : String)
  | missingField (name : String)
  | duplicateField (name : String)
  | noVariant (name : String)
  /-- What is wrong with a document that stands as a text in another one. -/
  | embedded (cause : Cause)
  deriving DecidableEq, Repr

/-- The three kinds of causes. -/
inductive Category where
  | eof
  | malformed
  | data
  deriving DecidableEq, Repr

/-- A refused document. -/
structure Error where
  cause : Cause
  /-- Where the cause was met; nothing when it was met after the text had been read. -/
  position : Option Position
  deriving DecidableEq, Repr

/-- The category of a cause. -/
def Cause.category : Cause → Category
  | .endInValue | .endInText | .endInList | .endInObject => .eof
  | .wrongType .. | .wrongValue .. | .wrongLength .. | .missingField _ | .duplicateField _
  | .noVariant _ | .embedded _ => .data
  | _ => .malformed

/-- The wording of what stood there. -/
def Found.message : Found → String
  | .null => "null"
  | .bool b => s!"boolean `{b}`"
  | .integer i => s!"integer `{i}`"
  | .float x => s!"floating point `{Decimal.scientific x}`"
  | .text s => "string " ++ Text.quoted s
  | .sequence => "sequence"
  | .map => "map"

/-- The wording of a cause. -/
def Cause.message : Cause → String
  | .endInValue => "EOF while parsing a value"
  | .endInText => "EOF while parsing a string"
  | .endInList => "EOF while parsing a list"
  | .endInObject => "EOF while parsing an object"
  | .wantsColon => "expected `:`"
  | .wantsCommaOrBracket => "expected `,` or `]`"
  | .wantsCommaOrBrace => "expected `,` or `\x7d`"
  | .wantsWord => "expected ident"
  | .wantsValue => "expected value"
  | .badEscape => "invalid escape"
  | .badNumber => "invalid number"
  | .numberOutOfRange => "number out of range"
  | .badUtf8 => "invalid unicode code point"
  | .controlCharacter => "control character (\\u0000-\\u001F) found while parsing a string"
  | .keyNotText => "key must be a string"
  | .loneSurrogate => "lone leading surrogate in hex escape"
  | .unpairedSurrogate => "unexpected end of hex escape"
  | .trailingComma => "trailing comma"
  | .trailingCharacters => "trailing characters"
  | .tooDeep => "recursion limit exceeded"
  | .wrongType found expected => s!"invalid type: {found.message}, expected {expected}"
  | .wrongValue found expected => s!"invalid value: {found.message}, expected {expected}"
  | .wrongLength length expected => s!"invalid length {length}, expected {expected}"
  | .missingField name => s!"missing field `{name}`"
  | .duplicateField name => s!"duplicate field `{name}`"
  | .noVariant name => s!"data did not match any variant of untagged enum {name}"
  | .embedded cause => cause.message

/-- The wording of an error: its cause and, if it has one, its position. -/
def Error.message (e : Error) : String :=
  match e.position with
  | some p => s!"{e.cause.message} at line {p.line} column {p.column}"
  | none => e.cause.message

end LoginService.Json

import LoginService.Text.Quoted
import LoginService.Text.Ascii

/-!
# Log events

What the service logs, as data: a level, the part of the service that speaks, a message and
named fields. Events logged while a request is handled also carry that request's span.
-/

namespace LoginService

/-- How grave an event is, gravest last. -/
inductive Level where
  | info
  | warn
  | error
  deriving DecidableEq, Repr

/-- The value of a field of an event. -/
inductive FieldValue where
  | number (n : Int)
  /-- A text shown as it is. -/
  | plain (s : String)
  /-- A text shown between quotes. -/
  | quoted (s : String)
  /-- A measured time, which no two runs share. -/
  | elapsed
  deriving DecidableEq, Repr

/-- The request during which an event is logged. -/
structure Span where
  requestId : String
  method : String
  path : String
  deriving DecidableEq, Repr

/-- A logged event. -/
structure Event where
  level : Level
  /-- The part of the service that speaks, as a path. -/
  target : String
  message : String
  fields : List (String × FieldValue) := []
  span : Option Span := none
  deriving DecidableEq, Repr

/-- The name of a level. -/
def Level.name : Level → String
  | .info => "INFO"
  | .warn => "WARN"
  | .error => "ERROR"

/-- A field at the end of a log line. -/
def FieldValue.shown : FieldValue → String
  | .number n => toString n
  | .plain s => s
  | .quoted s => Text.quoted s
  | .elapsed => "_"

/-- The text of a log line: the message, then the fields. -/
def Event.line (e : Event) : String :=
  e.fields.foldl (fun text field => text ++ " " ++ field.1 ++ "=" ++ field.2.shown) e.message

/-- The same event, logged inside a request. -/
def Event.within (e : Event) (span : Span) : Event :=
  { e with span := some span }

end LoginService

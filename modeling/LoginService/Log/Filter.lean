import LoginService.Log
import LoginService.Settings.Environment

/-!
# Filtering the log

A filter is a list of directives between commas. A directive says how much is let through: of
everything, of what one part of the service and the parts below it say, or of what is said inside
requests. Among the directives about an event the one that names the longest part decides. A
directive that names a part without saying how much lets everything of it through.
-/

namespace LoginService

open Text

/-- How much a directive lets through; more with every step. -/
inductive Verbosity where
  | off
  | error
  | warn
  | info
  | debug
  | trace
  deriving DecidableEq, Repr

namespace Verbosity

/-- The place of a verbosity in their order. -/
def rank : Verbosity → Nat
  | .off => 0
  | .error => 1
  | .warn => 2
  | .info => 3
  | .debug => 4
  | .trace => 5

/-- The names of the verbosities. -/
def names : List (String × Verbosity) :=
  [("off", .off), ("error", .error), ("warn", .warn), ("info", .info), ("debug", .debug),
    ("trace", .trace)]

/-- The verbosity of a rank. -/
def ofRank? (n : Nat) : Option Verbosity :=
  (names.map (·.2)).find? fun v => v.rank = n

/-- The number that characters spell in decimal digits, with a plus sign or without. -/
def number? (cs : List Char) : Option Nat :=
  let digits := if cs.head? = some '+' then cs.drop 1 else cs
  if digits.isEmpty || !digits.all isDigit then none
  else some (decimalValue digits)

/-- The verbosity that characters spell, as a name in any letter case or as a rank. -/
def ofChars? (cs : List Char) : Option Verbosity :=
  match number? cs with
  | some n => ofRank? n
  | none =>
    if cs.isEmpty then some .error else names.lookup (String.ofList (cs.map lowerChar))

/-- The least verbosity that lets events of a level through. -/
def ofLevel : Level → Verbosity
  | .info => .info
  | .warn => .warn
  | .error => .error

end Verbosity

/-- The requests that a directive is about. -/
structure SpanPattern where
  name : Option String := none
  /-- Names of fields, with the values that they must have. -/
  fields : List (String × Option String) := []
  deriving DecidableEq, Repr

/-- A directive of a filter. -/
structure Directive where
  verbosity : Verbosity := .trace
  /-- What the name of a part must begin with. -/
  target : Option String := none
  span : SpanPattern := {}
  deriving DecidableEq, Repr

namespace Directive

/-! ## Reading -/

/-- A text, or nothing if it is empty. -/
def nonempty? (cs : List Char) : Option String :=
  if cs.isEmpty then none else some (String.ofList cs)

/-- The verbosity at the end of a directive. -/
def readVerbosity? (cs : List Char) : Option Verbosity :=
  if cs.isEmpty then some .trace else Verbosity.ofChars? cs

/-- A field of a request: a name, and a value if there is an equals sign. -/
def readField? (cs : List Char) : Option (String × Option String) :=
  if cs.isEmpty then none
  else
    let value := (cs.dropWhile (· ≠ '=')).drop 1
    some (String.ofList (cs.takeWhile (· ≠ '=')),
      if cs.contains '=' then some (String.ofList value) else none)

/-- The part of a directive after the requests that it is about. -/
def readTail? (d : Directive) : List Char → Option Directive
  | [] => some d
  | '=' :: rest => (readVerbosity? rest).map fun verbosity => { d with verbosity }
  | _ => none

/-- The requests that a directive is about, from behind the opening bracket on. -/
def readSpan? (d : Directive) (cs : List Char) : Option Directive :=
  let stops (c : Char) := c == ']' || c == '\x7b'
  let name := cs.takeWhile (fun c => !stops c)
  match cs.dropWhile (fun c => !stops c) with
  | [] => none
  | c :: rest =>
    if c = ']' then
      readTail? { d with span := { name := some (String.ofList name) } } rest
    else
      match rest.dropWhile (· ≠ '\x7d') with
      | _ :: ']' :: tail => do
        let field ← readField? (rest.takeWhile (· ≠ '\x7d'))
        readTail? { d with span := { name := nonempty? name, fields := [field] } } tail
      | _ => none

/-- Whether a character may begin a directive about a part. -/
def isStart (c : Char) : Bool :=
  isAsciiAlphanumeric c || c == '-' || c == ':' || c == '_' || 0x80 ≤ c.toNat

/-- The directive that characters spell. -/
def parse? (cs : List Char) : Option Directive :=
  match cs with
  | [] => none
  | '[' :: rest => readSpan? {} rest
  | c :: _ =>
    if !isStart c then none
    else
      let stops (c : Char) := c == '=' || c == '['
      let target := cs.takeWhile (fun c => !stops c)
      let d : Directive := { target := some (String.ofList target) }
      match cs.dropWhile (fun c => !stops c) with
      | [] =>
        match Verbosity.ofChars? target with
        | some verbosity => some { verbosity }
        | none => some d
      | '=' :: rest => readTail? d ('=' :: rest)
      | _ :: rest => readSpan? d rest

/-! ## Matching -/

/-- Whether a directive is about events wherever they are logged. -/
def isGeneral (d : Directive) : Bool :=
  d.span.name.isNone && d.span.fields.all (·.2.isNone)

/-- Whether the name of a part begins as a directive says. -/
def matchesTarget (d : Directive) (target : String) : Bool :=
  d.target.all fun start => start.toList.isPrefixOf target.toList

/-- Whether a directive is about an event by its part and its fields. -/
def isAbout (d : Directive) (e : Event) : Bool :=
  d.matchesTarget e.target &&
    d.span.fields.all fun f => f.1 == "message" || (e.fields.map (·.1)).contains f.1

/-- How closely a directive says what it is about. -/
def closeness (d : Directive) : Nat × Nat :=
  ((d.target.map fun t => t.utf8ByteSize + 1).getD 0, d.span.fields.length)

/-- Whether a directive lets an event through that is about as grave as it lets through. -/
def lets (d : Directive) (e : Event) : Bool :=
  (Verbosity.ofLevel e.level).rank ≤ d.verbosity.rank

/-- The part of the service that opens the span of a request. -/
def spanTarget : String := "login_server::middleware::access_log"

/-- The fields of the span of a request. -/
def spanFields (s : Span) : List (String × String) :=
  [("request_id", s.requestId), ("method", s.method), ("path", s.path)]

/-- Whether a directive is about a request. -/
def isAboutSpan (d : Directive) (s : Span) : Bool :=
  d.matchesTarget spanTarget && d.span.name.all (· == "request") &&
    d.span.fields.all fun f =>
      match (spanFields s).lookup f.1 with
      | some v => f.2.all (· == v)
      | none => false

end Directive

/-- A filter of the log. -/
structure LogFilter where
  directives : List Directive
  deriving DecidableEq, Repr

namespace LogFilter

/-- The directive that decides about an event wherever it is logged: the closest, and of equally
close ones the last. -/
def deciding? (f : LogFilter) (e : Event) : Option Directive :=
  (f.directives.filter fun d => d.isGeneral && d.isAbout e).foldl
    (fun best d =>
      match best with
      | none => some d
      | some b =>
        let (x, y) := b.closeness
        let (x', y') := d.closeness
        if x < x' || (x == x' && y ≤ y') then some d else some b)
    none

/-- Whether a filter lets an event through. -/
def lets (f : LogFilter) (e : Event) : Bool :=
  (f.deciding? e).any (·.lets e) ||
    e.span.any fun s =>
      f.directives.any fun d => !d.isGeneral && d.isAboutSpan s && d.lets e

/-- The filter that a string spells. -/
def parse? (s : String) : Option LogFilter :=
  (((splitOnChar ',' s.toList).filter (!·.isEmpty)).mapM Directive.parse?).map LogFilter.mk

/-- The filter that is used when none is given: what the service says, from information on. -/
def builtIn : LogFilter where
  directives := ["login_server", "dept_login_server", "tower_http"].map fun part =>
    { verbosity := .info, target := some part }

/-- The filter that an environment asks for. One that cannot be read is replaced. -/
def ofEnvironment (env : Environment) : LogFilter :=
  ((env.get? "RUST_LOG").bind parse?).getD builtIn

end LogFilter

end LoginService

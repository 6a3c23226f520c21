import LoginService.Settings.Environment
import LoginService.Text.Utf8

/-!
# Files with variables

A file may give variables that the environment lacks, one a line, as a name, an equals sign and a
value. Values may be quoted, may hold escapes, and may refer to variables that are set by then. The
lines are taken one after another; the first one that cannot be read ends the reading, and those
before it count.
-/

namespace LoginService

open Text

namespace EnvironmentFile

/-! ## Values -/

/-- The quotes that a character stands between. -/
inductive Quotes where
  | none
  | single
  | double
  deriving DecidableEq, Repr

/-- A reference to a variable that is being read. -/
inductive Reference where
  | none
  /-- After a dollar sign. -/
  | bare
  /-- Between braces. -/
  | braced
  deriving DecidableEq, Repr

/-- What has been read of a value. -/
structure ValueState where
  quotes : Quotes := .none
  reference : Reference := .none
  /-- The last character was a backslash. -/
  escaped : Bool := false
  /-- Only blanks and a comment may follow. -/
  ended : Bool := false
  /-- A comment has begun. -/
  inComment : Bool := false
  /-- The name of a variable that is being read, last character first. -/
  name : List Char := []
  /-- The value, last character first. -/
  output : List Char := []

namespace ValueState

/-- Add a character to the value. -/
def push (s : ValueState) (c : Char) : ValueState :=
  { s with output := c :: s.output }

/-- Put the value of a variable in the place of its name. -/
def refer (s : ValueState) (env : Environment) : ValueState :=
  let value := (env.get? (String.ofList s.name.reverse)).getD ""
  { s with name := [], output := value.toList.reverse ++ s.output }

/-- Read the character after a backslash. -/
def readEscape (s : ValueState) (c : Char) : Option ValueState :=
  let s := { s with escaped := false }
  if "\\'\"$ ".toList.contains c then some (s.push c)
  else if c = 'n' then some (s.push '\n')
  else none

/-- Read a character of a reference to a variable. -/
def readReference (s : ValueState) (env : Environment) (c : Char) : ValueState :=
  if isAsciiAlphanumeric c then { s with name := c :: s.name }
  else if s.reference = .braced then
    if c = '\x7d' then { s.refer env with reference := .none } else { s with name := c :: s.name }
  else if c = '\x7b' && s.name.isEmpty then { s with reference := .braced }
  else if c = '$' then s.refer env
  else ({ s.refer env with reference := .none }).push c

/-- Read a character outside quotes. -/
def readPlain (s : ValueState) (c : Char) : ValueState :=
  if c = '\'' then { s with quotes := .single }
  else if c = '"' then { s with quotes := .double }
  else if c = '\\' then { s with escaped := true }
  else if c = ' ' || c = '\t' then { s with ended := true }
  else s.push c

/-- Read a character between double quotes. -/
def readQuoted (s : ValueState) (c : Char) : ValueState :=
  if c = '"' then { s with quotes := .none }
  else if c = '\\' then { s with escaped := true }
  else s.push c

/-- Read a character. -/
def step (env : Environment) (s : ValueState) (c : Char) : Option ValueState :=
  if s.inComment then some s
  else if s.ended then
    if c = ' ' || c = '\t' then some s
    else if c = '#' then some { s with inComment := true }
    else none
  else if s.escaped then s.readEscape c
  else if s.quotes = .single then
    some (if c = '\'' then { s with quotes := .none } else s.push c)
  else if s.reference ≠ .none then some (s.readReference env c)
  else if c = '$' then some { s with reference := .bare }
  else if s.quotes = .double then some (s.readQuoted c)
  else some (s.readPlain c)

/-- The value, if it may end here. -/
def finish? (env : Environment) (s : ValueState) : Option String :=
  if s.reference = .braced || s.quotes ≠ .none then none
  else some (String.ofList (s.refer env).output.reverse)

end ValueState

/-- The value that characters spell. -/
def readValue? (env : Environment) (cs : List Char) : Option String := do
  (← cs.foldlM (ValueState.step env) {}).finish? env

/-! ## Lines -/

/-- What a line gives. -/
inductive Line where
  | nothing
  | variable (name value : String)
  | unreadable

/-- The characters after the blanks at the beginning. -/
def skipBlanks (cs : List Char) : List Char := cs.dropWhile isBlank

/-- Whether a character may begin a name. -/
def isNameStart (c : Char) : Bool :=
  (isAsciiAlphanumeric c && !isDigit c) || c == '_'

/-- Whether a character may stand in a name. -/
def isNameChar (c : Char) : Bool :=
  isAsciiAlphanumeric c || c == '_' || c == '.'

/-- A name, and what follows it and the blanks after it. -/
def readName? (cs : List Char) : Option (List Char × List Char) :=
  match cs with
  | c :: _ =>
    if isNameStart c then some (cs.takeWhile isNameChar, skipBlanks (cs.dropWhile isNameChar))
    else none
  | [] => none

/-- A name, and what follows the equals sign after it. The word `export` may stand before a name;
it is a name itself if an equals sign follows it. -/
def readAssignment? (cs : List Char) : Option (List Char × List Char) := do
  let (name, rest) ← readName? cs
  match rest with
  | '=' :: value => return (name, value)
  | _ =>
    if name = "export".toList then
      let (name, rest) ← readName? rest
      match rest with
      | '=' :: value => return (name, value)
      | _ => none
    else none

/-- Whether nothing but a comment is left. -/
def isDone (cs : List Char) : Bool :=
  cs.isEmpty || cs.head? == some '#'

/-- Read a line. -/
def readLine (env : Environment) (line : List Char) : Line :=
  let cs := skipBlanks ((line.reverse.dropWhile isBlank).reverse)
  if isDone cs then .nothing
  else
    match readAssignment? cs with
    | none => .unreadable
    | some (name, rest) =>
      let value := skipBlanks rest
      if isDone value then .variable (String.ofList name) ""
      else
        match readValue? env value with
        | some v => .variable (String.ofList name) v
        | none => .unreadable

/-! ## Files -/

/-- The pieces of bytes between line feeds, without a carriage return at their ends. -/
def linesOf (bytes : List UInt8) : List (List UInt8) :=
  let pieces := bytes.foldr
    (fun b pieces =>
      match pieces with
      | [] => [[b]]
      | piece :: rest => if b = 0x0A then [] :: piece :: rest else (b :: piece) :: rest)
    [[]]
  pieces.map fun piece => if piece.getLast? = some 0x0D then piece.dropLast else piece

/-- Set the variables of lines that an environment lacks. -/
def setMissing (env : Environment) : List (List UInt8) → Environment
  | [] => env
  | bytes :: rest =>
    match Utf8.decode bytes with
    | .error _ => env
    | .ok line =>
      match readLine env line with
      | .nothing => setMissing env rest
      | .unreadable => env
      | .variable name value =>
        if (env.get? name).isSome then setMissing env rest
        else setMissing (env.set name value) rest

end EnvironmentFile

/-- An environment with the variables of a file that it lacks. -/
def Environment.withFile (env : Environment) (bytes : List UInt8) : Environment :=
  EnvironmentFile.setMissing env (EnvironmentFile.linesOf bytes)

end LoginService

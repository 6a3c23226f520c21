import LoginService.Text.Similarity

/-!
# The command line

The command line may name a file with settings, once, and may ask for help or for the version
instead. Arguments are taken one after another, and the first that asks for something or is wrong
decides. The name of a file may follow its option as an argument of its own; it is then looked at
only when the next option or the end is reached, and an unknown argument before that comes first.
-/

namespace LoginService

/-- The options that the command line knows. -/
inductive CommandOption where
  | config
  | help
  | version
  deriving DecidableEq, Repr

namespace CommandOption

/-- All options, in the order in which help lists them. -/
def all : List CommandOption := [.config, .help, .version]

/-- The name of an option, without its dashes. -/
def name : CommandOption → String
  | .config => "config"
  | .help => "help"
  | .version => "version"

/-- How an option is written. -/
def usage : CommandOption → String
  | .config => "--config <CONFIG>"
  | .help => "--help"
  | .version => "--version"

/-- The option of a name. -/
def ofName? (name : String) : Option CommandOption :=
  all.find? (·.name == name)

/-- The option of a letter. -/
def ofLetter? : Char → Option CommandOption
  | 'h' => some .help
  | 'V' => some .version
  | _ => none

/-- How alike an option must be to be suggested. -/
def similarEnough : Text.Share := ⟨7, 10⟩

/-- The option most like a name, if one is like it; of two equally alike the later one. -/
def similarTo? (name : String) : Option CommandOption :=
  let likeness (o : CommandOption) := Text.similarity name o.name
  let candidates := all.filter fun o => (likeness o).atLeast similarEnough
  candidates.foldl
    (fun best o =>
      match best with
      | none => some o
      | some b => if (likeness o).atLeast (likeness b) then some o else some b)
    none

end CommandOption

/-- What is wrong with a command line. -/
inductive UsageError where
  /-- An argument that means nothing, an option like it, and the options of the usage line. -/
  | unexpected (argument : String) (similar : Option CommandOption) (used : List CommandOption)
  /-- The file with settings is not named. -/
  | missingValue
  /-- The file with settings is named twice. -/
  | repeated
  /-- A value for an option that takes none, and the options of the usage line. -/
  | unneededValue (option : CommandOption) (value : String) (used : List CommandOption)
  deriving DecidableEq, Repr

/-- What a command line asks for. -/
inductive Command where
  /-- Run the service with the settings of a file. -/
  | run (config : String)
  | help
  | version
  deriving DecidableEq, Repr

namespace CommandLine

/-! ## Texts -/

/-- The name of the program. -/
def program : String := "dept-login-server"

/-- The file with settings that is used when none is named. -/
def defaultConfig : String := "./config/dev.yml"

/-- What help prints. -/
def helpText : String :=
  "Department login server\n\nUsage: " ++ program ++ " [OPTIONS]\n\nOptions:\n" ++
    "      --config <CONFIG>  Path to the YAML config file [default: " ++ defaultConfig ++ "]\n" ++
    "  -h, --help             Print help\n" ++
    "  -V, --version          Print version\n"

/-- What the version prints. -/
def versionText : String := program ++ " 1.0.0\n"

/-- The usage line for some options. -/
def usageLine (used : List CommandOption) : String :=
  let shown := if used.isEmpty then " [OPTIONS]" else String.join (used.map (" " ++ ·.usage))
  "\n\nUsage: " ++ program ++ shown

/-- What an error is about. -/
def subject : UsageError → String
  | .unexpected argument similar used =>
    let tip :=
      match similar with
      | some o => "\n\n  tip: a similar argument exists: '--" ++ o.name ++ "'"
      | none => ""
    "unexpected argument '" ++ argument ++ "' found" ++ tip ++ usageLine used
  | .missingValue =>
    "a value is required for '" ++ CommandOption.config.usage ++ "' but none was supplied"
  | .repeated =>
    "the argument '" ++ CommandOption.config.usage ++ "' cannot be used multiple times" ++
      usageLine []
  | .unneededValue option value used =>
    "unexpected value '" ++ value ++ "' for '" ++ option.usage ++
      "' found; no more were expected" ++ usageLine used

/-- What is printed for an error. -/
def errorText (e : UsageError) : String :=
  "error: " ++ subject e ++ "\n\nFor more information, try '--help'.\n"

/-! ## Taking arguments -/

/-- An option whose value is still to be looked at. -/
inductive Pending where
  | nothing
  /-- The next argument is the value. -/
  | awaited
  | arrived (value : String)

/-- What has been taken of a command line. -/
structure Taken where
  config : Option String := none
  pending : Pending := .nothing
  /-- Only plain arguments follow. -/
  plainOnly : Bool := false

/-- The options that a usage line repeats. -/
def Taken.used (t : Taken) : List CommandOption :=
  if t.config.isSome then [.config] else []

/-- What is left of a command line at which something is wrong, and what is wrong. -/
abbrev Step := Except (UsageError × Taken) Taken

/-- Look at a value. -/
def Taken.take (t : Taken) (value : String) : Step :=
  if t.config.isSome then .error (.repeated, { t with config := none })
  else
    let t := { t with config := some value }
    if value.isEmpty then .error (.missingValue, t) else .ok t

/-- Look at the value that is still to be looked at. -/
def Taken.settle (t : Taken) : Step :=
  let t' := { t with pending := .nothing }
  match t.pending with
  | .nothing => .ok t'
  | .awaited => .error (.missingValue, t')
  | .arrived value => t'.take value

/-- The same, passing over what is wrong. -/
def Taken.settled (t : Taken) : Taken :=
  match t.settle with
  | .ok t => t
  | .error (_, t) => t

/-- Where taking arguments leads: to the next argument, or to a result. -/
inductive Progress where
  | on (t : Taken)
  | done (result : Except UsageError Command)

/-- Go on unless something is wrong. -/
def Progress.ofStep : Step → Progress
  | .ok t => .on t
  | .error (e, _) => .done (.error e)

/-- Take an argument that means nothing. -/
def takeUnknown (argument : String) : Progress :=
  .done (.error (.unexpected argument none []))

/-- Take a request for help or for the version. -/
def takeRequest (t : Taken) (command : Command) : Progress :=
  match t.settle with
  | .ok _ => .done (.ok command)
  | .error (e, _) => .done (.error e)

/-- Take an option that is no known one. -/
def takeUnknownOption (t : Taken) (name : String) : Progress :=
  let similar := CommandOption.similarTo? name
  let used := t.settled.used
  let used := used ++ similar.toList.filter (fun o => !used.contains o)
  .done (.error (.unexpected ("--" ++ name) similar used))

/-- Take an option that begins with two dashes. -/
def takeLong (t : Taken) (name : String) (value : Option String) : Progress :=
  match CommandOption.ofName? name, value with
  | none, _ => takeUnknownOption t name
  | some .config, none =>
    match t.settle with
    | .ok t => .on { t with pending := .awaited }
    | .error (e, _) => .done (.error e)
  | some .config, some value =>
    match t.settle with
    | .ok t => Progress.ofStep (t.take value)
    | .error (e, _) => .done (.error e)
  | some o, some value => .done (.error (.unneededValue o value (t.used ++ [o])))
  | some .help, none => takeRequest t .help
  | some .version, none => takeRequest t .version

/-- Take an option that begins with one dash: its first letter decides. -/
def takeShort (t : Taken) (letter : Char) : Progress :=
  match CommandOption.ofLetter? letter with
  | some .help => takeRequest t .help
  | some .version => takeRequest t .version
  | _ => takeUnknown (String.ofList ['-', letter])

/-- Take an argument. -/
def takeArgument (t : Taken) (argument : String) : Progress :=
  if t.plainOnly then takeUnknown argument
  else
    match argument.toList with
    | ['-', '-'] => .on { t with plainOnly := true }
    | '-' :: '-' :: rest =>
      let name := String.ofList (rest.takeWhile (· ≠ '='))
      let value := if rest.contains '=' then some ((rest.dropWhile (· ≠ '=')).drop 1) else none
      takeLong t name (value.map String.ofList)
    | '-' :: letter :: _ => takeShort t letter
    | _ =>
      match t.pending with
      | .awaited => .on { t with pending := .arrived argument }
      | _ => takeUnknown argument

/-- Take the end of a command line. -/
def takeEnd (t : Taken) : Except UsageError Command :=
  match t.settle with
  | .ok t => .ok (.run (t.config.getD defaultConfig))
  | .error (e, _) => .error e

/-- Take arguments one after another. -/
def takeAll (t : Taken) : List String → Except UsageError Command
  | [] => takeEnd t
  | argument :: rest =>
    match takeArgument t argument with
    | .on t => takeAll t rest
    | .done result => result

/-- What the arguments of a command line ask for. -/
def parse (arguments : List String) : Except UsageError Command :=
  takeAll {} arguments

end CommandLine

end LoginService

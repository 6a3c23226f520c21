import LoginService.CommandLine
import LoginService.Lifecycle
import LoginService.Log.Filter
import LoginService.Settings.EnvironmentFile

/-!
# The program

The program reads its command line, adds the variables of a file to its environment, and then lives
as its surroundings let it. What it logs is filtered. When it fails it says so, with all that the
failure wraps.
-/

namespace LoginService

/-- What a process finds when it starts. -/
structure Surroundings where
  environment : Environment := []
  files : FileTree := {}
  /-- The names that lead to the working directory. -/
  here : List String := []
  network : Network := {}
  /-- Ports at which something else listens. -/
  portsInUse : List UInt16 := []

/-- How a process ends. -/
structure Ending where
  exitCode : UInt32
  /-- What it prints, apart from its log. -/
  output : String := ""
  /-- What it says about a failure. -/
  complaint : String := ""
  /-- What it logs, as far as its filter lets that through. -/
  events : List Event := []
  hasListened : Bool := false
  /-- Who a database server saw log in. -/
  login : Option DatabaseLogin := none

namespace ProcessError

/-- The wording of an error. -/
def message : ProcessError → String
  | .settings .unreadable => "settings are not a dictionary"
  | .settings (.refused r) => r.message
  | .database e => e.message
  | .host => "invalid IP address syntax"
  | .listen detail | .serving detail => detail

/-- What an error wraps, outermost first. -/
def causes : ProcessError → List String
  | .database e => e.causes
  | _ => []

end ProcessError

namespace Complaint

/-- The lines of a text, with a blank margin before all but the first. -/
def withMargin (margin : String) (s : String) : String :=
  Text.joinWith ("\n" ++ margin) ((Text.splitOnChar '\n' s.toList).map String.ofList)

/-- Numbered causes, each on a line. -/
def numbered (n : Nat) : List String → List String
  | [] => []
  | cause :: rest => (s!"    {n}: " ++ withMargin "       " cause) :: numbered (n + 1) rest

/-- The lines about what an error wraps; several causes are numbered. -/
def causeLines : List String → List String
  | [] => []
  | [cause] => ["", "Caused by:", "    " ++ withMargin "    " cause]
  | causes => "" :: "Caused by:" :: numbered 0 causes

/-- What is said about an error. -/
def text (e : ProcessError) : String :=
  Text.joinWith "\n" (("Error: " ++ e.message) :: causeLines e.causes) ++ "\n"

end Complaint

namespace Surroundings

/-- The file that gives variables. -/
def variablesFile : String := ".env"

/-- The environment with the variables of a file. -/
def fullEnvironment (s : Surroundings) : Environment :=
  match s.files.search? s.here (Path.ofString variablesFile) with
  | some (_, bytes) => s.environment.withFile bytes
  | none => s.environment

/-- The file with settings at a path. -/
def settingsFile? (s : Surroundings) (path : String) : Option Settings.File :=
  (s.files.search? s.here (Path.ofString path)).map fun (name, bytes) => ⟨name, bytes⟩

/-- Listen at an address. -/
def listen (s : Surroundings) (a : SocketAddress) : Except String Unit :=
  if s.portsInUse.contains a.port then .error "Address already in use (os error 98)" else .ok ()

/-- How the steps of starting up turn out. -/
def startup (s : Surroundings) (env : Environment) (path : String) : Startup where
  settings := Settings.load (s.settingsFile? path) env
  connection := connect s.network
  host := IpAddress.parse?
  listener := s.listen

end Surroundings

namespace Program

/-- Run the service with the settings of a file; nothing if it runs forever. -/
def serve (s : Surroundings) (path : String) (serving : Serving) : Option Ending :=
  let env := s.fullEnvironment
  let filter := LogFilter.ofEnvironment env
  let started := (s.startup env path).run path
  (started.live serving).map fun life =>
    { exitCode := if life.result.isOk then 0 else 1
      complaint :=
        match life.result with
        | .ok () => ""
        | .error e => Complaint.text e
      events := life.events.filter filter.lets
      hasListened := started.hasListened
      login := life.login }

/-- Run the program with the arguments of a command line; nothing if it runs forever. -/
def run (s : Surroundings) (arguments : List String) (serving : Serving) : Option Ending :=
  match CommandLine.parse arguments with
  | .error e => some { exitCode := 2, complaint := CommandLine.errorText e }
  | .ok .help => some { exitCode := 0, output := CommandLine.helpText }
  | .ok .version => some { exitCode := 0, output := CommandLine.versionText }
  | .ok (.run path) => serve s path serving

end Program

end LoginService

import LoginService.Log
import LoginService.Settings.Environment
import LoginService.Settings.Extract
import LoginService.Settings.File

/-!
# Loading the settings

The settings are those of the environment laid over those of a file laid over the built-in ones. A
file that is not there sets nothing; one that is there must be readable.
-/

namespace LoginService

namespace Settings

/-- Why settings cannot be loaded. -/
inductive LoadError where
  /-- The file is not a dictionary in YAML. -/
  | unreadable
  /-- A setting is refused. -/
  | refused (r : Refusal)
  deriving DecidableEq, Repr

/-- A file with settings: its name and its bytes. -/
structure File where
  name : String
  bytes : List UInt8
  deriving DecidableEq, Repr

/-- What a file sets. -/
def fileTree? : Option File → Option Tree
  | none => some (.dict .builtIn [])
  | some file =>
    (fileMembers? file.name file.bytes).map fun members => .dict (.file file.name) members

/-- All settings as a tree. -/
def layers? (file : Option File) (env : Environment) : Option Tree :=
  (fileTree? file).map fun t => ((toTree {}).merge t).merge (environmentTree env)

/-- The settings of a file and an environment. -/
def load (file : Option File) (env : Environment) : Except LoadError Settings :=
  match layers? file env with
  | none => .error .unreadable
  | some t => (ofTree t).mapError .refused

/-! ## The log -/

/-- The part of the service that speaks about settings. -/
def logTarget : String := "login_server::config"

/-- What is logged before settings are loaded. -/
def loadingEvent (path : String) : Event :=
  { level := .info, target := logTarget, message := "Loading application configuration...",
    fields := [("path", .plain path)] }

/-- What is logged about settings that have been loaded. -/
def loadedEvents (s : Settings) : List Event :=
  [{ level := .info, target := logTarget, message := "Configuration loaded successfully" },
   { level := .info, target := logTarget, message := "name: " ++ Text.quoted s.app.name },
   { level := .info, target := logTarget,
     message := s!"Listen address: {s.server.host}:{s.server.port}" }]

/-- What is logged when settings are loaded. -/
def loadEvents (path : String) : Except LoadError Settings → List Event
  | .ok s => loadingEvent path :: loadedEvents s
  | .error _ => [loadingEvent path]

end Settings

end LoginService

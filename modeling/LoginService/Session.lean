import LoginService.Service.Exchange

/-!
# Sessions

A session is a run of steps over one store: requests to the service, credentials checked or looked
up directly, and changes to the store itself. Every step reports its result, what it logged and the
statements it sent to a database server.
-/

namespace LoginService

open Http

/-- A step of a session. -/
inductive Step where
  /-- A request, or nothing if its parts do not make one. -/
  | request (r : Option Request)
  | authenticate (c : Credential)
  | find (c : Credential)
  | insert (r : UserRecord)
  | setFailing (failing : Bool)
  | setServer (server : DatabaseServer)
  | close
  deriving Repr

/-- What a step gives. -/
inductive StepResult where
  | response (r : Response)
  /-- The parts of a request do not make one. -/
  | invalidRequest
  | checked (r : Except StoreError LoginOutcome)
  | found (r : Except StoreError (List LoginUser))
  | done
  | closed
  /-- The store has no such step. -/
  | refused

/-- What a step reports. -/
structure Report where
  result : StepResult
  events : List Event := []
  statements : List Statement := []

namespace Store

/-- Add an account to a table in memory. -/
def insert? (s : Store) (r : UserRecord) : Option Store :=
  match s with
  | .memory m => some (.memory (m.insert r))
  | _ => none

/-- Make a table in memory fail, or not. -/
def setFailing? (s : Store) (failing : Bool) : Option Store :=
  match s with
  | .memory m => some (.memory (m.setFailing failing))
  | _ => none

/-- Put another server behind a database connection. -/
def setServer? (s : Store) (server : DatabaseServer) : Option Store :=
  match s with
  | .database p => some (.database { p with server })
  | _ => none

/-- Close a database connection. -/
def close? (s : Store) : Option Store :=
  match s with
  | .database p => some (.database p.close)
  | _ => none

/-- How often a table in memory was asked. -/
def queries? : Store → Option Nat
  | .memory m => some m.queries
  | _ => none

/-- A change that a store may not have. -/
def change (s : Store) (changed : Option Store) (report : Report) : Report × Store :=
  match changed with
  | some s' => (report, s')
  | none => ({ result := .refused }, s)

end Store

/-- Take a step. -/
def Step.run (settings : Settings) (requestId : String) (store : Store) : Step → Report × Store
  | .request none => ({ result := .invalidRequest }, store)
  | .request (some r) =>
    let e := serve settings store requestId r
    (⟨.response e.response, e.events, e.statements⟩, e.store)
  | .authenticate c =>
    let a := LoginService.authenticate store c
    (⟨.checked a.result, a.events, a.statements⟩, a.store)
  | .find c =>
    let l := store.lookup c
    (⟨.found l.result, l.events, l.statements⟩, l.store)
  | .insert r => store.change (store.insert? r) { result := .done }
  | .setFailing failing => store.change (store.setFailing? failing) { result := .done }
  | .setServer server => store.change (store.setServer? server) { result := .done }
  | .close => store.change store.close? { result := .closed, events := [Pool.closeEvent] }

/-- Take steps one after another; each request has an identifier of its own. -/
def runSteps (settings : Settings) (store : Store) :
    List (String × Step) → List Report × Store
  | [] => ([], store)
  | (requestId, step) :: steps =>
    let (report, store) := step.run settings requestId store
    let (reports, store) := runSteps settings store steps
    (report :: reports, store)

end LoginService

import LoginService.Database.Connect
import LoginService.Drain
import LoginService.Settings.Load

/-!
# The life of the process

The process starts up in four steps: it loads its settings, connects to the database, reads the
address of its host and listens there. A step that fails ends the process, and no later step is
tried. Once it listens it serves until the server finishes or the drain window after a signal ends.
Then, and only then, it begins to close the connection pool, which gets as much time again. The
process fails after that only if the server failed.

Instants are counted in milliseconds from when the process listens.
-/

namespace LoginService

/-- The steps of starting up. -/
inductive StartStep where
  | loadSettings
  | connectDatabase
  | readHost
  | listen
  deriving DecidableEq, Repr

/-- Why the process fails. -/
inductive ProcessError where
  | settings (e : Settings.LoadError)
  | database (e : ConnectError)
  | host
  | listen (detail : String)
  | serving (detail : String)
  deriving DecidableEq, Repr

/-- A signal that asks the process to end. -/
inductive Signal where
  | interrupt
  | terminate
  deriving DecidableEq, Repr

/-- How the steps of starting up turn out. A step may depend on what the steps before it gave. -/
structure Startup where
  settings : Except Settings.LoadError Settings
  connection : DatabaseSettings → Connection
  host : String → Option IpAddress
  listener : SocketAddress → Except String Unit

/-- A process that listens. -/
structure Listening where
  settings : Settings
  pool : Pool
  address : SocketAddress

/-- How starting up turned out. -/
structure Started where
  /-- The steps that were tried, in order. -/
  tried : List StartStep
  result : Except ProcessError Listening
  events : List Event
  /-- Who a database server saw log in. -/
  login : Option DatabaseLogin := none

/-! ## The log -/

/-- The part of the service that speaks about the process. -/
def processTarget : String := "dept_login_server"

/-- What is logged when the settings are there. -/
def initEvent (s : Settings) : Event :=
  { level := .info, target := processTarget, message := "server init...",
    fields := [("version", .plain s.app.version)] }

/-- What is logged when the process listens. -/
def runningEvent (l : Listening) : Event :=
  { level := .info, target := processTarget,
    message := s!"server {l.settings.app.version} is running at {l.address.shown}",
    fields := [("version", .plain l.settings.app.version)] }

/-- The name of a signal in the log. -/
def Signal.name : Signal → String
  | .interrupt => "Ctrl+C"
  | .terminate => "SIGTERM"

/-- What is logged when a signal arrives. -/
def Signal.event (s : Signal) : Event :=
  { level := .info, target := processTarget,
    message := s!"Received {s.name}, shutting down gracefully..." }

/-- What is logged when the drain window ends before the server has finished. -/
def expiredEvent (s : ServerSettings) : Event :=
  { level := .warn, target := processTarget,
    message := "Requests still in flight after shutdown timeout, forcing exit",
    fields := [("timeout_secs", .number s.shutdownTimeoutSecs.toNat)] }

/-- What is logged when the pool is not closed in time. -/
def abandonedEvent : Event :=
  { level := .warn, target := processTarget,
    message := "Database pool did not close within shutdown timeout" }

/-! ## Starting up -/

namespace Startup

/-- Read the host and listen there. -/
def listenAt (s : Startup) (settings : Settings) (pool : Pool) (started : Started) : Started :=
  let started := { started with tried := started.tried ++ [StartStep.readHost] }
  match s.host settings.server.host with
  | none => { started with result := .error .host }
  | some ip =>
    let address : SocketAddress := ⟨ip, settings.server.port⟩
    let started := { started with tried := started.tried ++ [StartStep.listen] }
    match s.listener address with
    | .error detail => { started with result := .error (.listen detail) }
    | .ok () =>
      let listening : Listening := { settings, pool, address }
      { started with
        result := .ok listening
        events := started.events ++ [runningEvent listening] }

/-- Take the steps of starting up. The path is that of the file with settings. -/
def run (s : Startup) (path : String) : Started :=
  let loading := Settings.loadEvents path s.settings
  match s.settings with
  | .error e => { tried := [.loadSettings], result := .error (.settings e), events := loading }
  | .ok settings =>
    let c := s.connection settings.database
    let events := loading ++ initEvent settings :: c.events settings.database
    let tried := [.loadSettings, .connectDatabase]
    match c.result with
    | .error e => { tried, result := .error (.database e), events, login := c.login }
    | .ok pool =>
      s.listenAt settings pool { tried, result := .error .host, events, login := c.login }

end Startup

/-! ## Serving -/

/-- How serving turns out: when the server finishes and with what, when a signal arrives, and how
long closing the pool takes. What never happens is missing. -/
structure Serving where
  server : Option (Ready (Except String Unit))
  signal : Option (Ready Signal) := none
  order : RaceOrder := .serverFirst
  closing : Option Nat := some 0

/-- What happens after the process listens. -/
inductive Moment where
  | signalled
  | serverFinished
  /-- The server is given up. -/
  | serverDropped
  | closeBegun
  | closed
  /-- Closing the pool is given up. -/
  | closeAbandoned
  | exited
  deriving DecidableEq, Repr

/-- How the life of a process that listened went on. -/
structure Served where
  /-- What happened, with its instants, in order. -/
  moments : List (Nat × Moment)
  events : List Event
  result : Except ProcessError Unit

/-- How long draining may take, and closing the pool after it. -/
def ServerSettings.window (s : ServerSettings) : Nat :=
  s.shutdownTimeoutSecs.toNat * 1000

namespace Serving

/-- Wait for the server, at most for the drain window after a signal. -/
def drained (s : Serving) (window : Nat) : Option (Drained (Except String Unit)) :=
  drain s.order s.server (s.signal.map (·.instant)) window

/-- Close the pool from an instant on. -/
def closePool (s : Serving) (now window : Nat) : Drained Unit :=
  awaitWithin (s.closing.map fun taken => ⟨now + taken, ()⟩) now window

/-- The signal, if it arrives within some instants. -/
def signalWithin (s : Serving) (low high : Nat) : List (Ready Signal) :=
  s.signal.toList.filter fun r => low ≤ r.instant && r.instant ≤ high

/-- How the life of the process goes on from a point at which the server is done with. -/
def finish (s : Serving) (settings : ServerSettings) (d : Drained (Except String Unit)) : Served :=
  let c := s.closePool d.instant settings.window
  let early := s.signalWithin 0 d.instant
  let late := s.signalWithin (d.instant + 1) c.instant
  let mark (rs : List (Ready Signal)) := rs.map fun r => (r.instant, Moment.signalled)
  let tell (rs : List (Ready Signal)) := rs.map fun r => r.value.event
  { moments :=
      mark early ++
        [(d.instant, if d.output.isSome then .serverFinished else .serverDropped),
          (d.instant, .closeBegun)] ++
        mark late ++
        [(c.instant, if c.output.isSome then .closed else .closeAbandoned), (c.instant, .exited)]
    events :=
      tell early ++ (if d.output.isSome then [] else [expiredEvent settings]) ++ tell late ++
        [if c.output.isSome then Pool.closeEvent else abandonedEvent]
    result :=
      match d.output with
      | some (.error detail) => .error (.serving detail)
      | _ => .ok () }

/-- Serve until the end; nothing if there is none. -/
def run (s : Serving) (settings : ServerSettings) : Option Served :=
  (s.drained settings.window).map (s.finish settings)

end Serving

/-! ## The whole life -/

/-- The life of a process. -/
structure Life where
  tried : List StartStep
  moments : List (Nat × Moment) := []
  events : List Event
  result : Except ProcessError Unit
  login : Option DatabaseLogin

/-- Whether a process came to listen. -/
def Started.hasListened (s : Started) : Bool :=
  match s.result with
  | .ok _ => true
  | .error _ => false

/-- The life of a process that has started up, and serves if it listens; nothing if it runs
forever. -/
def Started.live (s : Started) (serving : Serving) : Option Life :=
  match s.result with
  | .error e =>
    some { tried := s.tried, events := s.events, result := .error e, login := s.login }
  | .ok l =>
    (serving.run l.settings.server).map fun served =>
      { tried := s.tried, moments := served.moments, events := s.events ++ served.events,
        result := served.result, login := s.login }

end LoginService

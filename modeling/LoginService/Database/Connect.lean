import LoginService.Database.Address
import LoginService.Database.Charset
import LoginService.Database.Pool
import LoginService.FileTree
import LoginService.Settings.Basic

/-!
# Connecting to a database

A pool is opened with its first connection, so an address that leads nowhere is noticed at once.
Faults are noticed in this order: those of the address, a pool that has no room for a connection or
no time to make one, an unknown character set, a socket that is not there, a server that cannot
offer the security that is wanted, and a server that refuses the user. Nobody listens behind hosts
and ports: attempts there are repeated until the time to connect is up.
-/

namespace LoginService

/-- The sockets at which database servers listen. -/
structure Network where
  sockets : List (Path × DatabaseServer) := []

/-- Why a connection cannot be made. -/
inductive ConnectError where
  | address (e : AddressError)
  | database (e : DatabaseError)
  deriving DecidableEq, Repr

/-- The wording of an error. -/
def ConnectError.message : ConnectError → String
  | .address e => e.message
  | .database e => e.message

/-- What an error wraps, outermost first. -/
def ConnectError.causes : ConnectError → List String
  | .address e => e.causes
  | .database e => e.inner?.toList

/-- Who logs in, and which database is asked for. -/
structure DatabaseLogin where
  user : String
  database : Option String
  deriving DecidableEq, Repr

/-- How an attempt to connect turns out. -/
structure Connection where
  result : Except ConnectError Pool
  /-- Who a server saw log in, if it came to that. -/
  login : Option DatabaseLogin := none

namespace Network

/-- How many bytes the path of a socket may have. -/
def maxSocketPath : Nat := 107

/-- The server behind a socket. -/
def serverAt (n : Network) (path : String) : Except DatabaseError DatabaseServer :=
  if path.isEmpty then .error (.io "Invalid argument (os error 22)")
  else if path.toList.contains '\x00' then
    .error (.io "paths must not contain interior null bytes")
  else if maxSocketPath < path.utf8ByteSize then
    .error (.io "path must be shorter than SUN_LEN")
  else
    match n.sockets.lookup (Path.ofString path) with
    | some server => .ok server
    | none => .error (.io "No such file or directory (os error 2)")

/-- The server at an address. -/
def serverOf (n : Network) (a : DatabaseAddress) : Except DatabaseError DatabaseServer :=
  match a.socket with
  | some path => n.serverAt path
  | none => .error .poolTimedOut

end Network

/-- Check the character set of a connection. -/
def DatabaseAddress.checkCharset (a : DatabaseAddress) : Except AddressError Unit :=
  if !Charset.isKnown a.charset then .error (.charset a.charset)
  else
    match a.collation with
    | some name => if Charset.isKnownCollation name then .ok () else .error (.collation name)
    | none => .ok ()

/-- The detail of a server that offers no security. -/
def noTls : String := "server does not support TLS"

/-- Log in at a server. -/
def logIn (server : DatabaseServer) (a : DatabaseAddress) : Connection :=
  let login : DatabaseLogin := ⟨a.user, a.database⟩
  match server.loginError with
  | some e => ⟨.error (.database (.server e)), some login⟩
  | none => ⟨.ok { server }, some login⟩

/-- Open a pool of connections. -/
def connect (n : Network) (s : DatabaseSettings) : Connection :=
  match DatabaseAddress.parse s.dsn with
  | .error e => ⟨.error (.address e), none⟩
  | .ok a =>
    if s.maxConnections = 0 ∨ s.acquireTimeoutSecs = 0 then ⟨.error (.database .poolTimedOut), none⟩
    else
      match a.checkCharset with
      | .error e => ⟨.error (.address e), none⟩
      | .ok () =>
        match n.serverOf a with
        | .error e => ⟨.error (.database e), none⟩
        | .ok server =>
          if a.tls.isRequired then ⟨.error (.database (.tls noTls)), none⟩ else logIn server a

/-! ## The log -/

/-- What is logged before a pool is opened. -/
def connectingEvent (s : DatabaseSettings) : Event :=
  { level := .info, target := "login_server::services::database", message := "Connecting to MySQL",
    fields := [("max_connections", .number s.maxConnections.toNat)] }

/-- What is logged when a pool has been opened. -/
def connectedEvent : Event :=
  { level := .info, target := "login_server::services::database",
    message := "MySQL connection established successfully" }

/-- What is logged when a pool is opened. -/
def Connection.events (c : Connection) (s : DatabaseSettings) : List Event :=
  match c.result with
  | .ok _ => [connectingEvent s, connectedEvent]
  | .error _ => [connectingEvent s]

end LoginService

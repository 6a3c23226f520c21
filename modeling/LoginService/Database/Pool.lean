import LoginService.Database.ResultSet
import LoginService.Log

/-!
# Lookups over a connection pool

A pool holds one connection to a database server. A lookup is one statement with the login name
and the password as its parameters. The statement is prepared when it is first used on a
connection, and the names of its columns are those that the server announced then. A connection may
be lost before, while or after a statement is answered; the next lookup opens another one, and no
lookup is made twice. Once a pool is closed, no statement reaches the server any more.
-/

namespace LoginService

/-- Selects accounts whose login name and stored password equal the two parameters, lowest id
first, without a limit. -/
def findByCredential : String :=
  "SELECT `id`, `department`, `purview`, `logname` " ++
    "FROM `loguser` WHERE `logname` = ? AND `logpassword` = ? ORDER BY `id`"

/-- A statement that a server was asked to execute. -/
structure Statement where
  sql : String
  params : List String
  deriving DecidableEq, Repr

/-- What a server has to answer lookups with. -/
inductive Table where
  /-- Accounts, which are compared with the parameters and sent ordered by id. -/
  | accounts (records : List UserRecord)
  /-- Rows that are sent whatever the parameters are. -/
  | rows (rows : List (List Cell))
  deriving Repr

/-- What keeps an answer from arriving as a whole. -/
inductive Disruption where
  /-- No connection is to be had, or it is lost before the statement is sent. -/
  | unreachable (e : DatabaseError)
  /-- The connection is lost after so many rows of the answer. -/
  | lost (rows : Nat) (e : DatabaseError)
  /-- The server gives up after so many rows of the answer, and the connection stays. -/
  | aborted (rows : Nat) (e : ServerError)
  deriving Repr

/-- A database server. -/
structure DatabaseServer where
  columns : List (String × ColumnType) :=
    [("id", .bigint), ("department", .varchar), ("purview", .varchar), ("logname", .varchar)]
  table : Table := .accounts []
  /-- Refuses everybody who logs in. -/
  loginError : Option ServerError := none
  /-- Refuses to prepare a statement. -/
  prepareError : Option ServerError := none
  /-- Refuses to execute a statement. -/
  queryError : Option ServerError := none
  /-- Keeps every query waiting until it is released. -/
  holds : Bool := false
  /-- Lets lookups down half-way. -/
  disruption : Option Disruption := none
  deriving Repr

/-- Accounts in the order of their ids; equal ids stay in their order. -/
def sortById (users : List LoginUser) : List LoginUser :=
  users.mergeSort (fun a b => a.id ≤ b.id)

/-- The accounts that have a credential, lowest id first. -/
def matching (records : List UserRecord) (c : Credential) : List LoginUser :=
  sortById ((records.filter (fun r => r.accepts c)).map UserRecord.toUser)

/-- An account as a row of the default columns. -/
def LoginUser.toRow (u : LoginUser) : List Cell :=
  [.integer u.id.toInt, .bytes (Text.Utf8.bytesOf u.department),
    .bytes (Text.Utf8.bytesOf u.purview), .bytes (Text.Utf8.bytesOf u.logname)]

/-- What a server sends for the parameters of a lookup. -/
def DatabaseServer.resultSet (s : DatabaseServer) (c : Credential) : ResultSet where
  types := s.columns.map (·.2)
  rows :=
    match s.table with
    | .accounts records => (matching records c).map LoginUser.toRow
    | .rows rows => rows

/-- What is read of a server's answer to the prepared lookup. Rows are read as they arrive, so of a
bad row and the end of an answer the one that comes first decides. -/
def DatabaseServer.answer (s : DatabaseServer) (names : List String) (c : Credential) :
    Except DatabaseError (List LoginUser) :=
  match s.queryError, s.disruption with
  | some e, _ => .error (.server e)
  | none, some (.lost rows e) => (s.resultSet c).usersUntil names rows e
  | none, some (.aborted rows e) => (s.resultSet c).usersUntil names rows (.server e)
  | none, _ => (s.resultSet c).users names

/-- A connection pool. -/
structure Pool where
  server : DatabaseServer
  /-- The column names of the prepared statement, once it is prepared. -/
  prepared : Option (List String) := none
  closed : Bool := false
  /-- Whether the connection is still there. -/
  connected : Bool := true
  deriving Repr

/-- What a lookup gives. -/
structure PoolLookup where
  result : Except DatabaseError (List LoginUser)
  pool : Pool
  /-- What the server was asked to execute. -/
  statements : List Statement

namespace Pool

/-- Close a pool. -/
def close (p : Pool) : Pool := { p with closed := true }

/-- The pool without its connection, and without what was prepared on it. -/
def disconnect (p : Pool) : Pool := { p with prepared := none, connected := false }

/-- Why no connection is to be had for a lookup. -/
def unreachable? (p : Pool) : Option DatabaseError :=
  match p.server.disruption with
  | some (.unreachable e) => some e
  | _ => if p.connected then none else p.server.loginError.map .server

/-- The pool after the prepared lookup has been executed. -/
def executed (p : Pool) (names : List String) : Pool :=
  match p.server.disruption with
  | some (.lost _ _) => p.disconnect
  | _ => { p with prepared := some names, connected := true }

/-- Execute the prepared lookup. -/
def execute (p : Pool) (names : List String) (c : Credential) : PoolLookup where
  result := p.server.answer names c
  pool := p.executed names
  statements := [⟨findByCredential, [c.loginName, c.password]⟩]

/-- Look a credential up over a connection. -/
def ask (p : Pool) (c : Credential) : PoolLookup :=
  match p.prepared with
  | some names => p.execute names c
  | none =>
    match p.server.prepareError with
    | some e => ⟨.error (.server e), { p with connected := true }, []⟩
    | none => p.execute (p.server.columns.map (·.1)) c

/-- Look a credential up. -/
def lookup (p : Pool) (c : Credential) : PoolLookup :=
  if p.closed then ⟨.error .poolClosed, p, []⟩
  else
    match p.unreachable? with
    | some e => ⟨.error e, p.disconnect, []⟩
    | none => p.ask c

/-- What a lookup logs. -/
def lookupEvent (result : Except DatabaseError (List LoginUser)) : Event :=
  match result with
  | .ok users =>
    { level := .info, target := "login_server::services::user_store",
      message := "DB query successful",
      fields := [("duration_ms", .elapsed), ("sql", .quoted findByCredential),
        ("rows", .number users.length)] }
  | .error e =>
    { level := .error, target := "login_server::services::user_store",
      message := "DB query error: " ++ e.message,
      fields := [("sql", .quoted findByCredential)] }

/-- What closing a pool logs. -/
def closeEvent : Event :=
  { level := .info, target := "login_server::services::database",
    message := "MySQL connection pool closed" }

end Pool

end LoginService

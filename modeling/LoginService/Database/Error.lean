import LoginService.Text.Quoted

/-!
# What can go wrong with the database

The errors that the database connection reports, with their wordings, and the errors of a lookup.
-/

namespace LoginService

/-- An error that the database server sends. -/
structure ServerError where
  code : Int
  state : String
  message : String
  deriving DecidableEq, Repr

/-- An error of the database connection. -/
inductive DatabaseError where
  /-- The connection cannot be set up as described. -/
  | configuration (detail : String)
  /-- The server refuses. -/
  | server (e : ServerError)
  /-- The connection fails. -/
  | io (detail : String)
  /-- The connection cannot be made secure. -/
  | tls (detail : String)
  /-- The server sends what it should not. -/
  | protocol (detail : String)
  | rowNotFound
  | columnNotFound (name : String)
  /-- The value of a column is not of the wanted type. -/
  | columnDecode (column : String) (detail : String)
  | poolTimedOut
  | poolClosed
  | workerCrashed
  deriving DecidableEq, Repr

/-- The wording of a server's error. -/
def ServerError.text (e : ServerError) : String :=
  s!"{e.code} ({e.state}): {e.message}"

/-- The wording of an error. -/
def DatabaseError.message : DatabaseError → String
  | .configuration detail => "error with configuration: " ++ detail
  | .server e => "error returned from database: " ++ e.text
  | .io detail => "error communicating with database: " ++ detail
  | .tls detail => "error occurred while attempting to establish a TLS connection: " ++ detail
  | .protocol detail => "encountered unexpected or invalid data: " ++ detail
  | .rowNotFound => "no rows returned by a query that expected to return at least one row"
  | .columnNotFound name => "no column found for name: " ++ name
  | .columnDecode column detail =>
    "error occurred while decoding column " ++ Text.quoted column ++ ": " ++ detail
  | .poolTimedOut => "pool timed out while waiting for an open connection"
  | .poolClosed => "attempted to acquire a connection on a closed pool"
  | .workerCrashed => "attempted to communicate with a crashed background worker"

/-- What an error wraps, if it wraps anything. -/
def DatabaseError.inner? : DatabaseError → Option String
  | .configuration detail | .io detail | .tls detail | .columnDecode _ detail => some detail
  | .server e => some e.text
  | _ => none

/-- An error of a lookup in the account store. -/
inductive StoreError where
  | query (e : DatabaseError)
  | unavailable (detail : String)
  deriving DecidableEq, Repr

/-- The wording of an error. -/
def StoreError.message : StoreError → String
  | .query e => "database query failed: " ++ e.message
  | .unavailable detail => "user store unavailable: " ++ detail

end LoginService

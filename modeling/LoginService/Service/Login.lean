import LoginService.Authentication
import LoginService.Failure
import LoginService.Http.Response
import LoginService.Login.Result
import LoginService.Settings.Basic

/-!
# The login endpoint

A body is decoded into a credential, the credential is checked, and the outcome is answered. A body
that is too long or cannot be decoded never reaches the store. Whatever goes wrong is logged here
once more before it is answered by a fixed body.
-/

namespace LoginService

open Http

/-- What serving a request gives. -/
structure Exchange where
  response : Response
  store : Store
  events : List Event := []
  statements : List Statement := []

namespace Login

/-- How many bytes a body may have. -/
def maxBodyLength : Nat := 2097152

/-- The media type of every answer but the one to a body that is too long. -/
def mediaType : String := "application/json"

/-- The answer to a body that is too long. -/
def tooLong : Response :=
  .withBody 413 "text/plain; charset=utf-8"
    (.text "Failed to buffer the request body: length limit exceeded".toList)

/-- The answer to a failure. -/
def ofFailure (f : Failure) : Response :=
  .withBody f.status mediaType (.text f.body.print)

/-- The status of a mismatch. -/
def mismatchStatus (s : AuthSettings) : UInt16 :=
  if s.rejectWithUnauthorized then 401 else 200

/-- The answer to a checked credential. -/
def ofOutcome (s : AuthSettings) : LoginOutcome → Response
  | .authenticated user =>
    .withBody 200 mediaType (.text (LoginResult.success (.ofUser user)).print)
  | .rejected =>
    .withBody (mismatchStatus s) mediaType (.text (LoginResult.failure .mismatch).print)

/-- What is logged about a failure. -/
def failureEvent (f : Failure) : Event :=
  { level := .error, target := "login_server::handlers::auth",
    message :=
      match f with
      | .decode e => "invalid request: " ++ e.message
      | .query e => "database query error: " ++ e.message
      | .encode detail => "response format to json error: " ++ detail }

/-- Check a credential and answer it. -/
def serveCredential (s : AuthSettings) (store : Store) (c : Credential) : Exchange :=
  let a := authenticate store c
  match a.result with
  | .ok outcome => ⟨ofOutcome s outcome, a.store, a.events, a.statements⟩
  | .error e =>
    ⟨ofFailure (.query e), a.store, a.events ++ [failureEvent (.query e)], a.statements⟩

/-- Answer a login. -/
def serve (s : AuthSettings) (store : Store) (body : List UInt8) : Exchange :=
  if maxBodyLength < body.length then { response := tooLong, store }
  else
    match LoginRequest.decode body with
    | .error e =>
      { response := ofFailure (.decode e), store, events := [failureEvent (.decode e)] }
    | .ok request => serveCredential s store request.toCredential

end Login

end LoginService

import LoginService.Database.Error
import LoginService.Login.Request

/-!
# Technical failures of a request

A body that cannot be decoded, a lookup that fails and an answer that cannot be written are
failures; a credential that no account has is not one. A client learns only which side is to
blame: the status, and one fixed text for each.
-/

namespace LoginService

open Json

/-- Why a request could not be served. -/
inductive Failure where
  | decode (e : Json.Error)
  | query (e : StoreError)
  | encode (detail : String)
  deriving Repr

/-- The body that a client receives. -/
structure ErrorBody where
  status : UInt16
  message : String
  deriving DecidableEq, Repr

namespace ErrorBody

/-- A body some of whose fields have been read. -/
structure Draft where
  status : Option Int := none
  message : Option String := none

/-- How a body is written as JSON. -/
def record : Record Draft ErrorBody where
  name := "ErrorBody"
  fields := [
    .int "status" .u16 Draft.status (fun x d => { d with status := some x }),
    .text "message" Draft.message (fun x d => { d with message := some x })]
  empty := {}
  build d :=
    match d with
    | ⟨none, _⟩ => .error "status"
    | ⟨_, none⟩ => .error "message"
    | ⟨some status, some message⟩ => .ok ⟨UInt16.ofNat status.toNat, message⟩
  optional := false

/-- The JSON text of a body. -/
def print (b : ErrorBody) : List Char :=
  printObject [("status", printInt b.status.toNat), ("message", printString b.message)]

end ErrorBody

namespace Failure

/-- The status that a failure is answered with. -/
def status : Failure → UInt16
  | .decode _ => 400
  | .query _ | .encode _ => 500

/-- What a client is told. -/
def publicMessage : Failure → String
  | .decode _ => "Your request is in a bad format."
  | .query _ | .encode _ => "We encountered an error while processing your request."

/-- What a client receives. -/
def body (f : Failure) : ErrorBody := ⟨f.status, f.publicMessage⟩

/-- The wording of a failure, for the log. -/
def message : Failure → String
  | .decode e => "invalid request: " ++ e.message
  | .query e => e.message
  | .encode detail => "response format to json error: " ++ detail

/-- The wording of the error that a failure wraps. -/
def source? : Failure → Option String
  | .decode e => some e.message
  | .query (.query e) => some e.message
  | .query (.unavailable _) | .encode _ => none

end Failure

end LoginService

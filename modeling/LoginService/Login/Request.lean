import LoginService.Account
import LoginService.Json.Embedded
import LoginService.Login.Keys

/-!
# Login requests

A request body is read in two steps: as a JSON value, in which embedded documents are resolved, and
from that value as the two fields. `null` stands for two empty texts, an object is read after
folding its keys, a list gives the fields in order, and anything else is refused. A missing field is
empty. What is wrong with the value, as opposed to its text, is refused without a position.
-/

namespace LoginService

open Json

/-- The body of a login request. -/
structure LoginRequest where
  loginName : String := ""
  password : String := ""
  deriving DecidableEq, Repr

namespace LoginRequest

/-- A request some of whose fields have been read. -/
structure Draft where
  loginName : Option String := none
  password : Option String := none

/-- How a request is written as JSON, with exact keys. -/
def record : Record Draft LoginRequest where
  name := "LoginRequest"
  fields := [
    .text "loginname" Draft.loginName (fun x d => { d with loginName := some x }),
    .text "password" Draft.password (fun x d => { d with password := some x })]
  empty := {}
  build d := .ok ⟨d.loginName.getD "", d.password.getD ""⟩
  optional := true

/-- The JSON text of a request. -/
def print (r : LoginRequest) : List Char :=
  printObject [("loginname", printString r.loginName), ("password", printString r.password)]

/-- Refuse a value for its shape. -/
def refuse {α : Type} (cause : Cause) : Except Error α :=
  .error ⟨cause, none⟩

/-- The text that a value is. -/
def textOf : Value → Except Error String
  | .text s => .ok s
  | v => refuse (.wrongType v.found "a string")

/-- The text of a field that may be missing. -/
def textOrEmpty : Option Value → Except Error String
  | none => .ok ""
  | some v => textOf v

/-- The fields among folded members, read in the order of their names. -/
def ofMembers (members : Login.Members) : Except Error LoginRequest := do
  let loginName ← textOrEmpty members["loginname"]?
  let password ← textOrEmpty members["password"]?
  return ⟨loginName, password⟩

/-- The fields as the items of a list. -/
def ofItems (items : List Value) : Except Error LoginRequest := do
  let loginName ← textOrEmpty items[0]?
  let password ← textOrEmpty items[1]?
  if 2 < items.length then refuse (.wrongLength items.length "fewer elements in array")
  else return ⟨loginName, password⟩

/-- The request that a value stands for. -/
def ofValue : Value → Except Error LoginRequest
  | .null => .ok {}
  | .object members => ofMembers (Login.foldKeys (Login.Members.ofList members))
  | .list items => ofItems items
  | v => refuse (.wrongType v.found record.title)

/-- The request that a body spells. -/
def decode (body : List UInt8) : Except Error LoginRequest := do
  ofValue (← Value.parse body)

/-- The credential that a request submits. -/
def toCredential (r : LoginRequest) : Credential :=
  ⟨r.loginName, r.password⟩

end LoginRequest

end LoginService

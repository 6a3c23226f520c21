import LoginService.Json.Record
import LoginService.Json.Printer

/-!
# Accounts and credentials

An account is a row of the account table. The service never writes it and never shows its
password: what leaves the store is the projection `LoginUser`. A credential is what a client
submits; it matches an account when both of its texts are equal to those of the account.
-/

namespace LoginService

open Json

/-- A login name and a password, as submitted. -/
structure Credential where
  loginName : String := ""
  password : String := ""
  deriving DecidableEq, Repr

/-- A full row of the account table. -/
structure UserRecord where
  id : Int64
  department : String
  purview : String
  logname : String
  logpassword : String
  deriving DecidableEq, Repr

/-- The columns of an account that a lookup reads. -/
structure LoginUser where
  id : Int64
  department : String
  purview : String
  logname : String
  deriving DecidableEq, Repr

namespace UserRecord

/-- Whether an account has the submitted name and password, compared exactly. -/
def accepts (r : UserRecord) (c : Credential) : Bool :=
  r.logname == c.loginName && r.logpassword == c.password

/-- An account without its password. -/
def toUser (r : UserRecord) : LoginUser :=
  ⟨r.id, r.department, r.purview, r.logname⟩

/-- An account some of whose fields have been read. -/
structure Draft where
  id : Option Int := none
  department : Option String := none
  purview : Option String := none
  logname : Option String := none
  logpassword : Option String := none

/-- How an account is written as JSON. -/
def record : Record Draft UserRecord where
  name := "UserRecord"
  fields := [
    .int "id" .i64 Draft.id (fun x d => { d with id := some x }),
    .text "department" Draft.department (fun x d => { d with department := some x }),
    .text "purview" Draft.purview (fun x d => { d with purview := some x }),
    .text "logname" Draft.logname (fun x d => { d with logname := some x }),
    .text "logpassword" Draft.logpassword (fun x d => { d with logpassword := some x })]
  empty := {}
  build d :=
    match d with
    | ⟨none, _, _, _, _⟩ => .error "id"
    | ⟨_, none, _, _, _⟩ => .error "department"
    | ⟨_, _, none, _, _⟩ => .error "purview"
    | ⟨_, _, _, none, _⟩ => .error "logname"
    | ⟨_, _, _, _, none⟩ => .error "logpassword"
    | ⟨some id, some department, some purview, some logname, some logpassword⟩ =>
      .ok ⟨Int64.ofInt id, department, purview, logname, logpassword⟩
  optional := false

/-- The JSON text of an account. -/
def print (r : UserRecord) : List Char :=
  printObject [
    ("id", printInt r.id.toInt),
    ("department", printString r.department),
    ("purview", printString r.purview),
    ("logname", printString r.logname),
    ("logpassword", printString r.logpassword)]

end UserRecord

namespace LoginUser

/-- A projection some of whose fields have been read. -/
structure Draft where
  id : Option Int := none
  department : Option String := none
  purview : Option String := none
  logname : Option String := none

/-- The fields of a projection. -/
def fields : List (Json.Field Draft) := [
  .int "id" .i64 Draft.id (fun x d => { d with id := some x }),
  .text "department" Draft.department (fun x d => { d with department := some x }),
  .text "purview" Draft.purview (fun x d => { d with purview := some x }),
  .text "logname" Draft.logname (fun x d => { d with logname := some x })]

/-- The projection made of a state, or the name of the first missing field. -/
def ofDraft (d : Draft) : Except String LoginUser :=
  match d with
  | ⟨none, _, _, _⟩ => .error "id"
  | ⟨_, none, _, _⟩ => .error "department"
  | ⟨_, _, none, _⟩ => .error "purview"
  | ⟨_, _, _, none⟩ => .error "logname"
  | ⟨some id, some department, some purview, some logname⟩ =>
    .ok ⟨Int64.ofInt id, department, purview, logname⟩

/-- How a projection is written as JSON. -/
def record : Record Draft LoginUser where
  name := "LoginUser"
  fields := fields
  empty := {}
  build := ofDraft
  optional := false

/-- The JSON text of a projection. -/
def print (u : LoginUser) : List Char :=
  printObject [
    ("id", printInt u.id.toInt),
    ("department", printString u.department),
    ("purview", printString u.purview),
    ("logname", printString u.logname)]

end LoginUser

end LoginService

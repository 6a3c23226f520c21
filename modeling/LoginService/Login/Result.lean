import LoginService.Account

/-!
# What a login answers

A successful login answers the account, a failed one an object with an error text. Nothing but
the shape of the body tells the two apart, so a result is read by trying both shapes.
-/

namespace LoginService

open Json

/-- The body of a successful login. -/
structure LoginResponse where
  id : Int64
  department : String
  purview : String
  logname : String
  deriving DecidableEq, Repr

/-- The body of a failed login. -/
structure LoginErrorResponse where
  error : String
  deriving DecidableEq, Repr

/-- The body of an answered login. -/
inductive LoginResult where
  | success (response : LoginResponse)
  | failure (response : LoginErrorResponse)
  deriving DecidableEq, Repr

/-- What a client is told when no account has the submitted name and password. -/
def mismatchMessage : String := "Loginname or password not correct."

/-- The whole number in a range that a value is. -/
def intOf? (range : IntRange) : Value → Option Int
  | .number (.whole i) => if range.holds i then some i else none
  | _ => none

/-- The text that a value is. -/
def stringOf? : Value → Option String
  | .text s => some s
  | _ => none

/-- The only value of a key among members, if the key occurs once. -/
def only? (key : String) (members : List (String × Value)) : Option Value :=
  match members.filter (fun m => m.1 == key) with
  | [(_, v)] => some v
  | _ => none

namespace LoginResponse

/-- The answer for an account. -/
def ofUser (u : LoginUser) : LoginResponse :=
  ⟨u.id, u.department, u.purview, u.logname⟩

/-- The account that an answer shows. -/
def toUser (r : LoginResponse) : LoginUser :=
  ⟨r.id, r.department, r.purview, r.logname⟩

/-- How an answer is written as JSON: like the account. -/
def record : Record LoginUser.Draft LoginResponse where
  name := "LoginResponse"
  fields := LoginUser.fields
  empty := {}
  build d := (LoginUser.ofDraft d).map ofUser
  optional := false

/-- The JSON text of an answer. -/
def print (r : LoginResponse) : List Char :=
  r.toUser.print

/-- The answer made of the values of its four fields. -/
def ofFields? (id department purview logname : Value) : Option LoginResponse := do
  let id ← intOf? .i64 id
  let department ← stringOf? department
  let purview ← stringOf? purview
  let logname ← stringOf? logname
  return ⟨Int64.ofInt id, department, purview, logname⟩

/-- The answer that a value is. -/
def ofValue? : Value → Option LoginResponse
  | .list [id, department, purview, logname] => ofFields? id department purview logname
  | .object members => do
    ofFields? (← only? "id" members) (← only? "department" members) (← only? "purview" members)
      (← only? "logname" members)
  | _ => none

end LoginResponse

namespace LoginErrorResponse

/-- The answer to a credential that no account has. -/
def mismatch : LoginErrorResponse := ⟨mismatchMessage⟩

/-- An answer whose field may have been read. -/
structure Draft where
  error : Option String := none

/-- How an answer is written as JSON. -/
def record : Record Draft LoginErrorResponse where
  name := "LoginErrorResponse"
  fields := [.text "error" Draft.error (fun x d => { d with error := some x })]
  empty := {}
  build d :=
    match d.error with
    | none => .error "error"
    | some e => .ok ⟨e⟩
  optional := false

/-- The JSON text of an answer. -/
def print (r : LoginErrorResponse) : List Char :=
  printObject [("error", printString r.error)]

/-- The answer that a value is. -/
def ofValue? : Value → Option LoginErrorResponse
  | .list [e] => (stringOf? e).map .mk
  | .object members => ((only? "error" members).bind stringOf?).map .mk
  | _ => none

end LoginErrorResponse

namespace LoginResult

/-- The JSON text of a result: that of its body. -/
def print : LoginResult → List Char
  | .success r => r.print
  | .failure r => r.print

/-- The result that a value is, success tried first. -/
def ofValue (v : Value) : Except Error LoginResult :=
  match LoginResponse.ofValue? v with
  | some r => .ok (.success r)
  | none =>
    match LoginErrorResponse.ofValue? v with
    | some r => .ok (.failure r)
    | none => .error ⟨.noVariant "LoginResult", none⟩

/-- The result that a document spells. A value of neither shape is refused before what follows
it is looked at. -/
def parse (bytes : List UInt8) : Except Error LoginResult :=
  let object := readObject (bytes.length + 1)
  match readValue object (bytes.length + 1) maxDepth (Cursor.start bytes) with
  | .error e => .error e
  | .ok (v, c) => ofValue v >>= fun r => finish r c

end LoginResult

end LoginService

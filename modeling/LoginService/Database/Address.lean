import LoginService.Net.Url
import LoginService.Text.Quoted

/-!
# Where a database is

The address of a database names the user who logs in, a password, a database, and, in its query,
how the connection is made. Whatever scheme an address has, it is read in the same way. Names in
the query that mean nothing are passed over; of two settings of one name the last one counts.
-/

namespace LoginService

open Text

/-- How much security a connection wants. -/
inductive TlsMode where
  | disabled
  | preferred
  | required
  | verifyAuthority
  | verifyIdentity
  deriving DecidableEq, Repr

/-- The mode of a name, whatever its letter case. -/
def TlsMode.ofName? (name : String) : Option TlsMode :=
  match lower name with
  | "disabled" => some .disabled
  | "preferred" => some .preferred
  | "required" => some .required
  | "verify_ca" => some .verifyAuthority
  | "verify_identity" => some .verifyIdentity
  | _ => none

/-- Whether a connection must be secure. -/
def TlsMode.isRequired : TlsMode → Bool
  | .disabled | .preferred => false
  | _ => true

/-- What is wrong with a count. -/
inductive CountError where
  | empty
  | badDigit
  | tooLarge
  deriving DecidableEq, Repr

/-- The wording of an error. -/
def CountError.message : CountError → String
  | .empty => "cannot parse integer from empty string"
  | .badDigit => "invalid digit found in string"
  | .tooLarge => "number too large to fit in target type"

/-- The greatest count. -/
def greatestCount : Nat := 18446744073709551615

/-- A count in decimal digits, with a plus sign or without. -/
def readCount (s : String) : Except CountError Nat :=
  match s.toList with
  | [] => .error .empty
  | ['+'] => .error .badDigit
  | c :: rest =>
    let digits := if c = '+' then rest else c :: rest
    if !digits.all isDigit then .error .badDigit
    else
      let n := decimalValue digits
      if n ≤ greatestCount then .ok n else .error .tooLarge

/-- What is wrong with the address of a database. -/
inductive AddressError where
  | url (e : UrlError)
  /-- Percent signs stand for what is no text. -/
  | text (fault : Utf8.Fault)
  | tlsMode (value : String)
  | count (e : CountError)
  | charset (name : String)
  | collation (name : String)
  deriving DecidableEq, Repr

/-- The wording of an error. -/
def AddressError.detail : AddressError → String
  | .url e => e.message
  | .text fault => fault.message
  | .tlsMode value => "unknown value " ++ quoted value ++ " for `ssl_mode`"
  | .count e => e.message
  | .charset name => "unsupported MySQL charset: " ++ name
  | .collation name => "unsupported MySQL collation: " ++ name

/-- An error about the configuration of a connection. -/
def configurationError (detail : String) : String :=
  "error with configuration: " ++ detail

/-- What an error wraps, outermost first. A mode of security is an error about the configuration by
itself. -/
def AddressError.causes : AddressError → List String
  | .tlsMode value =>
    let detail := (AddressError.tlsMode value).detail
    [configurationError detail, detail]
  | e => [e.detail]

/-- The wording of an error with all that it wraps. -/
def AddressError.message (e : AddressError) : String :=
  configurationError (e.causes.headD "")

/-- The address of a database. -/
structure DatabaseAddress where
  host : String := "localhost"
  port : UInt16 := 3306
  user : String := "root"
  password : Option String := none
  database : Option String := none
  /-- The path of a socket, which is used instead of the host. -/
  socket : Option String := none
  tls : TlsMode := .preferred
  charset : String := "utf8mb4"
  collation : Option String := none
  deriving DecidableEq, Repr

namespace DatabaseAddress

/-- A part of an address with its percent signs resolved. -/
def decoded (cs : List Char) : Except AddressError String :=
  (Percent.decodeText cs).mapError .text

/-- Apply a setting of the query. -/
def apply (a : DatabaseAddress) (setting : String × String) :
    Except AddressError DatabaseAddress :=
  let (name, value) := setting
  match name with
  | "sslmode" | "ssl-mode" =>
    match TlsMode.ofName? value with
    | some tls => .ok { a with tls }
    | none => .error (.tlsMode value)
  | "charset" => .ok { a with charset := value }
  | "collation" => .ok { a with collation := some value }
  | "statement-cache-capacity" =>
    match readCount value with
    | .ok _ => .ok a
    | .error e => .error (.count e)
  | "socket" => .ok { a with socket := some value }
  | _ => .ok a

/-- The address that an address with a scheme spells. -/
def ofUrl (url : Url) : Except AddressError DatabaseAddress := do
  let user ← decoded url.username
  let password ← url.password.mapM decoded
  let database ← decoded (url.path.dropWhile (· = '/'))
  let a : DatabaseAddress := { password }
  let a := { a with
    host := url.host.getD a.host
    port := url.port.getD a.port
    user := if user.isEmpty then a.user else user
    database := if database.isEmpty then none else some database }
  (Percent.queryPairs (url.query.getD [])).foldlM apply a

/-- The address that a string spells. -/
def parse (s : String) : Except AddressError DatabaseAddress :=
  match Url.parse s with
  | .ok url => ofUrl url
  | .error e => .error (.url e)

end DatabaseAddress

end LoginService

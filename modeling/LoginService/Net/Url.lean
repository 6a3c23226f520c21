import LoginService.Net.IpAddress
import LoginService.Net.Percent

/-!
# Addresses with a scheme

An address with a scheme names a host, a path on it and a query, and may name a user. A few schemes
belong to the web: after them slashes and backslashes mean the same, any number of them leads up to
the host, and the host is the name of a machine. After the scheme of files a host may be left out.
After all other schemes a host follows two slashes, and nearly every character may stand in it.

Parts are kept as they are written; percent signs in them are not resolved.
-/

namespace LoginService

open Text

/-- What is wrong with an address. -/
inductive UrlError where
  /-- There is no scheme. -/
  | relative
  | emptyHost
  | badPort
  | badV4
  | badV6
  /-- A character that may not stand in a host. -/
  | badHostCharacter
  /-- A host that cannot be the name of a machine. -/
  | badMachineName
  deriving DecidableEq, Repr

/-- The wording of an error. -/
def UrlError.message : UrlError → String
  | .relative => "relative URL without a base"
  | .emptyHost => "empty host"
  | .badPort => "invalid port number"
  | .badV4 => "invalid IPv4 address"
  | .badV6 => "invalid IPv6 address"
  | .badHostCharacter => "invalid domain character"
  | .badMachineName => "invalid international domain name"

/-- An address with a scheme. -/
structure Url where
  scheme : String
  username : List Char := []
  password : Option (List Char) := none
  host : Option String := none
  port : Option UInt16 := none
  path : List Char := []
  query : Option (List Char) := none
  deriving DecidableEq, Repr

namespace Url

/-- The families of schemes. -/
inductive Family where
  | web
  | file
  | plain
  deriving DecidableEq, Repr

/-- The family of a scheme. -/
def Family.of (scheme : String) : Family :=
  if scheme = "file" then .file
  else if ["http", "https", "ws", "wss", "ftp"].contains scheme then .web
  else .plain

/-- Whether a character separates the steps of a path. -/
def Family.isSlash (f : Family) (c : Char) : Bool :=
  c == '/' || (f != .plain && c == '\\')

/-! ## Cutting an address into parts -/

/-- An address without the spaces and control characters around it, and without the tabs and line
breaks in it. -/
def cleaned (cs : List Char) : List Char :=
  let trimmed := ((cs.dropWhile (· ≤ ' ')).reverse.dropWhile (· ≤ ' ')).reverse
  trimmed.filter fun c => c ≠ '\t' && c ≠ '\n' && c ≠ '\r'

/-- Whether a character may stand in a scheme. -/
def isSchemeChar (c : Char) : Bool :=
  isAsciiAlphanumeric c || c == '+' || c == '-' || c == '.'

/-- The scheme of an address in lower case, and what follows its colon. -/
def splitScheme? (cs : List Char) : Option (String × List Char) :=
  let scheme := cs.takeWhile isSchemeChar
  match scheme, cs.dropWhile isSchemeChar with
  | first :: _, ':' :: rest =>
    if isAsciiAlphanumeric first && !isDigit first then
      some (String.ofList (scheme.map lowerChar), rest)
    else none
  | _, _ => none

/-- The characters before and after the last one of a kind. -/
def splitAtLast? (sep : Char) : List Char → Option (List Char × List Char)
  | [] => none
  | c :: rest =>
    match splitAtLast? sep rest with
    | some (before, after) => some (c :: before, after)
    | none => if c = sep then some ([], rest) else none

/-- A host and what follows it. A colon ends a host unless it stands between brackets. -/
def splitHost (bracketed : Bool) : List Char → List Char × List Char
  | [] => ([], [])
  | c :: rest =>
    if c = ':' && !bracketed then ([], c :: rest)
    else
      let (host, after) := splitHost (c = '[' || (bracketed && c ≠ ']')) rest
      (c :: host, after)

/-! ## Hosts -/

/-- The address between the brackets of a host, if the host begins with one. -/
def bracketed? : List Char → Option (Except UrlError String)
  | '[' :: rest =>
    match rest.getLast? with
    | some ']' =>
      match IpAddress.parseV6? rest.dropLast with
      | some ip => some (.ok ("[" ++ ip.shown ++ "]"))
      | none => some (.error .badV6)
    | _ => some (.error .badV6)
  | _ => none

/-- Whether a character may not stand in a host of a plain scheme. -/
def isForbiddenInHost (c : Char) : Bool :=
  "\x00\t\n\r #/:<>?@[\\]^|".toList.contains c

/-- Whether a character may not stand in the name of a machine. -/
def isForbiddenInName (c : Char) : Bool :=
  c ≤ ' ' || c == '\x7F' || "%#/:<>?@[\\]^|".toList.contains c

/-- A number of an address of the old family, in base 8, 10 or 16 as its first characters say; the
inner value is missing when the number is too large. -/
def looseNumber? (digits : List Char) : Option (Option Nat) :=
  let (base, ds) :=
    match digits with
    | '0' :: x :: rest => if x = 'x' || x = 'X' then (16, rest) else (8, x :: rest)
    | _ => (10, digits)
  if digits.isEmpty then none
  else do
    let values ← ds.mapM hexDigit?
    if values.any (base ≤ ·) then none
    else
      let n := values.foldl (fun n d => base * n + d) 0
      return if n < 4294967296 then some n else none

/-- The parts of a machine name between points, without the empty one after a last point. -/
def nameParts (name : List Char) : List (List Char) :=
  let parts := splitOnChar '.' name
  if parts.getLast? = some [] then parts.dropLast else parts

/-- Whether the name of a machine can only be an address of the old family. -/
def endsInNumber (name : List Char) : Bool :=
  match (nameParts name).getLast? with
  | none => false
  | some part => (!part.isEmpty && part.all isDigit) || (looseNumber? part).isSome

/-- The numbers of an address of the old family, which may be fewer than four: the last one then
stands for the bytes that are left. -/
def isLooseAddress (name : List Char) : Bool :=
  match (nameParts name).mapM (fun part => (looseNumber? part).join) with
  | none => false
  | some numbers =>
    match numbers.getLast? with
    | none => false
    | some last =>
      numbers.length ≤ 4 && numbers.dropLast.all (· ≤ 255) &&
        last < Nat.pow 256 (5 - numbers.length)

/-- The name of a machine as a host. -/
def machineName (cs : List Char) : Except UrlError String :=
  match Percent.decodeText cs with
  | .error _ => .error .badMachineName
  | .ok name =>
    if name.toList.any isForbiddenInName then .error .badMachineName
    else if name.isEmpty then .error .emptyHost
    else if endsInNumber name.toList && !isLooseAddress name.toList then .error .badV4
    else .ok (lower name)

/-- The host that characters spell, if they spell any. -/
def readHost (f : Family) (cs : List Char) : Except UrlError (Option String) :=
  if cs.isEmpty then if f = .web then .error .emptyHost else .ok none
  else
    match bracketed? cs with
    | some host => host.map some
    | none =>
      if f = .plain then
        if cs.any isForbiddenInHost then .error .badHostCharacter
        else .ok (some (String.ofList cs))
      else (machineName cs).map some

/-! ## Ports -/

/-- The port after a host, and what follows its digits. A backslash may follow them. -/
def readPort (cs : List Char) : Except UrlError (Option UInt16 × List Char) :=
  match cs with
  | ':' :: rest =>
    let digits := rest.takeWhile isDigit
    let after := rest.dropWhile isDigit
    let port := decimalValue digits
    if 65535 < port || (after ≠ [] && after.head? ≠ some '\\') then .error .badPort
    else .ok (if digits.isEmpty then none else some (UInt16.ofNat port), after)
  | _ => .ok (none, cs)

/-! ## Paths -/

/-- Whether a step of a path stays where it is. -/
def staysHere (step : List Char) : Bool :=
  [".", "%2e"].contains (String.ofList (step.map lowerChar))

/-- Whether a step of a path leads up. -/
def leadsUp (step : List Char) : Bool :=
  ["..", ".%2e", "%2e.", "%2e%2e"].contains (String.ofList (step.map lowerChar))

/-- Steps without those that stay or lead up, last one first. After one of those at the end an empty
step is left. -/
def resolve (taken : List (List Char)) : List (List Char) → List (List Char)
  | [] => taken
  | [step] =>
    if leadsUp step then [] :: taken.drop 1
    else if staysHere step then [] :: taken
    else step :: taken
  | step :: steps =>
    if leadsUp step then resolve (taken.drop 1) steps
    else if staysHere step then resolve taken steps
    else resolve (step :: taken) steps

/-- A path that begins at the root. -/
def rootedPath (f : Family) (cs : List Char) : List Char :=
  let steps := splitOnChar '/' (cs.map fun c => if f.isSlash c then '/' else c)
  (resolve [] steps).reverse.flatMap fun step => '/' :: step

/-- The path after a host. -/
def pathAfterHost (f : Family) (cs : List Char) : List Char :=
  match cs with
  | [] => if f = .plain then [] else ['/']
  | c :: rest => if f.isSlash c then rootedPath f rest else rootedPath f (c :: rest)

/-! ## Addresses -/

/-- The user name and the password before a host. -/
def readUser (cs : List Char) : List Char × Option (List Char) :=
  let password := (cs.dropWhile (· ≠ ':')).drop 1
  (cs.takeWhile (· ≠ ':'), if password.isEmpty then none else some password)

/-- An address with a host. The flag says whether nothing follows the host and the path. -/
def readAuthority (scheme : String) (f : Family) (cs : List Char) (query : Option (List Char))
    (atEnd : Bool) : Except UrlError Url := do
  let authority := cs.takeWhile (fun c => !f.isSlash c)
  let path := cs.dropWhile (fun c => !f.isSlash c)
  let (user, location) := (splitAtLast? '@' authority).getD ([], authority)
  if authority ≠ [] ∧ user = [] ∧ location = [] ∧ ¬(path = [] ∧ atEnd) then .error .emptyHost
  let (username, password) := readUser user
  let (hostText, after) := splitHost false location
  let host ← readHost f hostText
  if host = none ∧ after ≠ [] then .error .emptyHost
  let (port, extra) ← readPort after
  if host = none ∧ (username ≠ [] ∨ password ≠ none) then .error .emptyHost
  return { scheme, username, password, host, port, path := pathAfterHost f (extra ++ path), query }

/-- An address of a file. -/
def readFileAddress (cs : List Char) (query : Option (List Char)) : Except UrlError Url := do
  let isSlash := Family.isSlash .file
  match cs with
  | a :: b :: rest =>
    if isSlash a && isSlash b then
      let host ← readHost .file (rest.takeWhile (fun c => !isSlash c))
      let path := pathAfterHost .file (rest.dropWhile (fun c => !isSlash c))
      return { scheme := "file", host, path, query }
    else return { scheme := "file", path := pathAfterHost .file cs, query }
  | _ => return { scheme := "file", path := pathAfterHost .file cs, query }

/-- The address that a string spells. What follows a number sign has no part in it. -/
def parse (s : String) : Except UrlError Url :=
  match splitScheme? (cleaned s.toList) with
  | none => .error .relative
  | some (scheme, rest) =>
    let f := Family.of scheme
    let named := rest.takeWhile (· ≠ '#')
    let cs := named.takeWhile (· ≠ '?')
    let atEnd := cs.length = rest.length
    let query := if named.contains '?' then some ((named.dropWhile (· ≠ '?')).drop 1) else none
    match f, cs with
    | .web, _ => readAuthority scheme f (cs.dropWhile f.isSlash) query atEnd
    | .file, _ => readFileAddress cs query
    | .plain, '/' :: '/' :: location => readAuthority scheme f location query atEnd
    | .plain, '/' :: path => .ok { scheme, path := rootedPath f path, query }
    | .plain, _ => .ok { scheme, path := cs, query }

end Url

end LoginService

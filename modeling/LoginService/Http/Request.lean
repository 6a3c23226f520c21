import LoginService.Http.Target

/-!
# Requests

A request as the service receives it. Methods and header names are tokens and keep their letter
case as far as it matters: methods are compared exactly.
-/

namespace LoginService.Http

open Text

/-- A version of the protocol. -/
inductive Version where
  | http09
  | http10
  | http11
  | http2
  | http3
  deriving DecidableEq, Repr

/-- How a version is written. -/
def Version.name : Version → String
  | .http09 => "HTTP/0.9"
  | .http10 => "HTTP/1.0"
  | .http11 => "HTTP/1.1"
  | .http2 => "HTTP/2.0"
  | .http3 => "HTTP/3.0"

/-- A request. -/
structure Request where
  method : String
  target : Target
  version : Version := .http11
  headers : List (String × String) := []
  body : List UInt8 := []
  deriving Repr

/-- The path that a request asks for. -/
def Request.path (r : Request) : String := r.target.path

/-- Whether a character may stand in a token. -/
def isTokenChar (c : Char) : Bool :=
  isAsciiAlphanumeric c || isOneOf "!#$%&'*+-.^_`|~" c

/-- Whether a string is a token. -/
def isToken (s : String) : Bool :=
  !s.isEmpty && s.toList.all isTokenChar

/-- Whether a character may stand in the value of a header. -/
def isHeaderValueChar (c : Char) : Bool :=
  c == '\t' || (0x20 ≤ c.toNat && c.toNat ≠ 0x7F)

/-- How many characters the name of a header may have. -/
def maxHeaderNameLength : Nat := 65535

/-- Whether a name and a value make a header. -/
def isHeader (header : String × String) : Bool :=
  isToken header.1 && header.1.length ≤ maxHeaderNameLength && header.2.toList.all isHeaderValueChar

/-- The request made of these parts, if they are well formed. -/
def Request.make? (method target : String) (version : Version)
    (headers : List (String × String)) (body : List UInt8) : Option Request :=
  match Target.parse? target with
  | some target =>
    if isToken method && headers.all isHeader then some ⟨method, target, version, headers, body⟩
    else none
  | none => none

end LoginService.Http

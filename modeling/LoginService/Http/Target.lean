import LoginService.Text.Ascii

/-!
# Request targets

What a request asks for: a path and a query. A target is a path, a single asterisk, an authority, or
an absolute address with a scheme and an authority before the path. The path of an authority is
empty, that of an absolute address at least a slash. A fragment is cut off.
-/

namespace LoginService.Http

open Text

/-- The part of a target that a request is answered by. -/
structure Target where
  path : String
  query : Option String
  deriving DecidableEq, Repr

/-- How many bytes a target may have. -/
def maxTargetLength : Nat := 65534

/-- How many characters a scheme may have. -/
def maxSchemeLength : Nat := 64

/-! ## Characters -/

/-- Whether a character is one of those in a string. -/
def isOneOf (set : String) (c : Char) : Bool :=
  set.toList.contains c

/-- Whether a character may stand in a path. Those beyond ASCII and those of JSON objects may. -/
def isPathChar (c : Char) : Bool :=
  isAsciiAlphanumeric c || isOneOf "!$%&'()*+,-./:;=@[\\]^_|~\"\x7b\x7d" c || 0x7F ≤ c.toNat

/-- Whether a character may stand in a query. -/
def isQueryChar (c : Char) : Bool :=
  0x21 ≤ c.toNat && !isOneOf "\"#<>" c

/-- Whether a character may stand in a scheme. -/
def isSchemeChar (c : Char) : Bool :=
  isAsciiAlphanumeric c || isOneOf "+-.~" c

/-- Whether a character may stand in an authority without further conditions. -/
def isAuthorityChar (c : Char) : Bool :=
  isAsciiAlphanumeric c || isOneOf "!$&'()*+,-.;=_~" c

/-! ## Path and query -/

/-- The characters before a fragment. -/
def beforeFragment (cs : List Char) : List Char :=
  cs.takeWhile (· ≠ '#')

/-- The path and the query of a target without fragment. -/
def ofPathAndQuery? (cs : List Char) : Option Target :=
  let path := cs.takeWhile (· ≠ '?')
  let query := (cs.dropWhile (· ≠ '?')).drop 1
  if !path.all isPathChar || !query.all isQueryChar then none
  else
    some ⟨if path.isEmpty then "/" else String.ofList path,
      if cs.contains '?' then some (String.ofList query) else none⟩

/-! ## Authority -/

/-- What has been seen of an authority. -/
structure AuthorityState where
  /-- Colons since the last user name or bracket. -/
  colons : Nat := 0
  /-- A bracket was opened. -/
  opened : Bool := false
  /-- A bracket was closed. -/
  closed : Bool := false
  /-- A percent sign since the last user name or bracket. -/
  percent : Bool := false
  /-- The last character was the sign between user and host. -/
  endsInAt : Bool := false

/-- Take one more character of an authority. -/
def AuthorityState.step? (s : AuthorityState) (c : Char) : Option AuthorityState :=
  let s := { s with endsInAt := false }
  if c = ':' then if 8 ≤ s.colons then none else some { s with colons := s.colons + 1 }
  else if c = '[' then if s.percent || s.opened then none else some { s with opened := true }
  else if c = ']' then
    if !s.opened || s.closed then none
    else some { s with closed := true, colons := 0, percent := false }
  else if c = '@' then some { s with colons := 0, percent := false, endsInAt := true }
  else if c = '%' then some { s with percent := true }
  else if isAuthorityChar c then some s
  else none

/-- Whether an authority may end here: brackets are paired, there is at most one port, no percent
sign stands in the host, and the host is not empty after a user name. -/
def AuthorityState.mayEnd (s : AuthorityState) : Bool :=
  s.opened == s.closed && s.colons ≤ 1 && !s.endsInAt && !s.percent

/-- Whether a list of characters is an authority. -/
def isAuthority (cs : List Char) : Bool :=
  match cs.foldlM AuthorityState.step? {} with
  | some s => s.mayEnd
  | none => false

/-- Whether a character ends an authority. -/
def endsAuthority (c : Char) : Bool := c == '/' || c == '?' || c == '#'

/-! ## Targets -/

/-- The characters after a scheme, if there is one; nothing also if the scheme is too long. -/
inductive SchemeSplit where
  | absent
  | tooLong
  | present (rest : List Char)

/-- Split a scheme off. -/
def splitScheme (cs : List Char) : SchemeSplit :=
  let scheme := cs.takeWhile isSchemeChar
  match cs.dropWhile isSchemeChar with
  | ':' :: '/' :: '/' :: rest => if maxSchemeLength < scheme.length then .tooLong else .present rest
  | _ => .absent

/-- The target that a string spells. -/
def Target.parse? (s : String) : Option Target :=
  let cs := s.toList
  if maxTargetLength < s.utf8ByteSize then none
  else
    match cs with
    | [] => none
    | '/' :: _ => ofPathAndQuery? (beforeFragment cs)
    | ['*'] => some ⟨"*", none⟩
    | _ =>
      match splitScheme cs with
      | .tooLong => none
      | .absent => if isAuthority cs then some ⟨"", none⟩ else none
      | .present rest =>
        let authority := rest.takeWhile (fun c => !endsAuthority c)
        if authority.isEmpty || !isAuthority authority then none
        else ofPathAndQuery? (beforeFragment (rest.dropWhile (fun c => !endsAuthority c)))

end LoginService.Http

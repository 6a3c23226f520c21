import LoginService.Text.Utf8

/-!
# Responses

A response is a status, headers and a body. The body is text, or one of the pages that are shipped
with the service, whose contents are not looked at. A response carries the length of its body where
that is known, and keeps it when the body itself is not sent.
-/

namespace LoginService.Http

/-- What a response carries. -/
inductive Body where
  | text (cs : List Char)
  /-- A page shipped with the service. -/
  | page (name : String)
  deriving DecidableEq, Repr

/-- A response. -/
structure Response where
  status : UInt16
  headers : List (String × String)
  body : Body
  deriving DecidableEq, Repr

/-- The length of a text body in bytes. -/
def lengthOf (cs : List Char) : Nat := (Text.Utf8.encode cs).length

/-- The header that tells the length of a body, where it is known. -/
def Body.lengthHeaders : Body → List (String × String)
  | .text cs => [("content-length", toString (lengthOf cs))]
  | .page _ => []

namespace Response

/-- A response with a body. -/
def withBody (status : UInt16) (contentType : String) (body : Body) : Response :=
  ⟨status, ("content-type", contentType) :: body.lengthHeaders, body⟩

/-- A response without a body. -/
def empty (status : UInt16) (headers : List (String × String) := []) : Response :=
  ⟨status, headers ++ (Body.text []).lengthHeaders, .text []⟩

/-- A response with more headers. -/
def addHeaders (r : Response) (headers : List (String × String)) : Response :=
  { r with headers := r.headers ++ headers }

/-- A response whose body is not sent. -/
def withoutBody (r : Response) : Response := { r with body := .text [] }

end Response

end LoginService.Http

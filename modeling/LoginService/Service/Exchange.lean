import LoginService.Http.Request
import LoginService.Service.Docs
import LoginService.Service.Login

/-!
# Serving a request

A request is answered by the route its path names, within two layers. The inner one lets pages from
anywhere use the service: it answers every `OPTIONS` request itself and decorates all other
responses. The outer one logs the request, last of all that is logged about it, and gives the
response an identifier of its own. Neither the headers of a request nor its query nor its version
has a part in the answer.
-/

namespace LoginService

open Http

/-! ## Routes -/

/-- What a path names. -/
inductive Route where
  | health
  | login
  /-- The address of the documentation without its slash. -/
  | docsEntry
  | docsDescription
  /-- A page of the documentation. -/
  | docsPage (name : String)
  | unknown
  deriving DecidableEq, Repr

/-- Where the documentation lives. -/
def docsAddress : String := "/v1/api-docs"

/-- The path of a page of the documentation, below the address of the documentation. -/
def docsTail? (path : String) : Option String :=
  let root := docsAddress.toList ++ ['/']
  if root.isPrefixOf path.toList then some (String.ofList (path.toList.drop root.length)) else none

/-- The route that a path names. Paths are compared as they are written. -/
def Route.of (path : String) : Route :=
  if path = "/healthcheck" then .health
  else if path = "/v1/login" then .login
  else if path = docsAddress then .docsEntry
  else if path = docsAddress ++ "/openapi.json" then .docsDescription
  else
    match docsTail? path with
    | some tail => .docsPage (Docs.pageOf tail)
    | none => .unknown

/-- The methods that a route allows. -/
def Route.allowed? : Route → Option String
  | .login => some "POST"
  | .unknown => none
  | _ => some "GET,HEAD"

/-- The header that lists the allowed methods. -/
def Route.allowHeaders (r : Route) : List (String × String) :=
  r.allowed?.toList.map fun methods => ("allow", methods)

/-- What there is to read at a route. -/
def Route.read (s : Settings) : Route → Response
  | .health => .withBody 200 "text/plain; charset=utf-8" (.text ("OK " ++ s.app.version).toList)
  | .docsEntry => .empty 303 [("location", docsAddress ++ "/")]
  | .docsDescription => .withBody 200 "application/json" (.text Docs.description)
  | .docsPage name =>
    match Docs.mediaType? name with
    | some type => .withBody 200 type (.page name)
    | none => .empty 404
  | .login | .unknown => .empty 404

/-- Answer a request by its route. -/
def serveRoute (s : Settings) (store : Store) (r : Request) : Exchange :=
  let route := Route.of r.path
  match route with
  | .login =>
    if r.method = "POST" then Login.serve s.auth store r.body
    else { response := .empty 405 route.allowHeaders, store }
  | .unknown => { response := .empty 404, store }
  | _ =>
    if r.method = "GET" then { response := route.read s, store }
    else if r.method = "HEAD" then { response := (route.read s).withoutBody, store }
    else { response := .empty 405 route.allowHeaders, store }

/-! ## Use from other origins -/

/-- The headers that every response carries. -/
def originHeaders : List (String × String) := [
  ("access-control-allow-origin", "*"),
  ("vary", "origin, access-control-request-method, access-control-request-headers")]

/-- The answer to the question what a page from elsewhere may do. -/
def preflight (route : Route) : Response :=
  (Response.empty 200 route.allowHeaders).addHeaders
    ([("access-control-allow-methods", "*"), ("access-control-allow-headers", "*")] ++
      originHeaders)

/-- Answer a request from any origin. -/
def serveOrigin (s : Settings) (store : Store) (r : Request) : Exchange :=
  if r.method = "OPTIONS" then { response := preflight (Route.of r.path), store }
  else
    let e := serveRoute s store r
    { e with
      response := e.response.addHeaders (("access-control-expose-headers", "*") :: originHeaders) }

/-! ## The access log -/

/-- The header that carries the identifier of a request. -/
def requestIdHeader : String := "x-request-id"

/-- What is logged about every request. -/
def accessEvent (r : Request) (status : UInt16) : Event :=
  { level := .info, target := "login_server::middleware::access_log",
    message := s!"{r.method} {r.path} {r.version.name} {status}",
    fields := [("status", .number status.toNat), ("duration_ms", .elapsed)] }

/-- Serve a request that is given an identifier. -/
def serve (s : Settings) (store : Store) (requestId : String) (r : Request) : Exchange :=
  let e := serveOrigin s store r
  { e with
    response := e.response.addHeaders [(requestIdHeader, requestId)]
    events := (e.events ++ [accessEvent r e.response.status]).map
      (fun event => event.within ⟨requestId, r.method, r.path⟩) }

end LoginService

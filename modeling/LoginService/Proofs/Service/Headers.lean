import LoginService.Proofs.Service.Interchange

/-!
# Headers

The headers of a request decide nothing. Its method, its path and its body are all that the layers
and the routes look at, so two requests that have these in common are answered alike and have the
store asked for the same, whatever their headers, versions and queries are
(`serve_ignores_headers`).

The headers of a response are given to it in layers. The routes set four headers of their own
(`routeHeaders`) and no others, wherever the answer comes from; the layers around them add what
every response carries. So each response carries one identifier, which is that of its own request,
and allows every origin once (`serve_decorated`).
-/

namespace LoginService

open Http

/-! ## Requests that are answered alike -/

variable (s : Settings) (store : Store)

theorem serveRoute_congr {r r' : Request} (method : r.method = r'.method)
    (path : r.path = r'.path) (body : r.body = r'.body) :
    serveRoute s store r = serveRoute s store r' := by
  unfold serveRoute
  rw [method, path, body]

theorem serveOrigin_congr {r r' : Request} (method : r.method = r'.method)
    (path : r.path = r'.path) (body : r.body = r'.body) :
    serveOrigin s store r = serveOrigin s store r' := by
  unfold serveOrigin
  rw [serveRoute_congr s store method path body, method, path]

theorem submitted?_congr {r r' : Request} (method : r.method = r'.method)
    (path : r.path = r'.path) (body : r.body = r'.body) : r.submitted? = r'.submitted? := by
  unfold Request.submitted?
  rw [method, path, body]

/-- **Headers, version and query decide nothing.** Two requests with the same method, the same path
and the same body are answered by the same status, the same headers apart from the identifier of
the request, and the same body, and the store is asked for the same credential, or for none, by
both of them. -/
theorem serve_ignores_headers (id id' : String) {r r' : Request} (method : r.method = r'.method)
    (path : r.path = r'.path) (body : r.body = r'.body) :
    SameApartFromId (serve s store id r).response (serve s store id' r').response ∧
      ∃ asked : Option Credential, r.submitted? = asked ∧ r'.submitted? = asked ∧
        Asked store asked (serve s store id r).store (serve s store id r).statements ∧
        Asked store asked (serve s store id' r').store (serve s store id' r').statements := by
  constructor
  · show SameApartFromId ((serveOrigin s store r).response.addHeaders [(requestIdHeader, id)])
      ((serveOrigin s store r').response.addHeaders [(requestIdHeader, id')])
    rw [serveOrigin_congr s store method path body]
    exact sameApartFromId_addId _ id id'
  · have hsubmitted := submitted?_congr method path body
    have hasked := Asked.serve s store id r
    rw [hsubmitted] at hasked
    exact ⟨r'.submitted?, hsubmitted, rfl, hasked, Asked.serve s store id' r'⟩

/-- A login in another version, with a query, and with headers that contradict its body, each other
and the identifier that it is given. -/
def noisyLogin : Request where
  method := "POST"
  target := ⟨"/v1/login", some "loginname=bob"⟩
  version := .http10
  headers := [("content-type", "text/plain"), ("content-length", "3"), ("Content-Length", "4"),
    ("origin", "null"), ("X-Request-Id", "first"), ("x-request-id", "third")]
  body := twinsLogin.body

theorem serve_ignores_headers_noisy :
    twinsLogin.method = noisyLogin.method ∧ twinsLogin.path = noisyLogin.path ∧
      twinsLogin.body = noisyLogin.body ∧
      SameApartFromId (serve {} (.memory twins) "first" twinsLogin).response
        (serve {} (.memory twins) "second" noisyLogin).response ∧
      ∃ asked : Option Credential, twinsLogin.submitted? = asked ∧ noisyLogin.submitted? = asked ∧
        Asked (.memory twins) asked (serve {} (.memory twins) "first" twinsLogin).store
          (serve {} (.memory twins) "first" twinsLogin).statements ∧
        Asked (.memory twins) asked (serve {} (.memory twins) "second" noisyLogin).store
          (serve {} (.memory twins) "second" noisyLogin).statements :=
  ⟨rfl, rfl, rfl, serve_ignores_headers {} (.memory twins) "first" "second" rfl rfl rfl⟩

/-! ## The values of a header -/

namespace Http

/-- The values that headers of a name have, in whatever letter case the name is written. -/
def valuesOf (name : String) (headers : List (String × String)) : List String :=
  (headers.filter fun header => Text.sameIgnoringCase header.1 name).map Prod.snd

variable {name : String}

theorem valuesOf_append (name : String) (headers headers' : List (String × String)) :
    valuesOf name (headers ++ headers') = valuesOf name headers ++ valuesOf name headers' := by
  unfold valuesOf
  rw [List.filter_append, List.map_append]

theorem valuesOf_eq_nil {headers : List (String × String)}
    (h : ∀ header ∈ headers, Text.sameIgnoringCase header.1 name = false) :
    valuesOf name headers = [] := by
  have hnone : (headers.filter fun header => Text.sameIgnoringCase header.1 name) = [] := by
    refine List.filter_eq_nil_iff.mpr ?_
    intro header hheader
    rw [h header hheader]
    exact Bool.false_ne_true
  unfold valuesOf
  rw [hnone, List.map_nil]

theorem valuesOf_singleton {other : String} (value : String)
    (h : Text.sameIgnoringCase other name = true) : valuesOf name [(other, value)] = [value] := by
  simp only [valuesOf, List.filter_cons, h, if_true, List.filter_nil, List.map_cons, List.map_nil]

end Http

/-! ## The headers of the routes -/

/-- The headers that the routes give their answers. -/
def routeHeaders : List String := ["allow", "content-length", "content-type", "location"]

/-- All headers are such as the routes give. -/
def FromRoute (headers : List (String × String)) : Prop :=
  ∀ header ∈ headers, header.1 ∈ routeHeaders

namespace FromRoute

variable {headers headers' : List (String × String)}

theorem nil : FromRoute [] := nofun

theorem singleton {name : String} (value : String) (h : name ∈ routeHeaders) :
    FromRoute [(name, value)] :=
  List.forall_mem_singleton.mpr h

theorem append (h : FromRoute headers) (h' : FromRoute headers') :
    FromRoute (headers ++ headers') :=
  List.forall_mem_append.mpr ⟨h, h'⟩

/-- Headers of routes leave the values of any other name to what is put after them. -/
theorem valuesOf_append (h : FromRoute headers) (added : List (String × String)) {name : String}
    (hname : ∀ other ∈ routeHeaders, Text.sameIgnoringCase other name = false) :
    valuesOf name (headers ++ added) = valuesOf name added := by
  have hnone : valuesOf name headers = [] := by
    refine valuesOf_eq_nil ?_
    intro header hheader
    exact hname header.1 (h header hheader)
  rw [Http.valuesOf_append, hnone, List.nil_append]

/-! Each way of answering, from the inside out. -/

theorem lengthHeaders (body : Body) : FromRoute body.lengthHeaders := by
  cases body with
  | text cs => exact singleton _ (by decide)
  | page name => exact nil

theorem withBody (status : UInt16) (contentType : String) (body : Body) :
    FromRoute (Response.withBody status contentType body).headers := by
  have htype : FromRoute [("content-type", contentType)] := singleton contentType (by decide)
  exact htype.append (lengthHeaders body)

theorem empty (status : UInt16) (h : FromRoute headers) :
    FromRoute (Response.empty status headers).headers :=
  h.append (lengthHeaders (.text []))

theorem allowHeaders (route : Route) : FromRoute route.allowHeaders := by
  unfold Route.allowHeaders
  cases route.allowed? with
  | none => exact nil
  | some methods => exact singleton methods (by decide)

theorem read (s : Settings) (route : Route) : FromRoute (route.read s).headers := by
  cases route with
  | health => exact withBody _ _ _
  | docsEntry => exact empty 303 (singleton _ (by decide))
  | docsDescription => exact withBody _ _ _
  | docsPage name =>
    unfold Route.read
    cases hpage : Docs.mediaType? name with
    | none =>
      simp only [hpage]
      exact empty 404 nil
    | some type =>
      simp only [hpage]
      exact withBody _ _ _
  | login => exact empty 404 nil
  | unknown => exact empty 404 nil

theorem ofLookup (settings : AuthSettings) (result : Except StoreError (List LoginUser)) :
    FromRoute (Login.ofLookup settings result).headers := by
  cases result with
  | error e => exact withBody _ _ _
  | ok users =>
    show FromRoute (Login.ofOutcome settings (.ofUsers users)).headers
    cases LoginOutcome.ofUsers users with
    | authenticated user => exact withBody _ _ _
    | rejected => exact withBody _ _ _

theorem login (settings : AuthSettings) (store : Store) (body : List UInt8) :
    FromRoute (Login.serve settings store body).response.headers := by
  unfold Login.serve
  by_cases hlong : Login.maxBodyLength < body.length
  · rw [if_pos hlong]
    exact withBody _ _ _
  · rw [if_neg hlong]
    cases LoginRequest.decode body with
    | error e => exact withBody _ _ _
    | ok q =>
      show FromRoute (Login.serveCredential settings store q.toCredential).response.headers
      rw [Login.serveCredential_response]
      exact ofLookup settings _

/-- **Whatever a request is answered by its route**, the route gives no other headers. -/
theorem serveRoute (s : Settings) (store : Store) (r : Request) :
    FromRoute (LoginService.serveRoute s store r).response.headers := by
  unfold LoginService.serveRoute
  cases hroute : Route.of r.path with
  | login =>
    dsimp only
    by_cases hpost : r.method = "POST"
    · rw [if_pos hpost]
      exact login s.auth store r.body
    · rw [if_neg hpost]
      exact empty 405 (allowHeaders _)
  | unknown => exact empty 404 nil
  | health | docsEntry | docsDescription | docsPage name =>
    dsimp only
    by_cases hget : r.method = "GET"
    · rw [if_pos hget]
      exact read s _
    · rw [if_neg hget]
      by_cases hhead : r.method = "HEAD"
      · rw [if_pos hhead]
        exact read s _
      · rw [if_neg hhead]
        exact empty 405 (allowHeaders _)

end FromRoute

/-! ## The headers of the layers -/

/-- The header that allows an origin. -/
def allowOriginHeader : String := "access-control-allow-origin"

/-- The layer for other origins adds all that is said about them, and no identifier, whether it
answers a request itself or has the route answer it. -/
theorem valuesOf_serveOrigin (r : Request) :
    valuesOf requestIdHeader (serveOrigin s store r).response.headers = [] ∧
      valuesOf allowOriginHeader (serveOrigin s store r).response.headers = ["*"] := by
  have hrequestId : ∀ other ∈ routeHeaders,
      Text.sameIgnoringCase other requestIdHeader = false := by
    decide
  have horigin : ∀ other ∈ routeHeaders, Text.sameIgnoringCase other allowOriginHeader = false := by
    decide
  unfold serveOrigin
  by_cases hoptions : r.method = "OPTIONS"
  · have hroute : FromRoute (Response.empty 200 (Route.of r.path).allowHeaders).headers :=
      .empty 200 (.allowHeaders _)
    rw [if_pos hoptions]
    constructor
    · exact (hroute.valuesOf_append _ hrequestId).trans (by decide)
    · exact (hroute.valuesOf_append _ horigin).trans (by decide)
  · have hroute : FromRoute (serveRoute s store r).response.headers := .serveRoute s store r
    rw [if_neg hoptions]
    constructor
    · exact (hroute.valuesOf_append _ hrequestId).trans (by decide)
    · exact (hroute.valuesOf_append _ horigin).trans (by decide)

/-- What every response carries. -/
structure Decorated (requestId : String) (r : Request) (e : Exchange) : Prop where
  /-- It carries one identifier, the one that its request was given. -/
  identifier : valuesOf requestIdHeader e.response.headers = [requestId]
  /-- All that is logged about the request, and that is something, is logged under this
  identifier. -/
  span : e.events ≠ [] ∧
    ∀ event ∈ e.events, event.span.map Span.requestId = some requestId
  /-- An identifier that the request brings along is not sent back. -/
  foreign : ∀ value ∈ valuesOf requestIdHeader r.headers, value ≠ requestId →
    value ∉ valuesOf requestIdHeader e.response.headers
  /-- It allows all origins, and says so once. -/
  origin : valuesOf allowOriginHeader e.response.headers = ["*"]

/-- **Every response is decorated.** -/
theorem serve_decorated (requestId : String) (r : Request) :
    Decorated requestId r (serve s store requestId r) := by
  obtain ⟨hnone, horigin⟩ := valuesOf_serveOrigin s store r
  have hheaders : (serve s store requestId r).response.headers
      = (serveOrigin s store r).response.headers ++ [(requestIdHeader, requestId)] := rfl
  have hidentifier : valuesOf requestIdHeader (serve s store requestId r).response.headers
      = [requestId] := by
    rw [hheaders, valuesOf_append, hnone, valuesOf_singleton requestId (by decide), List.nil_append]
  constructor
  case identifier => exact hidentifier
  case span =>
    constructor
    · simp only [serve, List.map_append, List.map_cons, List.map_nil]
      exact List.append_ne_nil_of_right_ne_nil _ (List.cons_ne_nil _ _)
    · refine List.forall_mem_map.mpr ?_
      intro event _
      rfl
  case foreign =>
    intro value _ hne hmem
    rw [hidentifier] at hmem
    exact hne (List.mem_singleton.mp hmem)
  case origin =>
    have hname : Text.sameIgnoringCase requestIdHeader allowOriginHeader = false := by decide
    have hother : valuesOf allowOriginHeader [(requestIdHeader, requestId)] = [] :=
      valuesOf_eq_nil (List.forall_mem_singleton.mpr hname)
    rw [hheaders, valuesOf_append, horigin, hother, List.append_nil]

end LoginService

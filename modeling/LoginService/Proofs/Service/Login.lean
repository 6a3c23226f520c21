import LoginService.Proofs.Authentication
import LoginService.Proofs.RoundTrip
import LoginService.Service.Exchange

/-!
# What a login is answered

A login passes the body limit, the decoder, the table, the choice among accounts of one credential
and the printer, and every one of them may decide the answer. `Login.Answers` lists the four
answers with the conditions under which each is given. The list is complete and no two of its
entries apply at once: the service answers a login with a status and a text if and only if the list
does.
-/

namespace LoginService

open Http

/-! ## The way to the endpoint -/

theorem Route.of_login : Route.of "/v1/login" = .login := by
  rw [Route.of, if_neg (by decide), if_pos rfl]

variable (s : Settings) (store : Store) (requestId : String) {r : Request}

theorem serveRoute_login (method : r.method = "POST") (path : r.path = "/v1/login") :
    serveRoute s store r = Login.serve s.auth store r.body := by
  simp only [serveRoute, path, Route.of_login, method, if_true]

theorem serveOrigin_of_post (method : r.method = "POST") :
    (serveOrigin s store r).response = (serveRoute s store r).response.addHeaders
      (("access-control-expose-headers", "*") :: originHeaders) := by
  have other : r.method ≠ "OPTIONS" := by
    rw [method]
    decide
  rw [serveOrigin, if_neg other]

/-- The layers around the endpoint add headers and leave its status and its body alone. -/
theorem serve_login_kept (method : r.method = "POST") (path : r.path = "/v1/login") :
    (serve s store requestId r).response.status = (Login.serve s.auth store r.body).response.status
    ∧ (serve s store requestId r).response.body
      = (Login.serve s.auth store r.body).response.body := by
  have layered := serveOrigin_of_post s store method
  rw [serveRoute_login s store method path] at layered
  simp only [serve, layered, Response.addHeaders, and_self]

/-! ## The four answers -/

namespace Login

/-- A status and a text answer a body over a table in memory. -/
inductive Answers (s : AuthSettings) (m : MemoryStore) (body : List UInt8) :
    UInt16 → List Char → Prop
  /-- The body cannot be decoded. -/
  | malformed {e : Json.Error} : LoginRequest.decode body = .error e →
      Answers s m body 400 (ErrorBody.print ⟨400, "Your request is in a bad format."⟩)
  /-- The table cannot be reached. -/
  | unavailable {q : LoginRequest} : LoginRequest.decode body = .ok q → m.failing = true →
      Answers s m body 500
        (ErrorBody.print ⟨500, "We encountered an error while processing your request."⟩)
  /-- A single record has both texts, and wins over all others that have them. -/
  | found {q : LoginRequest} {r : UserRecord} : LoginRequest.decode body = .ok q →
      m.failing = false → Wins m.records ⟨q.loginName, q.password⟩ r →
      Answers s m body 200 (LoginResponse.print ⟨r.id, r.department, r.purview, r.logname⟩)
  /-- No single record has both texts. -/
  | mismatched {q : LoginRequest} : LoginRequest.decode body = .ok q → m.failing = false →
      (∀ r ∈ m.records, ¬ (r.logname = q.loginName ∧ r.logpassword = q.password)) →
      Answers s m body (if s.rejectWithUnauthorized then 401 else 200)
        (LoginErrorResponse.print ⟨"Loginname or password not correct."⟩)

variable {settings : AuthSettings} {m : MemoryStore} {body : List UInt8}

theorem serve_of_error {store : Store} {e : Json.Error} (short : body.length ≤ maxBodyLength)
    (h : LoginRequest.decode body = .error e) :
    (serve settings store body).response = ofFailure (.decode e) := by
  rw [serve, if_neg (Nat.not_lt.mpr short)]
  simp only [h]

theorem serve_of_ok {store : Store} {q : LoginRequest} (short : body.length ≤ maxBodyLength)
    (h : LoginRequest.decode body = .ok q) :
    serve settings store body = serveCredential settings store ⟨q.loginName, q.password⟩ := by
  rw [serve, if_neg (Nat.not_lt.mpr short)]
  simp only [h]
  rfl

theorem serveCredential_of_error (settings : AuthSettings) {store : Store} {c : Credential}
    {e : StoreError} (h : (store.lookup c).result = .error e) :
    serveCredential settings store c =
      ⟨ofFailure (.query e), (store.lookup c).store,
        (store.lookup c).events ++ [failureEvent (.query e)], (store.lookup c).statements⟩ := by
  rw [serveCredential, authenticate_of_error h]

theorem serveCredential_of_ok (settings : AuthSettings) {store : Store} {c : Credential}
    {users : List LoginUser} (h : (store.lookup c).result = .ok users) :
    serveCredential settings store c =
      ⟨ofOutcome settings (.ofUsers users), (store.lookup c).store,
        (store.lookup c).events ++ severalAccounts c users, (store.lookup c).statements⟩ := by
  rw [serveCredential, authenticate_of_ok h]

theorem serveCredential_failing {c : Credential} (h : m.failing = true) :
    (serveCredential settings (.memory m) c).response
      = ofFailure (.query (.unavailable "connection refused")) := by
  have hlookup : ((Store.memory m).lookup c).result
      = .error (.unavailable "connection refused") := if_pos h
  rw [serveCredential_of_error settings hlookup]

theorem serveCredential_reachable {c : Credential} (h : m.failing = false) :
    (serveCredential settings (.memory m) c).response
      = ofOutcome settings (.ofUsers (matching m.records c)) := by
  have hlookup : ((Store.memory m).lookup c).result = .ok (matching m.records c) :=
    if_neg (Bool.eq_false_iff.mp h)
  rw [serveCredential_of_ok settings hlookup]

/-- What is listed is what is served. -/
theorem serve_of_answers {status : UInt16} {text : List Char}
    (short : body.length ≤ maxBodyLength) (h : Answers settings m body status text) :
    (serve settings (.memory m) body).response = .withBody status mediaType (.text text) := by
  cases h with
  | malformed decoded =>
    rw [serve_of_error short decoded]
    rfl
  | unavailable decoded failing =>
    rw [serve_of_ok short decoded, serveCredential_failing failing]
    rfl
  | found decoded reachable wins =>
    have winner := lowestId?_eq_some.mpr (lowest_of_wins wins)
    rw [serve_of_ok short decoded, serveCredential_reachable reachable]
    simp only [LoginOutcome.ofUsers, winner]
    rfl
  | @mismatched q decoded reachable none =>
    have empty : matching m.records ⟨q.loginName, q.password⟩ = [] :=
      matching_eq_nil.mpr fun r hr ok => none r hr (UserRecord.accepts_iff.mp ok)
    rw [serve_of_ok short decoded, serveCredential_reachable reachable]
    simp only [LoginOutcome.ofUsers, empty]
    rfl

/-- Some answer is listed for every body, every table and either setting. -/
theorem exists_answers (settings : AuthSettings) (m : MemoryStore) (body : List UInt8) :
    ∃ status text, Answers settings m body status text := by
  cases decoded : LoginRequest.decode body with
  | error e => exact ⟨_, _, .malformed decoded⟩
  | ok q =>
    cases reachable : m.failing with
    | true => exact ⟨_, _, .unavailable decoded reachable⟩
    | false =>
      by_cases some : ∃ r ∈ m.records, r.logname = q.loginName ∧ r.logpassword = q.password
      · obtain ⟨r, hr, texts⟩ := some
        obtain ⟨w, wins⟩ := exists_wins (c := ⟨q.loginName, q.password⟩) hr texts
        exact ⟨_, _, .found decoded reachable wins⟩
      · exact ⟨_, _, .mismatched decoded reachable fun r hr texts => some ⟨r, hr, texts⟩⟩

/-- A status and a text are served exactly if they are listed. -/
theorem serve_iff_answers {status : UInt16} {text : List Char}
    (short : body.length ≤ maxBodyLength) :
    ((serve settings (.memory m) body).response.status = status
      ∧ (serve settings (.memory m) body).response.body = .text text)
    ↔ Answers settings m body status text := by
  constructor
  · rintro ⟨rfl, sent⟩
    obtain ⟨status, text', listed⟩ := exists_answers settings m body
    rw [serve_of_answers short listed] at sent ⊢
    cases sent
    exact listed
  · intro listed
    rw [serve_of_answers short listed]
    exact ⟨rfl, rfl⟩

end Login

/-- What is listed for a login is what a client is answered. -/
theorem serve_login_of_answers {m : MemoryStore} (method : r.method = "POST")
    (path : r.path = "/v1/login") (short : r.body.length ≤ 2097152) {status : UInt16}
    {text : List Char} (h : Login.Answers s.auth m r.body status text) :
    (serve s (.memory m) requestId r).response.status = status ∧
      (serve s (.memory m) requestId r).response.body = .text text := by
  obtain ⟨kept, keptBody⟩ := serve_login_kept s (.memory m) requestId method path
  rw [kept, keptBody]
  exact (Login.serve_iff_answers short).mpr h

/-- **End-to-end login.**  A body within the limit that is posted to the login path over a table in
memory is answered with a status and a text exactly if these are the listed answer: the fixed body
of status 400 or 500, the account of the record that wins, or the fixed mismatch body, which alone
looks at the settings. -/
theorem serve_login_iff (s : Settings) (m : MemoryStore) (requestId : String) (r : Request)
    (method : r.method = "POST") (path : r.path = "/v1/login")
    (short : r.body.length ≤ 2097152) (status : UInt16) (text : List Char) :
    ((serve s (.memory m) requestId r).response.status = status
      ∧ (serve s (.memory m) requestId r).response.body = .text text)
    ↔ Login.Answers s.auth m r.body status text := by
  obtain ⟨kept, keptBody⟩ := serve_login_kept s (.memory m) requestId method path
  rw [kept, keptBody]
  exact Login.serve_iff_answers short

/-- A table in which one credential is that of three records, two of them with one id, and a
record with a lower id has half of it. -/
def twins : MemoryStore where
  records := [
    ⟨1, "hr", "user", "alice", "other"⟩,
    ⟨7, "sales", "admin", "alice", "secret"⟩,
    ⟨3, "eng", "admin", "alice", "secret"⟩,
    ⟨3, "ops", "user", "alice", "secret"⟩]

/-- A login with the credential of the twins. -/
def twinsLogin : Request where
  method := "POST"
  target := ⟨"/v1/login", none⟩
  body := Text.Utf8.encode (LoginRequest.print ⟨"alice", "secret"⟩)

theorem wins_twins :
    Wins twins.records ⟨"alice", "secret"⟩ ⟨3, "eng", "admin", "alice", "secret"⟩ :=
  ⟨twins.records.take 2, twins.records.drop 3, by decide, by decide, by decide, by decide⟩

theorem serve_login_iff_twins :
    twinsLogin.method = "POST" ∧ twinsLogin.path = "/v1/login" ∧ twinsLogin.body.length ≤ 2097152 ∧
      (serve {} (.memory twins) "request" twinsLogin).response.status = 200 ∧
      (serve {} (.memory twins) "request" twinsLogin).response.body
        = .text (LoginResponse.print ⟨3, "eng", "admin", "alice"⟩) := by
  have decoded : LoginRequest.decode twinsLogin.body = .ok ⟨"alice", "secret"⟩ :=
    LoginRequest.decode_print ⟨"alice", "secret"⟩
  have short : twinsLogin.body.length ≤ 2097152 := by decide
  have listed := Login.Answers.found (s := {}) decoded rfl wins_twins
  have path : twinsLogin.path = "/v1/login" := rfl
  have answered := (serve_login_iff {} twins "request" twinsLogin rfl path short _ _).mpr listed
  exact ⟨rfl, path, short, answered⟩

end LoginService

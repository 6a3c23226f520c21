import LoginService.Proofs.Service.Login

/-!
# Which requests ask the store

Of everything that can be requested only one thing has the store asked: a body within the limit that
is posted to the login path and can be decoded. `Request.submitted?` is the credential of such a
request. All other requests, among them every `OPTIONS` request, are answered without the store:
the same response and the same log for every store, and no store after them is another one.
-/

namespace LoginService

open Http

/-- The credential that a request has the store asked for, if it has it asked at all. -/
def Http.Request.submitted? (r : Request) : Option Credential :=
  if r.method = "POST" ∧ r.path = "/v1/login" ∧ r.body.length ≤ 2097152 then
    (LoginRequest.decode r.body).toOption.map LoginRequest.toCredential
  else none

theorem submitted?_eq_some {r : Request} {c : Credential} :
    r.submitted? = some c ↔
      r.method = "POST" ∧ r.path = "/v1/login" ∧ r.body.length ≤ 2097152 ∧
        ∃ q, LoginRequest.decode r.body = .ok q ∧ q.toCredential = c := by
  unfold Request.submitted?
  by_cases hr : r.method = "POST" ∧ r.path = "/v1/login" ∧ r.body.length ≤ 2097152
  · rw [if_pos hr]
    obtain ⟨hm, hp, hl⟩ := hr
    cases hd : LoginRequest.decode r.body with
    | error e => simp [Except.toOption]
    | ok q => simp [Except.toOption, hm, hp, hl]
  · rw [if_neg hr]
    constructor
    · intro h
      cases h
    · rintro ⟨hm, hp, hl, -⟩
      exact absurd ⟨hm, hp, hl⟩ hr

theorem submitted?_twinsLogin : twinsLogin.submitted? = some ⟨"alice", "secret"⟩ :=
  submitted?_eq_some.mpr ⟨rfl, rfl, by decide, ⟨"alice", "secret"⟩,
    LoginRequest.decode_print ⟨"alice", "secret"⟩, rfl⟩

/-! ## Requests that do not ask the store -/

/-- A way of answering that the store has no part in. -/
def StoreFree (answer : Store → Exchange) : Prop :=
  ∃ response events, ∀ store, answer store = { response, store, events }

namespace StoreFree

variable {answer : Store → Exchange}

theorem of_response (response : Response) : StoreFree fun store => { response, store } :=
  ⟨response, [], fun _ => rfl⟩

/-- What is done to the response and the events of an answer brings the store in no more than the
answer does. -/
theorem map (h : StoreFree answer) (f : Response → Response)
    (g : Response → List Event → List Event) :
    StoreFree fun store =>
      { answer store with
        response := f (answer store).response
        events := g (answer store).response (answer store).events } := by
  obtain ⟨response, events, hanswer⟩ := h
  refine ⟨f response, g response events, ?_⟩
  intro store
  simp only [hanswer]

/-- **An answer without the store** leaves every store as it is, sends no statement, and is the same
for any two stores. -/
theorem spec (h : StoreFree answer) (store other : Store) :
    (answer store).store = store ∧ (answer store).statements = [] ∧
      (answer store).response = (answer other).response ∧
      (answer store).events = (answer other).events := by
  obtain ⟨response, events, hanswer⟩ := h
  rw [hanswer store, hanswer other]
  exact ⟨rfl, rfl, rfl, rfl⟩

end StoreFree

theorem Route.of_eq_login {path : String} : Route.of path = .login ↔ path = "/v1/login" := by
  by_cases hp : path = "/v1/login"
  · rw [hp]
    exact iff_of_true Route.of_login rfl
  · refine iff_of_false ?_ hp
    intro h
    unfold Route.of at h
    rw [if_neg hp] at h
    repeat' split at h
    all_goals cases h

variable {s : Settings} {r : Request}

/-- A body that is too long or cannot be decoded is answered without the store. -/
theorem storeFree_login (settings : AuthSettings) {body : List UInt8}
    (h : body.length ≤ 2097152 → ∀ q, LoginRequest.decode body ≠ .ok q) :
    StoreFree fun store => Login.serve settings store body := by
  unfold Login.serve
  by_cases hl : Login.maxBodyLength < body.length
  · simp only [if_pos hl]
    exact StoreFree.of_response Login.tooLong
  · simp only [if_neg hl]
    cases hd : LoginRequest.decode body with
    | error e =>
      exact ⟨Login.ofFailure (.decode e), [Login.failureEvent (.decode e)], fun _ => rfl⟩
    | ok q => exact absurd hd (h (Nat.not_lt.mp hl) q)

/-- Apart from the login every route is answered without the store, and so is the login unless a
credential is posted to it. -/
theorem storeFree_serveRoute (h : r.submitted? = none) :
    StoreFree fun store => serveRoute s store r := by
  by_cases hp : r.path = "/v1/login"
  · by_cases hm : r.method = "POST"
    · have hroute : ∀ store, serveRoute s store r = Login.serve s.auth store r.body := by
        intro store
        exact serveRoute_login s store hm hp
      simp only [hroute]
      refine storeFree_login s.auth ?_
      intro hl q hq
      have hsome : r.submitted? = some q.toCredential :=
        submitted?_eq_some.mpr ⟨hm, hp, hl, q, hq, rfl⟩
      rw [h] at hsome
      cases hsome
    · simp only [serveRoute, Route.of_eq_login.mpr hp, if_neg hm]
      exact StoreFree.of_response _
  · have hroute : Route.of r.path ≠ .login := fun hlogin => hp (Route.of_eq_login.mp hlogin)
    unfold serveRoute
    cases hof : Route.of r.path with
    | login => exact absurd hof hroute
    | unknown => exact StoreFree.of_response _
    | health | docsEntry | docsDescription | docsPage name =>
      dsimp only
      repeat' split
      all_goals exact StoreFree.of_response _

theorem storeFree_serveOrigin (h : r.submitted? = none) :
    StoreFree fun store => serveOrigin s store r := by
  unfold serveOrigin
  by_cases ho : r.method = "OPTIONS"
  · simp only [if_pos ho]
    exact StoreFree.of_response _
  · simp only [if_neg ho]
    exact (storeFree_serveRoute h).map
      (fun response => response.addHeaders
        (("access-control-expose-headers", "*") :: originHeaders))
      (fun _ events => events)

/-- **A request without a credential is answered without the store.** -/
theorem storeFree_serve (h : r.submitted? = none) (requestId : String) :
    StoreFree fun store => serve s store requestId r := by
  have horigin : StoreFree fun store => serveOrigin s store r := storeFree_serveOrigin h
  exact horigin.map (fun response => response.addHeaders [(requestIdHeader, requestId)])
    (fun response events => (events ++ [accessEvent r response.status]).map
      (fun event => event.within ⟨requestId, r.method, r.path⟩))

/-! ## Requests that ask the store -/

/-- The layers around the endpoint of a request that is no `OPTIONS` request. -/
def Exchange.layered (requestId : String) (r : Request) (e : Exchange) : Exchange :=
  { e with
    response := (e.response.addHeaders
      (("access-control-expose-headers", "*") :: originHeaders)).addHeaders
        [(requestIdHeader, requestId)]
    events := (e.events ++ [accessEvent r e.response.status]).map
      (fun event => event.within ⟨requestId, r.method, r.path⟩) }

/-- **A submitted credential is checked once**, and what comes of that is what the layers are put
around. -/
theorem serve_of_submitted {c : Credential} (h : r.submitted? = some c) (store : Store)
    (requestId : String) :
    serve s store requestId r = (Login.serveCredential s.auth store c).layered requestId r := by
  obtain ⟨hm, hp, hl, q, hq, rfl⟩ := submitted?_eq_some.mp h
  have ho : r.method ≠ "OPTIONS" := by
    rw [hm]
    decide
  have hroute : serveRoute s store r = Login.serveCredential s.auth store q.toCredential := by
    rw [serveRoute_login s store hm hp]
    exact Login.serve_of_ok hl hq
  unfold serve serveOrigin
  rw [if_neg ho, hroute]
  rfl

/-! ## What the store is asked -/

/-- What a store has been asked, told by what has become of it and by the statements it has sent:
nothing, or one credential, once. -/
inductive Asked (store : Store) : Option Credential → Store → List Statement → Prop
  | nothing : Asked store none store []
  | credential (c : Credential) :
      Asked store (some c) (store.lookup c).store (store.lookup c).statements

namespace Asked

theorem statements_eq {store store' : Store} {asked : Option Credential}
    {statements : List Statement} (h : Asked store asked store' statements) :
    statements = asked.elim [] fun c => (store.lookup c).statements := by
  cases h with
  | nothing => rfl
  | credential c => rfl

variable (s : Settings) (store : Store) (c : Credential)

theorem authenticate :
    Asked store (some c) (authenticate store c).store (authenticate store c).statements := by
  unfold LoginService.authenticate
  cases hl : (store.lookup c).result with
  | ok users | error e =>
    simp only [hl]
    exact .credential c

theorem serveCredential (settings : AuthSettings) :
    Asked store (some c) (Login.serveCredential settings store c).store
      (Login.serveCredential settings store c).statements := by
  have hasked := Asked.authenticate store c
  unfold Login.serveCredential
  cases ha : (LoginService.authenticate store c).result with
  | ok outcome | error e =>
    simp only [ha]
    exact hasked

/-- **A request has the store asked for what it submits**, and for nothing if it submits nothing. -/
theorem serve (requestId : String) (r : Request) :
    Asked store r.submitted? (LoginService.serve s store requestId r).store
      (LoginService.serve s store requestId r).statements := by
  cases hc : r.submitted? with
  | none =>
    obtain ⟨hstore, hstatements, -, -⟩ := (storeFree_serve (s := s) hc requestId).spec store store
    rw [hstore, hstatements]
    exact .nothing
  | some c =>
    rw [serve_of_submitted hc]
    exact serveCredential store c s.auth

end Asked

end LoginService

import LoginService.Proofs.Service.Interchange
import LoginService.Proofs.Service.Log

/-!
# What a password leaves behind

A password decides which accounts a lookup gives, and nothing else. Two logins with one name and
any passwords are answered and logged alike if the store gives them the same
(`serve_noninterference`), and so is one login over two tables in memory whose passwords differ
without changing which records match. The reason is the same both times: what the endpoint answers
and what is logged on the way are functions of the submitted name and of the result of the lookup.
`LooksAlike` compares two runs as someone sees them who reads answers and logs. Identifiers differ
from one request to the next and are left out of the comparison; measured times are not part of an
event to begin with (`FieldValue.elapsed`).
-/

namespace LoginService

open Http

/-! ## Runs that look alike -/

/-- An event without the identifier of the request that it is logged in. -/
def Event.withoutId (e : Event) : Event :=
  { e with span := e.span.map fun span => { span with requestId := "" } }

/-- Two runs with the same answer and the same log, apart from the identifiers of the requests. -/
structure LooksAlike (e e' : Exchange) : Prop where
  answer : SameApartFromId e.response e'.response
  log : e.events.map Event.withoutId = e'.events.map Event.withoutId

theorem withoutId_within (events : List Event) (id method path : String) :
    (events.map fun event => event.within ⟨id, method, path⟩).map Event.withoutId
      = events.map fun event => event.within ⟨"", method, path⟩ := by
  rw [List.map_map]
  rfl

/-- The layers around the endpoint tell two runs apart by their identifiers only. -/
theorem looksAlike_layered {r r' : Request} (method : r.method = r'.method)
    (path : r.path = r'.path) (version : r.version = r'.version) {e e' : Exchange}
    (hresponse : e.response = e'.response) (hevents : e.events = e'.events) (id id' : String) :
    LooksAlike (e.layered id r) (e'.layered id' r') where
  answer := by
    simp only [Exchange.layered, hresponse]
    exact sameApartFromId_addId _ id id'
  log := by
    have haccess (status : UInt16) : accessEvent r status = accessEvent r' status := by
      unfold accessEvent
      rw [method, path, version]
    simp only [Exchange.layered, withoutId_within, hresponse, hevents, haccess, method, path]

/-! ## The same lookup -/

variable {a b store : Store} {c c' : Credential}

theorem mapError_injective {ε ε' α : Type} {f : ε → ε'} (hf : Function.Injective f) :
    Function.Injective (Except.mapError f : Except ε α → Except ε' α) := by
  intro x y h
  cases x with
  | ok value =>
    cases y with
    | ok value' =>
      cases h
      rfl
    | error e => cases h
  | error e =>
    cases y with
    | ok value => cases h
    | error e' => exact congrArg Except.error (hf (Except.error.inj h))

theorem StoreError.query_injective : Function.Injective StoreError.query :=
  fun _ _ h => StoreError.query.inj h

/-- A store logs about a lookup what came of it, and nothing that was looked up. -/
theorem events_lookup_congr (h : (store.lookup c).result = (store.lookup c').result) :
    (store.lookup c).events = (store.lookup c').events := by
  cases store with
  | memory m | fixed users => rfl
  | database p =>
    have hpool : (p.lookup c).result = (p.lookup c').result :=
      mapError_injective StoreError.query_injective h
    show [Pool.lookupEvent (p.lookup c).result] = [Pool.lookupEvent (p.lookup c').result]
    rw [hpool]

/-- The warning about several accounts shows the login name, and not the password. -/
theorem severalAccounts_congr (hname : c.loginName = c'.loginName) (users : List LoginUser) :
    severalAccounts c users = severalAccounts c' users := by
  unfold severalAccounts
  rw [hname]

/-- Checking two credentials of one login name gives the same and logs the same if their lookups
do. -/
theorem authenticate_congr (hname : c.loginName = c'.loginName)
    (hresult : (a.lookup c).result = (b.lookup c').result)
    (hevents : (a.lookup c).events = (b.lookup c').events) :
    (authenticate a c).result = (authenticate b c').result ∧
      (authenticate a c).events = (authenticate b c').events := by
  cases hb : (b.lookup c').result with
  | error e =>
    rw [hb] at hresult
    rw [authenticate_of_error hresult, authenticate_of_error hb]
    exact ⟨rfl, hevents⟩
  | ok users =>
    rw [hb] at hresult
    rw [authenticate_of_ok hresult, authenticate_of_ok hb, hevents, severalAccounts_congr hname]
    exact ⟨rfl, rfl⟩

theorem serveCredential_congr (s : AuthSettings)
    (hresult : (authenticate a c).result = (authenticate b c').result)
    (hevents : (authenticate a c).events = (authenticate b c').events) :
    (Login.serveCredential s a c).response = (Login.serveCredential s b c').response ∧
      (Login.serveCredential s a c).events = (Login.serveCredential s b c').events := by
  cases hb : (authenticate b c').result with
  | ok outcome | error e =>
    rw [hb] at hresult
    simp only [Login.serveCredential, hresult, hb, hevents, and_self]

/-- **Two submitted credentials** of one login name whose lookups give the same look alike. -/
theorem serve_looksAlike (s : Settings) {r r' : Request}
    (hc : r.submitted? = some c) (hc' : r'.submitted? = some c')
    (method : r.method = r'.method) (path : r.path = r'.path) (version : r.version = r'.version)
    (hname : c.loginName = c'.loginName)
    (hresult : (a.lookup c).result = (b.lookup c').result)
    (hevents : (a.lookup c).events = (b.lookup c').events) (id id' : String) :
    LooksAlike (serve s a id r) (serve s b id' r') := by
  obtain ⟨hresult, hevents⟩ := authenticate_congr hname hresult hevents
  obtain ⟨hresponse, hevents⟩ := serveCredential_congr s.auth hresult hevents
  rw [serve_of_submitted hc, serve_of_submitted hc']
  exact looksAlike_layered method path version hresponse hevents id id'

/-! ## Tables with other passwords -/

/-- Two records that differ in their passwords at most, and either both or neither of which have a
credential. -/
structure SameButPassword (c : Credential) (r r' : UserRecord) : Prop where
  user : r.toUser = r'.toUser
  accepts : r.accepts c = r'.accepts c

/-- Two tables that differ in passwords at most, and in which the same records have a credential.
How often they were asked does not matter. -/
structure SameButPasswords (c : Credential) (m m' : MemoryStore) : Prop where
  records : List.Forall₂ (SameButPassword c) m.records m'.records
  failing : m.failing = m'.failing

theorem matching_congr {records records' : List UserRecord}
    (h : List.Forall₂ (SameButPassword c) records records') :
    matching records c = matching records' c := by
  have husers : (records.filter fun r => r.accepts c).map UserRecord.toUser
      = (records'.filter fun r => r.accepts c).map UserRecord.toUser := by
    induction h with
    | nil => rfl
    | @cons r r' rest rest' hr hrest ih =>
      rw [List.filter_cons, List.filter_cons, hr.accepts]
      cases r'.accepts c with
      | true => exact congrArg₂ List.cons hr.user ih
      | false => exact ih
  unfold matching
  rw [husers]

theorem answer_congr {m m' : MemoryStore} (h : SameButPasswords c m m') :
    m.answer c = m'.answer c := by
  unfold MemoryStore.answer
  rw [h.failing, matching_congr h.records]

/-! ## Noninterference -/

/-- **Passwords do not show.** Two logins whose bodies decode to one login name and any passwords
look alike over every store that gives both lookups the same rows in the same order, or the same
error. And whoever looks up, checks or submits a credential over two tables in memory gets the same
answer and the same log from both, if they differ in stored passwords only and the same records have
the credential. -/
theorem serve_noninterference (s : Settings) (id id' : String) :
    (∀ (store : Store) (r : Request) (body body' : List UInt8) (q q' : LoginRequest),
      r.method = "POST" → r.path = "/v1/login" →
      body.length ≤ 2097152 → body'.length ≤ 2097152 →
      LoginRequest.decode body = .ok q → LoginRequest.decode body' = .ok q' →
      q.loginName = q'.loginName →
      (store.lookup q.toCredential).result = (store.lookup q'.toCredential).result →
      LooksAlike (serve s store id { r with body := body })
        (serve s store id' { r with body := body' })) ∧
    (∀ (m m' : MemoryStore) (c : Credential), SameButPasswords c m m' →
      m.answer c = m'.answer c ∧
      (authenticate (.memory m) c).result = (authenticate (.memory m') c).result ∧
      (authenticate (.memory m) c).events = (authenticate (.memory m') c).events ∧
      ∀ r : Request, r.submitted? = some c →
        LooksAlike (serve s (.memory m) id r) (serve s (.memory m') id' r)) := by
  constructor
  · intro store r body body' q q' method path short short' hq hq' hname hresult
    have hc : ({ r with body := body } : Request).submitted? = some q.toCredential :=
      submitted?_eq_some.mpr ⟨method, path, short, q, hq, rfl⟩
    have hc' : ({ r with body := body' } : Request).submitted? = some q'.toCredential :=
      submitted?_eq_some.mpr ⟨method, path, short', q', hq', rfl⟩
    exact serve_looksAlike s hc hc' rfl rfl rfl hname hresult (events_lookup_congr hresult) id id'
  · intro m m' c h
    have hanswer := answer_congr h
    have hresult : ((Store.memory m).lookup c).result = ((Store.memory m').lookup c).result :=
      hanswer
    obtain ⟨hchecked, hlogged⟩ := authenticate_congr (a := .memory m) (b := .memory m') (c := c) rfl
      hresult rfl
    refine ⟨hanswer, hchecked, hlogged, ?_⟩
    intro r hc
    exact serve_looksAlike s hc hc rfl rfl rfl rfl hresult rfl id id'

/-- The body of a login as a twin with a guessed password. -/
def guessedBody : List UInt8 := Text.Utf8.encode (LoginRequest.print ⟨"alice", "guess"⟩)

/-- The twins with other passwords, of which the same three are the one that is submitted. -/
def reworded : MemoryStore where
  records := [
    ⟨1, "hr", "user", "alice", "another"⟩,
    ⟨7, "sales", "admin", "alice", "secret"⟩,
    ⟨3, "eng", "admin", "alice", "secret"⟩,
    ⟨3, "ops", "user", "alice", "secret"⟩]

theorem sameButPasswords_reworded : SameButPasswords ⟨"alice", "secret"⟩ twins reworded where
  records := by
    refine .cons ⟨rfl, by decide⟩ (.cons ⟨rfl, rfl⟩ (.cons ⟨rfl, rfl⟩ (.cons ⟨rfl, rfl⟩ .nil)))
  failing := rfl

theorem serve_noninterference_guessed :
    twinsLogin.method = "POST" ∧ twinsLogin.path = "/v1/login" ∧
    twinsLogin.body.length ≤ 2097152 ∧ guessedBody.length ≤ 2097152 ∧
    LoginRequest.decode twinsLogin.body = .ok ⟨"alice", "secret"⟩ ∧
    LoginRequest.decode guessedBody = .ok ⟨"alice", "guess"⟩ ∧
    ((Store.database shufflingPool).lookup ⟨"alice", "secret"⟩).result
      = ((Store.database shufflingPool).lookup ⟨"alice", "guess"⟩).result ∧
    LooksAlike (serve {} (.database shufflingPool) "first" twinsLogin)
      (serve {} (.database shufflingPool) "second" { twinsLogin with body := guessedBody }) ∧
    SameButPasswords ⟨"alice", "secret"⟩ twins reworded ∧
    LooksAlike (serve {} (.memory twins) "first" twinsLogin)
      (serve {} (.memory reworded) "second" twinsLogin) := by
  obtain ⟨hstore, htables⟩ := serve_noninterference {} "first" "second"
  have hdecoded := LoginRequest.decode_print ⟨"alice", "secret"⟩
  have hguessed := LoginRequest.decode_print ⟨"alice", "guess"⟩
  have hshort : twinsLogin.body.length ≤ 2097152 := by decide
  have hshort' : guessedBody.length ≤ 2097152 := by decide
  obtain ⟨-, -, -, hreworded⟩ := htables twins reworded _ sameButPasswords_reworded
  refine ⟨rfl, rfl, hshort, hshort', hdecoded, hguessed, rfl, ?_, sameButPasswords_reworded,
    hreworded twinsLogin submitted?_twinsLogin⟩
  exact hstore (.database shufflingPool) twinsLogin twinsLogin.body guessedBody _ _ rfl rfl hshort
    hshort' hdecoded hguessed rfl rfl

end LoginService

import LoginService.Proofs.Authentication.Outcome
import LoginService.Proofs.Database.ResultSet

/-!
# Lookups in a database are all or nothing

A lookup gives accounts exactly if the answer of the server has arrived as a whole and every row of
it shows an account; then it gives these accounts, one for each row (`lookup_ok_iff`). On the way
there the pool may be closed, no connection may be had, the statement may not be prepared or not be
executed, and an answer that has begun may break off after any of its rows. All of this gives an
error, and so does a row that shows no account, wherever it stands.
-/

namespace LoginService

open Http

variable {p : Pool} {names : List String} {c : Credential} {users : List LoginUser}

/-! ## What arrives -/

/-- The names of the columns that were announced when the statement was prepared on the connection,
or that are announced now. -/
def Pool.Announces (p : Pool) (names : List String) : Prop :=
  p.prepared = some names ∨
    p.prepared = none ∧ p.server.prepareError = none ∧ p.server.columns.map (·.1) = names

/-- The result set that a server sends for a credential arrives as a whole, under these names of its
columns. -/
structure Pool.Arrives (p : Pool) (c : Credential) (names : List String) (r : ResultSet) :
    Prop where
  opened : p.closed = false
  connects : p.connected = true ∨ p.server.loginError = none
  announced : p.Announces names
  executed : p.server.queryError = none
  /-- Nothing keeps the connection or the answer from coming, and nothing ends them early. -/
  undisturbed : p.server.disruption = none
  sent : p.server.resultSet c = r

/-- A result set arrives as a whole, and its rows show these accounts, one each. -/
def Pool.Gives (p : Pool) (c : Credential) (users : List LoginUser) : Prop :=
  ∃ names r, p.Arrives c names r ∧ List.Forall₂ (Shows names r.types) r.rows users

theorem unreachable?_eq_none (h : p.server.disruption = none) :
    p.unreachable? = none ↔ p.connected = true ∨ p.server.loginError = none := by
  unfold Pool.unreachable?
  rw [h]
  cases p.connected <;> simp

/-- An answer is read if the server sends it to the end and every row of it shows an account. -/
theorem answer_ok_iff (hreachable : p.unreachable? = none) :
    p.server.answer names c = .ok users ↔
      p.server.queryError = none ∧ p.server.disruption = none ∧
        List.Forall₂ (Shows names (p.server.resultSet c).types) (p.server.resultSet c).rows
          users := by
  rw [← readRows_ok_iff]
  unfold DatabaseServer.answer
  cases hquery : p.server.queryError with
  | some e => exact iff_of_false nofun nofun
  | none =>
    cases hdisruption : p.server.disruption with
    | none => exact ⟨fun h => ⟨rfl, rfl, h⟩, fun h => h.2.2⟩
    | some d =>
      refine iff_of_false ?_ nofun
      cases d with
      | unreachable e =>
        unfold Pool.unreachable? at hreachable
        rw [hdisruption] at hreachable
        cases hreachable
      | lost rows e => exact usersUntil_ne_ok
      | aborted rows e => exact usersUntil_ne_ok

/-- A connection gives what is read under the names that were announced on it. -/
theorem ask_ok_iff :
    (p.ask c).result = .ok users ↔
      ∃ names, p.Announces names ∧ p.server.answer names c = .ok users := by
  unfold Pool.ask Pool.Announces
  cases hprepared : p.prepared with
  | some names =>
    constructor
    · intro h
      exact ⟨names, .inl rfl, h⟩
    · rintro ⟨names', hnames | ⟨hnone, -⟩, h⟩
      · cases hnames
        exact h
      · cases hnone
  | none =>
    cases hprepare : p.server.prepareError with
    | some e =>
      refine iff_of_false nofun ?_
      rintro ⟨names, hnames | ⟨-, hnone, -⟩, -⟩
      · cases hnames
      · cases hnone
    | none =>
      constructor
      · intro h
        exact ⟨_, .inr ⟨rfl, rfl, rfl⟩, h⟩
      · rintro ⟨names, hnames | ⟨-, -, rfl⟩, h⟩
        · cases hnames
        · exact h

/-- **Whole answers are read, and no others.** -/
theorem lookup_ok_iff : (p.lookup c).result = .ok users ↔ p.Gives c users := by
  unfold Pool.lookup
  by_cases hclosed : p.closed = true
  · rw [if_pos hclosed]
    refine iff_of_false nofun ?_
    rintro ⟨names, r, harrives, -⟩
    rw [harrives.opened] at hclosed
    cases hclosed
  · rw [if_neg hclosed]
    cases hreachable : p.unreachable? with
    | some e =>
      refine iff_of_false nofun ?_
      rintro ⟨names, r, harrives, -⟩
      rw [(unreachable?_eq_none harrives.undisturbed).mpr harrives.connects] at hreachable
      cases hreachable
    | none =>
      refine ask_ok_iff.trans ?_
      constructor
      · rintro ⟨names, hnames, hanswer⟩
        obtain ⟨hexecuted, hundisturbed, hrows⟩ := (answer_ok_iff hreachable).mp hanswer
        exact ⟨names, _, ⟨Bool.eq_false_iff.mpr hclosed,
          (unreachable?_eq_none hundisturbed).mp hreachable, hnames, hexecuted, hundisturbed, rfl⟩,
          hrows⟩
      · rintro ⟨names, r, harrives, hrows⟩
        cases harrives.sent
        exact ⟨names, harrives.announced,
          (answer_ok_iff hreachable).mpr ⟨harrives.executed, harrives.undisturbed, hrows⟩⟩

/-! ## What a lookup gives and logs -/

/-- A lookup that gives all that a server has to give, or nothing of it, and says which. -/
structure AllOrNothing (p : Pool) (c : Credential) (l : Lookup) : Prop where
  whole : ∀ users, l.result = .ok users ↔ p.Gives c users
  /-- The number of rows is logged once. -/
  counted : ∀ users, p.Gives c users → ∃ event, l.events = [event] ∧ event.level = .info ∧
    ("rows", .number users.length) ∈ event.fields
  /-- If there is nothing to give, the error is logged once. -/
  failed : (∀ users, ¬ p.Gives c users) → ∃ e event, l.result = .error (.query e) ∧
    l.events = [event] ∧ event.level = .error ∧ event.message = "DB query error: " ++ e.message

theorem allOrNothing_lookup (p : Pool) (c : Credential) :
    AllOrNothing p c ((Store.database p).lookup c) := by
  have hresult : ((Store.database p).lookup c).result = (p.lookup c).result.mapError .query := rfl
  have hevents : ((Store.database p).lookup c).events
      = [Pool.lookupEvent (p.lookup c).result] := rfl
  constructor
  case whole =>
    intro users
    rw [hresult, ← lookup_ok_iff]
    cases (p.lookup c).result with
    | ok users' => simp only [Except.mapError, Except.ok.injEq]
    | error e => exact iff_of_false nofun nofun
  case counted =>
    intro users hgives
    rw [hevents, lookup_ok_iff.mpr hgives]
    exact ⟨_, rfl, rfl, by simp [Pool.lookupEvent]⟩
  case failed =>
    intro hnone
    cases hlookup : (p.lookup c).result with
    | ok users => exact absurd (lookup_ok_iff.mp hlookup) (hnone users)
    | error e =>
      rw [hresult, hevents, hlookup]
      exact ⟨e, _, rfl, rfl, rfl, rfl⟩

/-! ## Logins over a database -/

/-- The answer to a login over a database. It is an account or a mismatch by all of the accounts
that the server gives, and a failure if the server gives none. -/
structure AnsweredWhole (s : AuthSettings) (p : Pool) (c : Credential) (response : Response) :
    Prop where
  found : ∀ users u, p.Gives c users → Lowest users u → response.status = 200 ∧
    response.body = .text (LoginResponse.print ⟨u.id, u.department, u.purview, u.logname⟩)
  mismatched : p.Gives c [] → response.status = (if s.rejectWithUnauthorized then 401 else 200) ∧
    response.body = .text (LoginErrorResponse.print ⟨"Loginname or password not correct."⟩)
  failed : (∀ users, ¬ p.Gives c users) → response.status = 500 ∧
    response.body = .text
      (ErrorBody.print ⟨500, "We encountered an error while processing your request."⟩)

theorem answeredWhole_serve (s : Settings) (p : Pool) (requestId : String) {r : Request}
    (h : r.submitted? = some c) :
    AnsweredWhole s.auth p c (serve s (.database p) requestId r).response := by
  have hlookup := allOrNothing_lookup p c
  -- the layers around the endpoint add headers to what the lookup is answered
  have hkept (response : Response)
      (hl : Login.ofLookup s.auth ((Store.database p).lookup c).result = response) :
      (serve s (.database p) requestId r).response.status = response.status ∧
        (serve s (.database p) requestId r).response.body = response.body := by
    rw [serve_of_submitted h, ← hl, ← Login.serveCredential_response]
    exact ⟨rfl, rfl⟩
  constructor
  case found =>
    intro users u hgives hlowest
    refine hkept (.withBody 200 Login.mediaType (.text (LoginResponse.print ⟨_, _, _, _⟩))) ?_
    rw [(hlookup.whole users).mpr hgives]
    simp only [Login.ofLookup, ofUsers_eq_authenticated.mpr hlowest]
    rfl
  case mismatched =>
    intro hgives
    refine hkept (.withBody (if s.auth.rejectWithUnauthorized then 401 else 200) Login.mediaType
      (.text (LoginErrorResponse.print ⟨"Loginname or password not correct."⟩))) ?_
    rw [(hlookup.whole []).mpr hgives]
    rfl
  case failed =>
    intro hnone
    obtain ⟨e, -, herror, -⟩ := hlookup.failed hnone
    refine hkept (Login.ofFailure (.query (.query e))) ?_
    rw [herror]
    rfl

/-- **Lookups in a database are all or nothing**, and a login over a database is answered by all
that the server has to give, or as a failure. -/
theorem lookup_allOrNothing (p : Pool) (c : Credential) :
    AllOrNothing p c ((Store.database p).lookup c) ∧
      ∀ (s : Settings) (requestId : String) (r : Request), r.submitted? = some c →
        AnsweredWhole s.auth p c (serve s (.database p) requestId r).response :=
  ⟨allOrNothing_lookup p c, fun s requestId _ hr => answeredWhole_serve s p requestId hr⟩

/-- A database that sends the columns of an account in another order, a column with one of their
names before the one that counts, and the least id last. -/
def reorderedServer : DatabaseServer where
  columns := [("logname", .varchar), ("id", .double), ("purview", .varchar), ("id", .int),
    ("department", .varchar)]
  table := .rows [
    [.bytes [0x61], .real, .bytes [0x75], .integer 7, .bytes [0xC3, 0xA9]],
    [.bytes [0x61], .null, .bytes [], .integer 3, .bytes [0x65]]]

/-- The same database, but its last row lacks a department. -/
def incompleteServer : DatabaseServer :=
  { reorderedServer with
    table := .rows [
      [.bytes [0x61], .real, .bytes [0x75], .integer 7, .bytes [0xC3, 0xA9]],
      [.bytes [0x61], .null, .bytes [], .integer 3, .null]] }

/-- The same database, but the connection is lost when both rows have arrived. -/
def lostServer : DatabaseServer :=
  { reorderedServer with disruption := some (.lost 2 (.io "connection reset by peer")) }

theorem not_gives_of_error {e : DatabaseError} (h : (p.lookup c).result = .error e)
    (users : List LoginUser) : ¬ p.Gives c users := by
  rw [← lookup_ok_iff, h]
  exact nofun

theorem lookup_allOrNothing_reordered :
    twinsLogin.submitted? = some ⟨"alice", "secret"⟩ ∧
      (serve {} (.database { server := reorderedServer }) "request" twinsLogin).response.body
        = .text (LoginResponse.print ⟨3, "e", "", "a"⟩) ∧
      (serve {} (.database { server := incompleteServer }) "request" twinsLogin).response.status
        = 500 ∧
      (serve {} (.database { server := lostServer }) "request" twinsLogin).response.status
        = 500 := by
  have hanswered (server : DatabaseServer) :=
    (lookup_allOrNothing { server } ⟨"alice", "secret"⟩).2 {} "request" twinsLogin
      submitted?_twinsLogin
  have hgives : Pool.Gives { server := reorderedServer } ⟨"alice", "secret"⟩
      [⟨7, "é", "u", "a"⟩, ⟨3, "e", "", "a"⟩] := lookup_ok_iff.mp (by decide +kernel)
  have hincomplete := not_gives_of_error (p := { server := incompleteServer })
    (c := ⟨"alice", "secret"⟩) (e := .columnDecode "department" unexpectedNull)
    (by decide +kernel)
  have hlost := not_gives_of_error (p := { server := lostServer })
    (c := ⟨"alice", "secret"⟩) (e := .io "connection reset by peer") (by decide +kernel)
  refine ⟨submitted?_twinsLogin, ?_, ?_, ?_⟩
  · exact ((hanswered reorderedServer).found _ ⟨3, "e", "", "a"⟩ hgives
      (lowestId?_eq_some.mp (by decide))).2
  · exact ((hanswered incompleteServer).failed hincomplete).1
  · exact ((hanswered lostServer).failed hlost).1

end LoginService

import LoginService.Proofs.Service.Exchange

/-!
# What is logged about a request

Four parts of the service speak while a request is served: the store about a lookup, the check of a
credential about several accounts, the login endpoint about a failure, and last of all the outermost
layer about the request itself. `Handled` lists what the first three say, case by case, and
`handled_serveOrigin` says that the list is complete. What is logged at each level follows from it.

An error is logged where it is noticed. A failed lookup is noticed twice, by a database and again by
the endpoint, so over a database it is logged twice.
-/

namespace LoginService

open Http

/-! ## Events and their levels -/

/-- The event is one of the access log. -/
def Event.isAccess (e : Event) : Bool := e.target == "login_server::middleware::access_log"

/-- The events of a level. -/
def atLevel (level : Level) (events : List Event) : List Event :=
  events.filter fun event => event.level == level

theorem atLevel_append (level : Level) (events events' : List Event) :
    atLevel level (events ++ events') = atLevel level events ++ atLevel level events' :=
  List.filter_append ..

theorem atLevel_within (level : Level) (events : List Event) (span : Span) :
    atLevel level (events.map fun event => event.within span)
      = (atLevel level events).map fun event => event.within span := by
  unfold atLevel
  rw [List.filter_map]
  rfl

theorem atLevel_eq_nil {level other : Level} (h : other ≠ level) {events : List Event}
    (hevents : ∀ event ∈ events, event.level = other) : atLevel level events = [] := by
  refine List.filter_eq_nil_iff.mpr ?_
  intro event hevent
  rw [hevents event hevent]
  simpa using h

theorem atLevel_eq_self {level : Level} {events : List Event}
    (hevents : ∀ event ∈ events, event.level = level) : atLevel level events = events := by
  refine List.filter_eq_self.mpr ?_
  intro event hevent
  rw [hevents event hevent]
  exact beq_self_eq_true level

/-! ## What a lookup logs -/

/-- Whether a store speaks about its lookups itself. -/
def Store.isDatabase : Store → Bool
  | .database _ => true
  | _ => false

variable {store : Store} {c : Credential}

theorem target_lookup (store : Store) (c : Credential) :
    ∀ event ∈ (store.lookup c).events, event.target = "login_server::services::user_store" := by
  cases store with
  | memory m => exact nofun
  | fixed users => exact nofun
  | database p =>
    refine List.forall_mem_singleton.mpr ?_
    unfold Pool.lookupEvent
    split <;> rfl

/-- A database speaks once about a lookup, and no other store does. -/
theorem targets_lookup (store : Store) (c : Credential) :
    (store.lookup c).events.map Event.target =
      if store.isDatabase = true then ["login_server::services::user_store"] else [] := by
  cases store with
  | memory m | fixed users => rfl
  | database p =>
    have htarget : (Pool.lookupEvent (p.lookup c).result).target
        = "login_server::services::user_store" :=
      target_lookup (.database p) c _ List.mem_cons_self
    exact congrArg (fun target => [target]) htarget

theorem level_lookup_ok {users : List LoginUser} (h : (store.lookup c).result = .ok users) :
    ∀ event ∈ (store.lookup c).events, event.level = .info := by
  cases store with
  | memory m => exact nofun
  | fixed users => exact nofun
  | database p =>
    cases hp : (p.lookup c).result with
    | ok users =>
      simp only [Store.lookup, hp]
      exact List.forall_mem_singleton.mpr rfl
    | error e =>
      simp only [Store.lookup, hp] at h
      cases h

theorem level_lookup_error {e : StoreError} (h : (store.lookup c).result = .error e) :
    ∀ event ∈ (store.lookup c).events, event.level = .error := by
  cases store with
  | memory m => exact nofun
  | fixed users => exact nofun
  | database p =>
    cases hp : (p.lookup c).result with
    | ok users =>
      simp only [Store.lookup, hp] at h
      cases h
    | error e =>
      simp only [Store.lookup, hp]
      exact List.forall_mem_singleton.mpr rfl

/-! ## What the endpoint logs -/

/-- The request reaches the login endpoint. -/
def Http.Request.ReachesLogin (r : Request) : Prop :=
  r.method = "POST" ∧ r.path = "/v1/login" ∧ r.body.length ≤ 2097152

/-- The request has a credential looked up, with this result. -/
def Http.Request.LooksUp (r : Request) (store : Store) (q : LoginRequest)
    (result : Except StoreError (List LoginUser)) : Prop :=
  r.ReachesLogin ∧ LoginRequest.decode r.body = .ok q ∧
    (store.lookup q.toCredential).result = result

variable {r : Request}

/-- What a request is answered, and what is logged until then. -/
inductive Handled (store : Store) (r : Request) : UInt16 → List Event → Prop
  /-- The request is no login. -/
  | elsewhere {status : UInt16} : ¬ (r.method = "POST" ∧ r.path = "/v1/login") →
      Handled store r status []
  /-- Its body is too long to be looked at. -/
  | tooLong : 2097152 < r.body.length → Handled store r 413 []
  /-- Its body cannot be decoded. -/
  | malformed {e : Json.Error} : r.ReachesLogin → LoginRequest.decode r.body = .error e →
      Handled store r 400 [Login.failureEvent (.decode e)]
  /-- The lookup of the credential fails. -/
  | failed {q : LoginRequest} {e : StoreError} : r.LooksUp store q (.error e) →
      Handled store r 500
        ((store.lookup q.toCredential).events ++ [Login.failureEvent (.query e)])
  /-- The lookup of the credential gives accounts. -/
  | checked {q : LoginRequest} {users : List LoginUser} {status : UInt16} :
      r.LooksUp store q (.ok users) → status = 200 ∨ status = 401 →
      Handled store r status
        ((store.lookup q.toCredential).events ++ severalAccounts q.toCredential users)

namespace Login

theorem status_ofOutcome (settings : AuthSettings) (outcome : LoginOutcome) :
    (ofOutcome settings outcome).status = 200 ∨ (ofOutcome settings outcome).status = 401 := by
  cases outcome with
  | authenticated user => exact .inl rfl
  | rejected =>
    show mismatchStatus settings = 200 ∨ mismatchStatus settings = 401
    unfold mismatchStatus
    split
    · exact .inr rfl
    · exact .inl rfl

/-- A login is answered in one of the listed ways. -/
theorem handled_serve (settings : AuthSettings) (store : Store) (hm : r.method = "POST")
    (hp : r.path = "/v1/login") :
    Handled store r (serve settings store r.body).response.status
      (serve settings store r.body).events := by
  by_cases hl : maxBodyLength < r.body.length
  · rw [serve, if_pos hl]
    exact .tooLong hl
  · have hr : r.ReachesLogin := ⟨hm, hp, Nat.not_lt.mp hl⟩
    cases hd : LoginRequest.decode r.body with
    | error e =>
      rw [serve, if_neg hl, hd]
      exact .malformed hr hd
    | ok q =>
      rw [serve_of_ok (Nat.not_lt.mp hl) hd]
      show Handled store r (serveCredential settings store q.toCredential).response.status
        (serveCredential settings store q.toCredential).events
      cases hlookup : (store.lookup q.toCredential).result with
      | error e =>
        rw [serveCredential_of_error settings hlookup]
        exact .failed ⟨hr, hd, hlookup⟩
      | ok users =>
        rw [serveCredential_of_ok settings hlookup]
        exact .checked ⟨hr, hd, hlookup⟩ (status_ofOutcome settings (.ofUsers users))

end Login

/-- Nothing is logged about a request that is no login. -/
theorem events_serveRoute_elsewhere (s : Settings) (store : Store)
    (h : ¬ (r.method = "POST" ∧ r.path = "/v1/login")) : (serveRoute s store r).events = [] := by
  by_cases hp : r.path = "/v1/login"
  · have hm : r.method ≠ "POST" := fun hm => h ⟨hm, hp⟩
    simp only [serveRoute, Route.of_eq_login.mpr hp, if_neg hm]
  · have hroute : Route.of r.path ≠ .login := fun hlogin => hp (Route.of_eq_login.mp hlogin)
    unfold serveRoute
    cases hof : Route.of r.path with
    | login => exact absurd hof hroute
    | unknown => rfl
    | health | docsEntry | docsDescription | docsPage name =>
      dsimp only
      repeat' split
      all_goals rfl

/-- **Every request is answered in one of the listed ways.** -/
theorem handled_serveOrigin (s : Settings) (store : Store) (r : Request) :
    Handled store r (serveOrigin s store r).response.status (serveOrigin s store r).events := by
  by_cases hr : r.method = "POST" ∧ r.path = "/v1/login"
  · obtain ⟨hm, hp⟩ := hr
    have ho : r.method ≠ "OPTIONS" := by
      rw [hm]
      decide
    rw [serveOrigin, if_neg ho, serveRoute_login s store hm hp]
    exact Login.handled_serve s.auth store hm hp
  · have hnil : (serveOrigin s store r).events = [] := by
      unfold serveOrigin
      by_cases ho : r.method = "OPTIONS"
      · rw [if_pos ho]
      · rw [if_neg ho]
        exact events_serveRoute_elsewhere s store hr
    rw [hnil]
    exact .elsewhere hr

/-! ## What is logged at each level -/

theorem level_severalAccounts {users : List LoginUser} :
    ∀ event ∈ severalAccounts c users, event.level = .warn := by
  unfold severalAccounts
  split
  · exact List.forall_mem_singleton.mpr rfl
  · exact nofun

theorem severalAccounts_of_many (c : Credential) {users : List LoginUser}
    (h : 2 ≤ users.length) :
    ∃ event, severalAccounts c users = [event] ∧
      event.message = "Multiple accounts match one credential, using lowest id" ∧
      event.fields = [("login_name", .plain c.loginName), ("matches", .number users.length)] :=
  ⟨_, if_pos h, rfl, rfl⟩

theorem severalAccounts_ne_nil {users : List LoginUser} :
    severalAccounts c users ≠ [] ↔ 2 ≤ users.length := by
  constructor
  · intro h
    refine Nat.lt_of_not_le ?_
    intro hfew
    exact h (if_neg (Nat.not_lt.mpr hfew))
  · intro h
    obtain ⟨event, hevent, -⟩ := severalAccounts_of_many c h
    rw [hevent]
    exact List.cons_ne_nil event []

theorem target_severalAccounts {users : List LoginUser} :
    ∀ event ∈ severalAccounts c users, event.target = "login_server::services::auth" := by
  unfold severalAccounts
  split
  · exact List.forall_mem_singleton.mpr rfl
  · exact nofun

/-- A lookup is never warned about. -/
theorem atLevel_warn_lookup (store : Store) (c : Credential) :
    atLevel .warn (store.lookup c).events = [] := by
  cases hl : (store.lookup c).result with
  | ok users => exact atLevel_eq_nil (by decide) (level_lookup_ok hl)
  | error e => exact atLevel_eq_nil (by decide) (level_lookup_error hl)

namespace Http.Request.LooksUp

variable {q q' : LoginRequest} {result result' : Except StoreError (List LoginUser)}

/-- A request has at most one credential looked up, and there is one result of it. -/
theorem unique (h : r.LooksUp store q result) (h' : r.LooksUp store q' result') :
    q = q' ∧ result = result' := by
  obtain ⟨-, hd, hl⟩ := h
  obtain ⟨-, hd', hl'⟩ := h'
  have hq : q = q' := Except.ok.inj (hd.symm.trans hd')
  subst hq
  exact ⟨rfl, hl.symm.trans hl'⟩

end Http.Request.LooksUp

namespace Handled

variable {status : UInt16} {events : List Event}

/-- Of a request that does not reach the endpoint nothing is said until it is answered. -/
theorem eq_nil (h : Handled store r status events) (hr : ¬ r.ReachesLogin) : events = [] := by
  cases h with
  | elsewhere | tooLong => rfl
  | malformed hreach hd => exact absurd hreach hr
  | failed hlookup => exact absurd hlookup.1 hr
  | checked hlookup hstatus => exact absurd hlookup.1 hr

/-- The parts of the service that answer leave the access log alone. -/
theorem isAccess (h : Handled store r status events) :
    ∀ event ∈ events, event.isAccess = false := by
  have hlookup : ∀ c, ∀ event ∈ (store.lookup c).events, event.isAccess = false := by
    intro c event hevent
    rw [Event.isAccess, target_lookup store c event hevent]
    decide
  have hfailure : ∀ f, (Login.failureEvent f).isAccess = false := by
    intro f
    show ("login_server::handlers::auth" == "login_server::middleware::access_log") = false
    decide
  cases h with
  | elsewhere | tooLong => exact nofun
  | @malformed e hr hd => exact List.forall_mem_singleton.mpr (hfailure (.decode e))
  | @failed q e hq =>
    refine List.forall_mem_append.mpr ⟨hlookup q.toCredential, ?_⟩
    exact List.forall_mem_singleton.mpr (hfailure (.query e))
  | @checked q users _ hq hstatus =>
    refine List.forall_mem_append.mpr ⟨hlookup q.toCredential, ?_⟩
    intro event hevent
    rw [Event.isAccess, target_severalAccounts event hevent]
    decide

/-- What is warned about is the number of accounts that a lookup gives. -/
theorem warnings {q : LoginRequest} {users : List LoginUser}
    (h : Handled store r status events) (hq : r.LooksUp store q (.ok users)) :
    atLevel .warn events = severalAccounts q.toCredential users := by
  cases h with
  | elsewhere hother => exact absurd ⟨hq.1.1, hq.1.2.1⟩ hother
  | tooLong hlong => exact absurd hq.1.2.2 (Nat.not_le.mpr hlong)
  | malformed hr hd =>
    rw [hq.2.1] at hd
    cases hd
  | failed hq' => cases (hq.unique hq').2
  | checked hq' hstatus =>
    obtain ⟨hrequest, hresult⟩ := hq.unique hq'
    cases hresult
    subst hrequest
    rw [atLevel_append, atLevel_warn_lookup, List.nil_append]
    exact atLevel_eq_self level_severalAccounts

theorem looksUp_of_warnings (h : Handled store r status events)
    (hwarn : atLevel .warn events ≠ []) :
    ∃ q users, r.LooksUp store q (.ok users) ∧ 2 ≤ users.length := by
  cases h with
  | elsewhere | tooLong | malformed => exact absurd rfl hwarn
  | failed hq =>
    rw [atLevel_append, atLevel_warn_lookup] at hwarn
    exact absurd rfl hwarn
  | @checked q users _ hq hstatus =>
    rw [atLevel_append, atLevel_warn_lookup, List.nil_append,
      atLevel_eq_self level_severalAccounts] at hwarn
    exact ⟨q, users, hq, severalAccounts_ne_nil.mp hwarn⟩

/-- A body that cannot be decoded is an error to the endpoint alone. -/
theorem errors_of_malformed {e : Json.Error} (h : Handled store r status events)
    (hr : r.ReachesLogin) (hd : LoginRequest.decode r.body = .error e) :
    atLevel .error events = [Login.failureEvent (.decode e)] := by
  cases h with
  | elsewhere hother => exact absurd ⟨hr.1, hr.2.1⟩ hother
  | tooLong hlong => exact absurd hr.2.2 (Nat.not_le.mpr hlong)
  | malformed _ hd' =>
    rw [hd] at hd'
    cases hd'
    rfl
  | failed hq | checked hq _ =>
    rw [hq.2.1] at hd
    cases hd

/-- A failed lookup is an error to whoever speaks about lookups, and to the endpoint after that. -/
theorem errors_of_failed {q : LoginRequest} {e : StoreError}
    (h : Handled store r status events) (hq : r.LooksUp store q (.error e)) :
    atLevel .error events
      = (store.lookup q.toCredential).events ++ [Login.failureEvent (.query e)] := by
  cases h with
  | elsewhere hother => exact absurd ⟨hq.1.1, hq.1.2.1⟩ hother
  | tooLong hlong => exact absurd hq.1.2.2 (Nat.not_le.mpr hlong)
  | malformed hr hd =>
    rw [hq.2.1] at hd
    cases hd
  | failed hq' =>
    obtain ⟨hrequest, hresult⟩ := hq.unique hq'
    cases hresult
    subst hrequest
    rw [atLevel_append, atLevel_eq_self (level_lookup_error hq.2.2)]
    rfl
  | checked hq' hstatus => cases (hq.unique hq').2

/-- An error is logged about nothing else. -/
theorem failure_of_errors (h : Handled store r status events)
    (herrors : atLevel .error events ≠ []) :
    (r.ReachesLogin ∧ ∃ e, LoginRequest.decode r.body = .error e)
      ∨ ∃ q e, r.LooksUp store q (.error e) := by
  cases h with
  | elsewhere | tooLong => exact absurd rfl herrors
  | @malformed e hr hd => exact .inl ⟨hr, e, hd⟩
  | @failed q e hq => exact .inr ⟨q, e, hq⟩
  | checked hq hstatus =>
    rw [atLevel_append, atLevel_eq_nil (by decide) (level_lookup_ok hq.2.2),
      atLevel_eq_nil (by decide) level_severalAccounts] at herrors
    exact absurd rfl herrors

/-- The statuses of a failure: one for a body that cannot be decoded, one for a failed lookup. -/
theorem failure_of_status (h : Handled store r status events) (hm : r.method = "POST")
    (hp : r.path = "/v1/login") (hstatus : status = 400 ∨ status = 500) :
    (status = 400 ∧ r.ReachesLogin ∧ ∃ e, LoginRequest.decode r.body = .error e)
      ∨ (status = 500 ∧ ∃ q e, r.LooksUp store q (.error e)) := by
  cases h with
  | elsewhere hother => exact absurd ⟨hm, hp⟩ hother
  | tooLong => exact absurd hstatus (by decide)
  | @malformed e hr hd => exact .inl ⟨rfl, hr, e, hd⟩
  | @failed q e hq => exact .inr ⟨rfl, q, e, hq⟩
  | checked hq hkind =>
    obtain rfl | rfl := hkind
    · exact absurd hstatus (by decide)
    · exact absurd hstatus (by decide)

/-- Who logs the failure of a login, in the order of the log. -/
theorem targets_errors (h : Handled store r status events) (hm : r.method = "POST")
    (hp : r.path = "/v1/login") (hstatus : status = 400 ∨ status = 500) :
    (atLevel .error events).map Event.target =
      if status = 500 ∧ store.isDatabase = true then
        ["login_server::services::user_store", "login_server::handlers::auth"]
      else ["login_server::handlers::auth"] := by
  obtain ⟨rfl, hr, e, hd⟩ | ⟨rfl, q, e, hq⟩ := h.failure_of_status hm hp hstatus
  · have hdecoding : ¬ ((400 : UInt16) = 500 ∧ store.isDatabase = true) :=
      fun hboth => absurd hboth.1 (by decide)
    rw [h.errors_of_malformed hr hd, if_neg hdecoding]
    rfl
  · rw [h.errors_of_failed hq, List.map_append, targets_lookup]
    cases store.isDatabase with
    | true => rfl
    | false => rfl

end Handled

/-! ## The log of a request -/

section Serve

variable (s : Settings) (store : Store) (requestId : String) (r : Request)

/-- A request is logged last, with the status it is answered, and inside its span like all that is
logged before. -/
theorem events_serve :
    (serve s store requestId r).events =
      ((serveOrigin s store r).events
          ++ [accessEvent r (serve s store requestId r).response.status]).map
        fun event => event.within ⟨requestId, r.method, r.path⟩ :=
  rfl

/-- Above the level of the access log there is what was logged while the request was answered. -/
theorem atLevel_serve {level : Level} (hlevel : .info ≠ level) :
    atLevel level (serve s store requestId r).events =
      (atLevel level (serveOrigin s store r).events).map
        fun event => event.within ⟨requestId, r.method, r.path⟩ := by
  have haccess : atLevel level [accessEvent r (serve s store requestId r).response.status] = [] :=
    atLevel_eq_nil hlevel (List.forall_mem_singleton.mpr rfl)
  rw [events_serve, atLevel_within, atLevel_append, haccess, List.append_nil]

theorem atLevel_serve_ne_nil {level : Level} (hlevel : .info ≠ level) :
    atLevel level (serve s store requestId r).events ≠ []
      ↔ atLevel level (serveOrigin s store r).events ≠ [] := by
  rw [atLevel_serve s store requestId r hlevel, ne_eq, List.map_eq_nil_iff]

/-- The log of a request. -/
structure WellLogged (e : Exchange) : Prop where
  /-- The request itself is logged once and last of all, with the status it is answered. -/
  access : ∃ before access, e.events = before ++ [access] ∧
    (∀ event ∈ before, event.isAccess = false) ∧ access.isAccess = true ∧
    access.level = .info ∧
    access.fields.lookup "status" = some (.number e.response.status.toNat)
  /-- Everything is logged inside the request. -/
  span : ∀ event ∈ e.events, event.span = some ⟨requestId, r.method, r.path⟩
  /-- A warning follows a lookup that gives several accounts, and nothing else. -/
  warned : atLevel .warn e.events ≠ [] ↔
    ∃ q users, r.LooksUp store q (.ok users) ∧ 2 ≤ users.length
  /-- There is one warning, about the accounts that the lookup gives. -/
  warning : ∀ q users, r.LooksUp store q (.ok users) → 2 ≤ users.length →
    ∃ event, atLevel .warn e.events = [event] ∧
      event.message = "Multiple accounts match one credential, using lowest id" ∧
      event.fields =
        [("login_name", .plain q.loginName), ("matches", .number users.length)]
  /-- An error follows a body that cannot be decoded or a lookup that fails, and nothing else. -/
  failed : atLevel .error e.events ≠ [] ↔
    (r.ReachesLogin ∧ ∃ e, LoginRequest.decode r.body = .error e)
      ∨ ∃ q e, r.LooksUp store q (.error e)
  /-- Nothing but the request itself is logged unless it reaches the login endpoint. -/
  elsewhere : ¬ r.ReachesLogin → ∃ access, e.events = [access] ∧ access.isAccess = true

/-- **What the service logs about a request.** -/
theorem serve_wellLogged : WellLogged store requestId r (serve s store requestId r) := by
  have hhandled := handled_serveOrigin s store r
  constructor
  case access =>
    let span : Span := ⟨requestId, r.method, r.path⟩
    let access := accessEvent r (serve s store requestId r).response.status
    refine ⟨(serveOrigin s store r).events.map fun event => event.within span,
      access.within span, ?_, ?_, rfl, rfl, rfl⟩
    · rw [events_serve, List.map_append]
      rfl
    · refine List.forall_mem_map.mpr ?_
      intro event hevent
      exact hhandled.isAccess event hevent
  case span =>
    rw [events_serve]
    refine List.forall_mem_map.mpr ?_
    intro event _
    rfl
  case warned =>
    rw [atLevel_serve_ne_nil s store requestId r (by decide)]
    constructor
    · exact hhandled.looksUp_of_warnings
    · rintro ⟨q, users, hq, hmany⟩
      obtain ⟨event, hevent, -⟩ := severalAccounts_of_many q.toCredential hmany
      rw [hhandled.warnings hq, hevent]
      exact List.cons_ne_nil event []
  case warning =>
    intro q users hq hmany
    obtain ⟨event, hevent, hmessage, hfields⟩ :=
      severalAccounts_of_many q.toCredential hmany
    rw [atLevel_serve s store requestId r (by decide), hhandled.warnings hq, hevent]
    exact ⟨event.within _, rfl, hmessage, hfields⟩
  case failed =>
    rw [atLevel_serve_ne_nil s store requestId r (by decide)]
    constructor
    · exact hhandled.failure_of_errors
    · rintro (⟨hr, e, hd⟩ | ⟨q, e, hq⟩)
      · rw [hhandled.errors_of_malformed hr hd]
        exact List.cons_ne_nil _ _
      · rw [hhandled.errors_of_failed hq]
        exact List.append_ne_nil_of_right_ne_nil _ (List.cons_ne_nil _ _)
  case elsewhere =>
    intro hr
    rw [events_serve, hhandled.eq_nil hr]
    exact ⟨_, rfl, rfl⟩

/-! ## How often an error is logged -/

/-- **An error is logged once, unless a database failed.** A failed lookup is logged by the endpoint
that learns of it; a database has logged it before. -/
theorem errors_serve (method : r.method = "POST") (path : r.path = "/v1/login")
    (failed : (serve s store requestId r).response.status = 400
      ∨ (serve s store requestId r).response.status = 500) :
    ((atLevel .error (serve s store requestId r).events).length = 1 ↔
        ¬ ((serve s store requestId r).response.status = 500 ∧ store.isDatabase = true)) ∧
      (atLevel .error (serve s store requestId r).events).map Event.target =
        if (serve s store requestId r).response.status = 500 ∧ store.isDatabase = true then
          ["login_server::services::user_store", "login_server::handlers::auth"]
        else ["login_server::handlers::auth"] := by
  have hhandled : Handled store r (serve s store requestId r).response.status
      (serveOrigin s store r).events := handled_serveOrigin s store r
  have htargets : (atLevel .error (serve s store requestId r).events).map Event.target =
      (atLevel .error (serveOrigin s store r).events).map Event.target := by
    rw [atLevel_serve s store requestId r (by decide), List.map_map]
    rfl
  rw [← List.length_map Event.target, htargets, hhandled.targets_errors method path failed]
  refine ⟨?_, rfl⟩
  by_cases hdatabase :
      (serve s store requestId r).response.status = 500 ∧ store.isDatabase = true
  · rw [if_pos hdatabase]
    exact iff_of_false (by decide) (fun hnot => hnot hdatabase)
  · rw [if_neg hdatabase]
    exact iff_of_true rfl hdatabase

end Serve

/-- A database whose connections are closed. -/
def closedDatabase : Store := .database { server := {}, closed := true }

theorem serve_closedDatabase :
    serve {} closedDatabase "request" twinsLogin =
      Exchange.layered "request" twinsLogin
        ⟨Login.ofFailure (.query (.query .poolClosed)), closedDatabase,
          [Pool.lookupEvent (.error .poolClosed), Login.failureEvent (.query (.query .poolClosed))],
          []⟩ := by
  rw [serve_of_submitted submitted?_twinsLogin]
  rfl

theorem status_serve_closedDatabase :
    (serve {} closedDatabase "request" twinsLogin).response.status = 500 := by
  rw [serve_closedDatabase]
  rfl

theorem errors_serve_closedDatabase :
    twinsLogin.method = "POST" ∧ twinsLogin.path = "/v1/login" ∧
      (serve {} closedDatabase "request" twinsLogin).response.status = 500 ∧
      (atLevel .error (serve {} closedDatabase "request" twinsLogin).events).map Event.target
        = ["login_server::services::user_store", "login_server::handlers::auth"] := by
  have hstatus := status_serve_closedDatabase
  have htargets :=
    (errors_serve {} closedDatabase "request" twinsLogin rfl rfl (.inr hstatus)).2
  rw [if_pos ⟨hstatus, rfl⟩] at htargets
  exact ⟨rfl, rfl, hstatus, htargets⟩

/-- Both errors of a login over a database whose connections are closed. -/
theorem closedDatabase_twice :
    (serve {} closedDatabase "request" twinsLogin).response.status = 500 ∧
      atLevel .error (serve {} closedDatabase "request" twinsLogin).events =
        [(Pool.lookupEvent (.error .poolClosed)).within ⟨"request", "POST", "/v1/login"⟩,
          (Login.failureEvent (.query (.query .poolClosed))).within
            ⟨"request", "POST", "/v1/login"⟩] := by
  refine ⟨status_serve_closedDatabase, ?_⟩
  rw [serve_closedDatabase]
  rfl

end LoginService

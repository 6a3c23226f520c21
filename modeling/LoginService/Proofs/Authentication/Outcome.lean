import LoginService.Proofs.Service.Interchange
import LoginService.Proofs.Service.Log

/-!
# What checking a credential gives

A credential is rejected if the store gives no account for it, and otherwise names the account with
the lowest id, whatever order and however many accounts the store gives (`authenticate_lowest`).
The check speaks for itself only if there are several accounts, and never about an error, which it
passes on as it is. What it says is told from what the store says by who speaks (`spoken`).
-/

namespace LoginService

/-! ## The outcome -/

theorem exists_lowest {users : List LoginUser} (h : users ≠ []) : ∃ u, Lowest users u := by
  cases hu : lowestId? users with
  | none => exact absurd (lowestId?_eq_none.mp hu) h
  | some u => exact ⟨u, lowest_of_lowestId? hu⟩

theorem ofUsers_eq_rejected {users : List LoginUser} :
    LoginOutcome.ofUsers users = .rejected ↔ users = [] := by
  rw [← lowestId?_eq_none]
  unfold LoginOutcome.ofUsers
  cases lowestId? users with
  | none => exact iff_of_true rfl rfl
  | some u => exact iff_of_false nofun nofun

theorem ofUsers_eq_authenticated {users : List LoginUser} {u : LoginUser} :
    LoginOutcome.ofUsers users = .authenticated u ↔ Lowest users u := by
  rw [← lowestId?_eq_some]
  unfold LoginOutcome.ofUsers
  cases lowestId? users with
  | none => exact iff_of_false nofun nofun
  | some v =>
    constructor
    · intro h
      exact congrArg some (LoginOutcome.authenticated.inj h)
    · intro h
      exact congrArg LoginOutcome.authenticated (Option.some.inj h)

variable {store : Store} {c : Credential} {users : List LoginUser}

/-! ## The log -/

/-- What is logged by the check of credentials itself. -/
def spoken (events : List Event) : List Event :=
  events.filter fun event => event.target == "login_server::services::auth"

theorem spoken_append (events events' : List Event) :
    spoken (events ++ events') = spoken events ++ spoken events' :=
  List.filter_append ..

/-- What a store logs is not taken for a word of the check. -/
theorem spoken_lookup (store : Store) (c : Credential) : spoken (store.lookup c).events = [] := by
  refine List.filter_eq_nil_iff.mpr ?_
  intro event hevent
  rw [target_lookup store c event hevent]
  decide

theorem spoken_severalAccounts (c : Credential) (users : List LoginUser) :
    spoken (severalAccounts c users) = severalAccounts c users := by
  refine List.filter_eq_self.mpr ?_
  intro event hevent
  rw [target_severalAccounts event hevent]
  decide

theorem spoken_authenticate (h : (store.lookup c).result = .ok users) :
    spoken (authenticate store c).events = severalAccounts c users := by
  rw [authenticate_of_ok h, spoken_append, spoken_lookup, spoken_severalAccounts, List.nil_append]

/-! ## The check -/

/-- What a check gives for the accounts that the store has given. -/
structure ChoosesLowest (c : Credential) (users : List LoginUser) (a : Authentication) : Prop where
  rejected : a.result = .ok .rejected ↔ users = []
  /-- An account is chosen if it is given, if no given id is lower, and if it is the first that is
  given with its id. -/
  authenticated : ∀ u, a.result = .ok (.authenticated u) ↔
    u ∈ users ∧ (∀ v ∈ users, u.id ≤ v.id) ∧ users.find? (fun v => v.id == u.id) = some u
  /-- Out of any accounts one is chosen. -/
  chosen : users ≠ [] → ∃ u, a.result = .ok (.authenticated u)
  /-- The check warns of several accounts, and says nothing else. -/
  warned : spoken a.events ≠ [] ↔ 2 ≤ users.length
  warning : 2 ≤ users.length →
    ∃ event, spoken a.events = [event] ∧ event.level = .warn ∧
      event.message = "Multiple accounts match one credential, using lowest id" ∧
      event.fields =
        [("login_name", .plain c.loginName), ("matches", .number users.length)]

theorem choosesLowest (h : (store.lookup c).result = .ok users) :
    ChoosesLowest c users (authenticate store c) := by
  have hresult : (authenticate store c).result = .ok (.ofUsers users) := by
    rw [authenticate_of_ok h]
  constructor
  case rejected => rw [hresult, Except.ok.injEq, ofUsers_eq_rejected]
  case authenticated =>
    intro u
    rw [hresult, Except.ok.injEq, ofUsers_eq_authenticated]
    constructor
    · intro hlowest
      exact ⟨hlowest.mem, hlowest.le, hlowest.first⟩
    · rintro ⟨-, hle, hfirst⟩
      exact ⟨hle, hfirst⟩
  case chosen =>
    intro hsome
    obtain ⟨u, hu⟩ := exists_lowest hsome
    exact ⟨u, by rw [hresult, ofUsers_eq_authenticated.mpr hu]⟩
  case warned => rw [spoken_authenticate h, severalAccounts_ne_nil]
  case warning =>
    intro hmany
    obtain ⟨event, hevent, hmessage, hfields⟩ := severalAccounts_of_many c hmany
    have hmem : event ∈ severalAccounts c users := by
      rw [hevent]
      exact List.mem_singleton.mpr rfl
    have hlevel : event.level = .warn := level_severalAccounts event hmem
    exact ⟨event, (spoken_authenticate h).trans hevent, hlevel, hmessage, hfields⟩

/-- **The lowest id wins.** Whatever accounts a store of any kind gives for a credential, the check
chooses among them by their ids alone, and warns if there are several. An error of the store is
passed on, and nothing is logged in addition to what the store has logged. For accounts without a
common id, in any two orders and from any two stores, the outcome is one and the same. -/
theorem authenticate_lowest (store : Store) (c : Credential) :
    (∀ users, (store.lookup c).result = .ok users →
      ChoosesLowest c users (authenticate store c)) ∧
    (∀ e, (store.lookup c).result = .error e →
      (authenticate store c).result = .error e ∧
        (authenticate store c).events = (store.lookup c).events ∧
        spoken (authenticate store c).events = []) ∧
    ∀ (other : Store) (c' : Credential) (users users' : List LoginUser),
      (store.lookup c).result = .ok users → (other.lookup c').result = .ok users' →
      users.Perm users' → (users.map LoginUser.id).Nodup →
      (authenticate store c).result = (authenticate other c').result := by
  refine ⟨fun users h => choosesLowest h, ?_, ?_⟩
  · intro e h
    rw [authenticate_of_error h]
    exact ⟨rfl, rfl, spoken_lookup store c⟩
  · intro other c' users users' h h' hperm hids
    rw [authenticate_of_ok h, authenticate_of_ok h']
    exact congrArg Except.ok (ofUsers_of_perm hperm hids)

/-- Accounts with two ids, each of them twice, one of them the least there is. -/
def extremeUsers : List LoginUser := [
  ⟨-1, "sales", "user", "alice"⟩, ⟨Int64.minValue, "eng", "admin", "alice"⟩,
  ⟨-1, "hr", "user", "alice"⟩, ⟨Int64.minValue, "ops", "user", "alice"⟩]

theorem authenticate_lowest_extremes :
    (authenticate (.fixed extremeUsers) ⟨"alice", "secret"⟩).result
        = .ok (.authenticated ⟨Int64.minValue, "eng", "admin", "alice"⟩) ∧
      spoken (authenticate (.fixed extremeUsers) ⟨"alice", "secret"⟩).events ≠ [] ∧
      (authenticate (.memory { failing := true }) {}).result
        = .error (.unavailable "connection refused") ∧
      (authenticate (.fixed shuffledTriplets) {}).result
        = (authenticate (.fixed shuffledTriplets.reverse) {}).result := by
  obtain ⟨hgiven, -, -⟩ := authenticate_lowest (.fixed extremeUsers) ⟨"alice", "secret"⟩
  obtain ⟨-, hfailed, -⟩ := authenticate_lowest (.memory { failing := true }) {}
  obtain ⟨-, -, hsame⟩ := authenticate_lowest (.fixed shuffledTriplets) {}
  have hchosen := hgiven extremeUsers rfl
  refine ⟨(hchosen.authenticated _).mpr (by decide), hchosen.warned.mpr (by decide),
    (hfailed _ rfl).1, ?_⟩
  exact hsame (.fixed shuffledTriplets.reverse) {} _ _ rfl rfl (List.reverse_perm _).symm
    (by decide)

end LoginService

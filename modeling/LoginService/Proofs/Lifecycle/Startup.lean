import LoginService.Lifecycle

/-!
# How a process starts

Starting up goes wrong at one step or not at all. `Startup.Fails` and `Startup.Listens` say which of
it is the case, from what every step would give. The process tries the steps up to the one that
fails, or all, and no others; it listens if and only if all of them succeed.
-/

namespace LoginService

/-- The steps of starting up, in order. -/
def StartStep.all : List StartStep := [.loadSettings, .connectDatabase, .readHost, .listen]

/-- The steps up to one. -/
def StartStep.upTo (step : StartStep) : List StartStep := all.takeWhile (· ≠ step) ++ [step]

namespace Startup

/-! ## Outcomes -/

/-- The steps before one succeed, and that one fails. -/
inductive Fails (s : Startup) : StartStep → ProcessError → Prop
  | loadSettings {e : Settings.LoadError} : s.settings = .error e →
      Fails s .loadSettings (.settings e)
  | connectDatabase {settings : Settings} {e : ConnectError} : s.settings = .ok settings →
      (s.connection settings.database).result = .error e →
      Fails s .connectDatabase (.database e)
  | readHost {settings : Settings} {pool : Pool} : s.settings = .ok settings →
      (s.connection settings.database).result = .ok pool →
      s.host settings.server.host = none → Fails s .readHost .host
  | listen {settings : Settings} {pool : Pool} {ip : IpAddress} {detail : String} :
      s.settings = .ok settings → (s.connection settings.database).result = .ok pool →
      s.host settings.server.host = some ip →
      s.listener ⟨ip, settings.server.port⟩ = .error detail → Fails s .listen (.listen detail)

/-- All steps succeed, and a process listens. -/
structure Listens (s : Startup) (l : Listening) : Prop where
  settings : s.settings = .ok l.settings
  pool : (s.connection l.settings.database).result = .ok l.pool
  host : s.host l.settings.server.host = some l.address.ip
  port : l.address.port = l.settings.server.port
  listener : s.listener l.address = .ok ()

variable {s : Startup} {step : StartStep} {e : ProcessError} {l : Listening}

/-- One step fails, or all succeed. -/
theorem exists_outcome (s : Startup) : (∃ step e, s.Fails step e) ∨ ∃ l, s.Listens l := by
  cases hsettings : s.settings with
  | error e => exact .inl ⟨_, _, .loadSettings hsettings⟩
  | ok settings =>
    cases hpool : (s.connection settings.database).result with
    | error e => exact .inl ⟨_, _, .connectDatabase hsettings hpool⟩
    | ok pool =>
      cases hhost : s.host settings.server.host with
      | none => exact .inl ⟨_, _, .readHost hsettings hpool hhost⟩
      | some ip =>
        cases hlistener : s.listener ⟨ip, settings.server.port⟩ with
        | error detail => exact .inl ⟨_, _, .listen hsettings hpool hhost hlistener⟩
        | ok _ =>
          exact .inr ⟨⟨settings, pool, ⟨ip, settings.server.port⟩⟩,
            hsettings, hpool, hhost, rfl, hlistener⟩

/-! ## What a process tries -/

/-- What is logged until a process tries to listen is nothing to worry about. -/
theorem level_connected (path : String) (loaded : Except Settings.LoadError Settings)
    (settings : Settings) (c : Connection) :
    ∀ event ∈ Settings.loadEvents path loaded ++
      initEvent settings :: c.events settings.database, event.level = .info := by
  have hloading : ∀ event ∈ Settings.loadEvents path loaded, event.level = .info := by
    cases loaded <;> simp [Settings.loadEvents, Settings.loadingEvent, Settings.loadedEvents]
  have hconnecting : ∀ event ∈ c.events settings.database, event.level = .info := by
    unfold Connection.events
    cases c.result <;> simp [connectingEvent, connectedEvent]
  exact List.forall_mem_append.mpr ⟨hloading, List.forall_mem_cons.mpr ⟨rfl, hconnecting⟩⟩

/-- **A step that fails is the last one.** -/
theorem run_of_fails (h : s.Fails step e) (path : String) :
    (s.run path).tried = step.upTo ∧ (s.run path).result = .error e ∧
      ∀ event ∈ (s.run path).events, event.level = .info := by
  cases h with
  | loadSettings hsettings =>
    simp only [run, hsettings, true_and]
    exact ⟨rfl, List.forall_mem_singleton.mpr rfl⟩
  | connectDatabase hsettings hpool =>
    simp only [run, hsettings, hpool, true_and]
    exact ⟨rfl, level_connected path _ _ _⟩
  | readHost hsettings hpool hhost =>
    simp only [run, hsettings, hpool, listenAt, hhost, true_and]
    exact ⟨rfl, level_connected path _ _ _⟩
  | listen hsettings hpool hhost hlistener =>
    simp only [run, hsettings, hpool, listenAt, hhost, hlistener, true_and]
    exact ⟨rfl, level_connected path _ _ _⟩

/-- **A process whose steps all succeed listens.** -/
theorem run_of_listens (h : s.Listens l) (path : String) :
    (s.run path).tried = StartStep.all ∧ (s.run path).result = .ok l ∧
      ∀ event ∈ (s.run path).events, event.level = .info := by
  obtain ⟨settings, pool, ⟨ip, port⟩⟩ := l
  obtain ⟨hsettings, hpool, hhost, hport, hlistener⟩ := h
  dsimp only at hsettings hpool hhost hport hlistener
  subst hport
  simp only [run, hsettings, hpool, listenAt, hhost, hlistener, true_and]
  refine ⟨rfl, List.forall_mem_append.mpr ⟨level_connected path _ _ _, ?_⟩⟩
  exact List.forall_mem_singleton.mpr rfl

/-- A process tries to listen only after all other steps have succeeded. -/
theorem succeeded_of_listen_mem {path : String} (h : StartStep.listen ∈ (s.run path).tried) :
    ∃ settings pool ip, s.settings = .ok settings ∧
      (s.connection settings.database).result = .ok pool ∧
      s.host settings.server.host = some ip := by
  rcases exists_outcome s with ⟨step, e, hfails⟩ | ⟨l, hlistens⟩
  · rw [(run_of_fails hfails path).1] at h
    cases hfails with
    | loadSettings _ | connectDatabase _ _ | readHost _ _ _ => exact absurd h (by decide)
    | listen hsettings hpool hhost _ => exact ⟨_, _, _, hsettings, hpool, hhost⟩
  · exact ⟨_, _, _, hlistens.settings, hlistens.pool, hlistens.host⟩

theorem hasListened_run (s : Startup) (path : String) :
    (s.run path).hasListened = true ↔ ∃ l, s.Listens l := by
  rcases exists_outcome s with ⟨step, e, hfails⟩ | ⟨l, hlistens⟩
  · obtain ⟨-, hresult, -⟩ := run_of_fails hfails path
    refine iff_of_false ?_ ?_
    · simp only [Started.hasListened, hresult]
      exact Bool.false_ne_true
    · rintro ⟨l, hlistens⟩
      cases hresult.symm.trans (run_of_listens hlistens path).2.1
  · obtain ⟨-, hresult, -⟩ := run_of_listens hlistens path
    refine iff_of_true ?_ ⟨l, hlistens⟩
    simp only [Started.hasListened, hresult]

end Startup

end LoginService

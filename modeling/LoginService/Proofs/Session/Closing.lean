import LoginService.Proofs.Session.Statements

/-!
# After a pool is closed

Closing a pool is final. No step opens it again, not even one that puts another server behind it
(`Pool.closed_after`), so after a close every later state of a session holds a closed pool
(`closed_runSteps`). Over such a pool every lookup fails in the same way and sends nothing
(`refusesLookups_run`), while steps that look nothing up do not see the pool at all
(`report_congr`).
-/

namespace LoginService

open Http

/-! ## A closed pool -/

namespace Pool

variable {p : Pool}

theorem lookup_of_closed (h : p.closed = true) (c : Credential) :
    p.lookup c = ⟨.error .poolClosed, p, []⟩ := by
  rw [lookup, if_pos h]

/-- No step opens a closed pool again. -/
theorem closed_after (h : p.closed = true) (step : Step) : (p.after step).closed = true := by
  have hlookup (c : Credential) : (p.lookup c).pool.closed = true := by
    rw [lookup_of_closed h]
    exact h
  cases step with
  | request r =>
    show ((Step.request r).credential?.elim p fun c => (p.lookup c).pool).closed = true
    cases (Step.request r).credential? with
    | none => exact h
    | some c => exact hlookup c
  | authenticate c | find c => exact hlookup c
  | insert r | setFailing failing | setServer server => exact h
  | close => rfl

end Pool

/-- The store is a database whose pool is closed. -/
def Store.Closed (store : Store) : Prop := ∃ p, store = .database p ∧ p.closed = true

theorem Store.Closed.lookup {store : Store} (h : store.Closed) (c : Credential) :
    store.lookup c =
      ⟨.error (.query .poolClosed), store, [Pool.lookupEvent (.error .poolClosed)], []⟩ := by
  obtain ⟨p, rfl, hp⟩ := h
  simp only [Store.lookup, Pool.lookup_of_closed hp]
  rfl

variable (s : Settings)

theorem closed_run (requestId : String) (step : Step) (store : Store) (h : store.Closed) :
    (step.run s requestId store).2.Closed := by
  obtain ⟨p, rfl, hp⟩ := h
  exact ⟨p.after step, run_database s requestId p step, p.closed_after hp step⟩

/-- **A close is final.** Whatever steps come before and after it, the pool is closed in the end. -/
theorem closed_runSteps (p : Pool) (before between : List (String × Step)) (closeId : String) :
    (runSteps s (.database p) (before ++ (closeId, .close) :: between)).2.Closed := by
  obtain ⟨pool, hpool⟩ : ∃ pool, (runSteps s (.database p) before).2 = .database pool :=
    runSteps_invariant s (exists_pool_run s) ⟨p, rfl⟩ before
  have hclosed : (Store.database pool.close).Closed := ⟨pool.close, rfl, rfl⟩
  rw [runSteps_append, hpool, runSteps_cons]
  exact runSteps_invariant s (closed_run s) hclosed between

/-! ## What steps report -/

/-- What a step reports once lookups are refused because the pool is closed. -/
structure RefusesLookups (step : Step) (report : Report) : Prop where
  find : ∀ c, step = .find c → report.result = .found (.error (.query .poolClosed))
  authenticate : ∀ c, step = .authenticate c →
    report.result = .checked (.error (.query .poolClosed))
  /-- A login whose body is within the limit and can be decoded is answered by the fixed body. -/
  login : ∀ r c, step = .request (some r) → r.submitted? = some c →
    ∃ response, report.result = .response response ∧ response.status = 500 ∧
      response.body = .text
        (ErrorBody.print ⟨500, "We encountered an error while processing your request."⟩)
  /-- Nothing is executed. -/
  statements : report.statements = []

/-- **One step over a closed pool.** -/
theorem refusesLookups_run (requestId : String) {store : Store} (h : store.Closed) (step : Step) :
    RefusesLookups step (step.run s requestId store).1 where
  find := by
    rintro c rfl
    show StepResult.found (store.lookup c).result = _
    rw [h.lookup]
  authenticate := by
    rintro c rfl
    show StepResult.checked (authenticate store c).result = _
    rw [authenticate_of_error (congrArg Lookup.result (h.lookup c))]
  login := by
    rintro r c rfl hc
    have hresponse := Login.serveCredential_response s.auth store c
    rw [h.lookup] at hresponse
    refine ⟨(serve s store requestId r).response, rfl, ?_⟩
    rw [serve_of_submitted hc]
    simp only [Exchange.layered, hresponse]
    exact ⟨rfl, rfl⟩
  statements := by
    rw [statements_run]
    cases step.credential? with
    | none => rfl
    | some c =>
      show (store.lookup c).statements = []
      rw [h.lookup]

/-- **A step without a credential** reports the same over any two pools. -/
theorem report_congr (requestId : String) {step : Step} (hc : step.credential? = none)
    (p q : Pool) :
    (step.run s requestId (.database p)).1 = (step.run s requestId (.database q)).1 := by
  cases step with
  | request r =>
    cases r with
    | none => rfl
    | some r => exact report_request_congr s requestId hc _ _
  | authenticate c | find c => cases hc
  | insert r | setFailing failing | setServer server | close => rfl

/-- **A closed pool never serves again.** Take any session over a database in which the pool is
closed, and any step after that, whatever other steps come before, in between and afterwards. Every
lookup of the step fails because the pool is closed, and it has no statement executed. A step
without a credential, such as a request of any other kind, reports what it reports in the same
session without the close. -/
theorem closed_session (p : Pool) (before between after : List (String × Step))
    (closeId requestId : String) (step : Step) :
    ∃ report,
      (runSteps s (.database p)
          ((before ++ (closeId, .close) :: between) ++ (requestId, step) :: after)).1[
            (before ++ (closeId, .close) :: between).length]? = some report ∧
      RefusesLookups step report ∧
      (step.credential? = none →
        (runSteps s (.database p) ((before ++ between) ++ (requestId, step) :: after)).1[
          (before ++ between).length]? = some report) := by
  have hclosed := closed_runSteps s p before between closeId
  refine ⟨_, getElem?_runSteps s _ _ after (requestId, step),
    refusesLookups_run s requestId hclosed step, ?_⟩
  -- without the close the same steps lead to another pool, which such a step does not look at
  intro hc
  obtain ⟨pool, hpool, -⟩ := hclosed
  obtain ⟨other, hopen⟩ :
      ∃ pool, (runSteps s (.database p) (before ++ between)).2 = .database pool :=
    runSteps_invariant s (exists_pool_run s) ⟨p, rfl⟩ (before ++ between)
  rw [getElem?_runSteps, hpool, hopen]
  exact congrArg some (report_congr s requestId hc other pool)

/-- A database with the accounts of the twins. -/
def twinsPool : Pool where
  server := { table := .accounts twins.records }

/-- Another server is put behind a closed pool, and the pool is closed again. -/
def reopeningSteps : List (String × Step) := [("c", .setServer twinsPool.server), ("d", .close)]

/-- The question whether the service is up. -/
def healthRequest : Request where
  method := "GET"
  target := ⟨"/healthcheck", none⟩

theorem closed_session_reopening :
    (∃ report,
      (runSteps {} (.database twinsPool)
        (([("a", .find ⟨"alice", "secret"⟩)] ++ ("b", .close) :: reopeningSteps)
          ++ [("e", .request (some twinsLogin))])).1[4]? = some report ∧
      report.statements = [] ∧
      ∃ response, report.result = .response response ∧ response.status = 500) ∧
    Step.credential? (.request (some healthRequest)) = none ∧
    ∃ report,
      (runSteps {} (.database twinsPool)
        (([("a", .find ⟨"alice", "secret"⟩)] ++ ("b", .close) :: reopeningSteps)
          ++ [("e", .request (some healthRequest))])).1[4]? = some report ∧
      (runSteps {} (.database twinsPool)
        (([("a", .find ⟨"alice", "secret"⟩)] ++ reopeningSteps)
          ++ [("e", .request (some healthRequest))])).1[3]? = some report := by
  refine ⟨?_, by decide, ?_⟩
  · obtain ⟨report, hreport, hrefused, -⟩ := closed_session {} twinsPool
      [("a", .find ⟨"alice", "secret"⟩)] reopeningSteps [] "b" "e" (.request (some twinsLogin))
    obtain ⟨response, hresult, hstatus, -⟩ := hrefused.login _ _ rfl submitted?_twinsLogin
    exact ⟨report, hreport, hrefused.statements, response, hresult, hstatus⟩
  · obtain ⟨report, hreport, -, hsame⟩ := closed_session {} twinsPool
      [("a", .find ⟨"alice", "secret"⟩)] reopeningSteps [] "b" "e" (.request (some healthRequest))
    exact ⟨report, hreport, hsame (by decide)⟩

end LoginService

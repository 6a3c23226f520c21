import LoginService.Proofs.Service.Interchange
import LoginService.Proofs.Session.Run

/-!
# What a database is asked to execute

A session over a database sends one kind of statement only: the lookup, with the login name and the
password of one credential as its two parameters. `Pool.statements_lookup` says what a single lookup
sends, whatever the server does and wherever the connection is lost; `statements_run` that a step
sends what the lookup of its credential sends, and nothing if it has no credential. Both together
hold of every step of every session (`statements_runSteps`): the pool that the earlier steps leave
is the one in which the lookup is made, and no later step makes it again.
-/

namespace LoginService

open Http

/-! ## A single lookup -/

/-- The lookup of a credential, its two texts as parameters. -/
def Statement.lookup (c : Credential) : Statement := ⟨findByCredential, [c.loginName, c.password]⟩

namespace Pool

variable (p : Pool) (c : Credential)

/-- Over a connection the lookup is executed, unless it cannot even be prepared. -/
theorem statements_ask :
    (p.ask c).statements = [.lookup c] ∨
      (p.ask c).statements = [] ∧ ∃ e, (p.ask c).result = .error e := by
  unfold ask
  cases p.prepared with
  | some names => exact .inl rfl
  | none =>
    cases p.server.prepareError with
    | some e => exact .inr ⟨rfl, _, rfl⟩
    | none => exact .inl rfl

/-- **A lookup is executed once, or it fails without.** -/
theorem statements_lookup :
    (p.lookup c).statements = [.lookup c] ∨
      (p.lookup c).statements = [] ∧ ∃ e, (p.lookup c).result = .error e := by
  unfold lookup
  by_cases hclosed : p.closed = true
  · rw [if_pos hclosed]
    exact .inr ⟨rfl, _, rfl⟩
  · rw [if_neg hclosed]
    cases p.unreachable? with
    | some e => exact .inr ⟨rfl, _, rfl⟩
    | none => exact p.statements_ask c

/-- Whatever the parameters spell, they stay parameters. -/
example : (lookup { server := {} } ⟨"' OR 1=1 -- ", "?\x00"⟩).statements
    = [⟨findByCredential, ["' OR 1=1 -- ", "?\x00"]⟩] := rfl

theorem statements_of_ok {users : List LoginUser} (h : (p.lookup c).result = .ok users) :
    (p.lookup c).statements = [.lookup c] := by
  obtain hone | ⟨-, e, he⟩ := p.statements_lookup c
  · exact hone
  · rw [he] at h
    cases h

theorem statements_subset : ∀ statement ∈ (p.lookup c).statements, statement = .lookup c := by
  intro statement hmem
  obtain hone | ⟨hnone, -⟩ := p.statements_lookup c
  · rw [hone] at hmem
    exact List.mem_singleton.mp hmem
  · rw [hnone] at hmem
    cases hmem

theorem length_statements_le : (p.lookup c).statements.length ≤ 1 := by
  obtain hone | ⟨hnone, -⟩ := p.statements_lookup c
  · rw [hone]
    exact Nat.le_refl 1
  · rw [hnone]
    exact Nat.zero_le 1

end Pool

/-! ## A single step -/

namespace Step

/-- The credential that a step has looked up. -/
def credential? : Step → Option Credential
  | .find c | .authenticate c => some c
  | .request (some r) => r.submitted?
  | _ => none

end Step

variable (s : Settings)

theorem statements_change (store : Store) (changed : Option Store) {report : Report}
    (h : report.statements = []) : (store.change changed report).1.statements = [] := by
  cases changed with
  | none => rfl
  | some store' => exact h

/-- **A step sends what the lookup of its credential sends**, whatever store it is taken over. -/
theorem statements_run (requestId : String) (store : Store) (step : Step) :
    (step.run s requestId store).1.statements
      = step.credential?.elim [] fun c => (store.lookup c).statements := by
  cases step with
  | request r =>
    cases r with
    | none => rfl
    | some r => exact (Asked.serve s store requestId r).statements_eq
  | authenticate c => exact (Asked.authenticate store c).statements_eq
  | find c => rfl
  | insert r => exact statements_change store _ rfl
  | setFailing failing => exact statements_change store _ rfl
  | setServer server => exact statements_change store _ rfl
  | close => exact statements_change store _ rfl

/-- A report of a lookup that failed with this error. A response does not say which one it was. -/
inductive StepResult.Failed (e : StoreError) : StepResult → Prop
  | found : Failed e (.found (.error e))
  | checked : Failed e (.checked (.error e))
  | response {response : Response} : response.status = 500 → Failed e (.response response)

/-- A step whose lookup fails reports that it failed. -/
theorem failed_run (requestId : String) {store : Store} {step : Step} {c : Credential}
    {e : StoreError} (hc : step.credential? = some c)
    (he : (store.lookup c).result = .error e) :
    StepResult.Failed e (step.run s requestId store).1.result := by
  cases step with
  | request r =>
    cases r with
    | none => cases hc
    | some r =>
      refine .response ?_
      have hresponse := Login.serveCredential_response s.auth store c
      rw [he] at hresponse
      show (serve s store requestId r).response.status = 500
      rw [serve_of_submitted hc]
      show (Login.serveCredential s.auth store c).response.status = 500
      rw [hresponse]
      rfl
  | authenticate c' =>
    cases hc
    have hresult : (authenticate store c).result = .error e := by
      rw [authenticate_of_error he]
    show StepResult.Failed e (.checked (authenticate store c).result)
    rw [hresult]
    exact .checked
  | find c' =>
    cases hc
    show StepResult.Failed e (.found (store.lookup c).result)
    rw [he]
    exact .found
  | insert r => cases hc
  | setFailing failing => cases hc
  | setServer server => cases hc
  | close => cases hc

/-! ## A whole session -/

/-- What a step over a pool has the server execute. -/
structure SingleLookup (pool : Pool) (step : Step) (report : Report) : Prop where
  /-- Whatever is executed is the lookup, and its parameters are the two texts of the credential of
  this step, as they are and in this order. -/
  parameterized : ∀ statement ∈ report.statements, ∃ c, step.credential? = some c ∧
    statement.sql = findByCredential ∧ statement.params = [c.loginName, c.password]
  /-- It is executed at most once. -/
  atMostOnce : report.statements.length ≤ 1
  /-- It is executed once if it succeeds. -/
  succeeded : ∀ c users, step.credential? = some c → (pool.lookup c).result = .ok users →
    report.statements.length = 1
  /-- If it fails, then the step reports this failure, and no second attempt. -/
  failed : ∀ c e, step.credential? = some c → (pool.lookup c).result = .error e →
    StepResult.Failed (.query e) report.result

namespace SingleLookup

variable {pool : Pool} {step : Step} {report : Report}

/-- A step without a credential, which has nothing executed. -/
theorem of_none (hc : step.credential? = none) (h : report.statements = []) :
    SingleLookup pool step report := by
  have hother {c : Credential} (hc' : step.credential? = some c) : False := by
    rw [hc] at hc'
    cases hc'
  constructor
  · rw [h]
    exact nofun
  · rw [h]
    exact Nat.zero_le 1
  · intro c users hc'
    exact (hother hc').elim
  · intro c e hc'
    exact (hother hc').elim

/-- A step with a credential, which has executed what one lookup of it has. -/
theorem of_some {c : Credential} (hc : step.credential? = some c)
    (h : report.statements = (pool.lookup c).statements)
    (hfailed : ∀ e, (pool.lookup c).result = .error e →
      StepResult.Failed (.query e) report.result) :
    SingleLookup pool step report := by
  have hsame {c' : Credential} (hc' : step.credential? = some c') : c' = c :=
    Option.some.inj (hc'.symm.trans hc)
  constructor
  · rw [h]
    intro statement hmem
    rw [pool.statements_subset c statement hmem]
    exact ⟨c, hc, rfl, rfl⟩
  · rw [h]
    exact pool.length_statements_le c
  · intro c' users hc' hok
    rw [hsame hc'] at hok
    rw [h, pool.statements_of_ok c hok]
    rfl
  · intro c' e hc' he
    rw [hsame hc'] at he
    exact hfailed e he

end SingleLookup

/-- **One step over a pool.** -/
theorem singleLookup_run (requestId : String) (pool : Pool) (step : Step) :
    SingleLookup pool step (step.run s requestId (.database pool)).1 := by
  have hrun := statements_run s requestId (.database pool) step
  cases hc : step.credential? with
  | none =>
    rw [hc] at hrun
    exact .of_none hc hrun
  | some c =>
    rw [hc] at hrun
    refine .of_some hc hrun ?_
    intro e he
    have hlookup : ((Store.database pool).lookup c).result = .error (.query e) := by
      show (pool.lookup c).result.mapError StoreError.query = .error (.query e)
      rw [he]
      rfl
    exact failed_run s requestId hc hlookup

/-- The pool after a step: a lookup may lose its connection or find another one. -/
def Pool.after (p : Pool) : Step → Pool
  | .setServer server => { p with server }
  | .close => p.close
  | step => step.credential?.elim p fun c => (p.lookup c).pool

theorem Asked.pool_eq {pool : Pool} {asked : Option Credential} {store : Store}
    {statements : List Statement} (h : Asked (.database pool) asked store statements) :
    store = .database (asked.elim pool fun c => (pool.lookup c).pool) := by
  cases h with
  | nothing => rfl
  | credential c => rfl

/-- **What a step leaves of a pool.** -/
theorem run_database (requestId : String) (pool : Pool) (step : Step) :
    (step.run s requestId (.database pool)).2 = .database (pool.after step) := by
  cases step with
  | request r =>
    cases r with
    | none => rfl
    | some r => exact (Asked.serve s (.database pool) requestId r).pool_eq
  | authenticate c => exact (Asked.authenticate (.database pool) c).pool_eq
  | find c => rfl
  | insert r => rfl
  | setFailing failing => rfl
  | setServer server => rfl
  | close => rfl

/-- No step puts another store in the place of a database. -/
theorem exists_pool_run (requestId : String) (step : Step) (store : Store)
    (h : ∃ pool, store = .database pool) :
    ∃ pool, (step.run s requestId store).2 = .database pool := by
  obtain ⟨pool, rfl⟩ := h
  exact ⟨pool.after step, run_database s requestId pool step⟩

/-- **Lookups are single and parameterized.** In every session over a database, wherever a step
stands, the statements that it has the server execute are the one lookup of its credential over the
pool that the earlier steps leave: with this text and these parameters, at most once, once if the
lookup succeeds, not again if it fails, and not at all if the step has no credential. -/
theorem statements_runSteps (p : Pool) (before after : List (String × Step)) (requestId : String)
    (step : Step) :
    ∃ (pool : Pool) (report : Report),
      (runSteps s (.database p) before).2 = .database pool ∧
      (runSteps s (.database p) (before ++ (requestId, step) :: after)).1[before.length]?
        = some report ∧
      SingleLookup pool step report := by
  obtain ⟨pool, hpool⟩ : ∃ pool, (runSteps s (.database p) before).2 = .database pool :=
    runSteps_invariant s (exists_pool_run s) ⟨p, rfl⟩ before
  refine ⟨pool, _, hpool, getElem?_runSteps s (.database p) before after (requestId, step), ?_⟩
  rw [hpool]
  exact singleLookup_run s requestId pool step

end LoginService

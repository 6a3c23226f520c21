import LoginService.Proofs.Session.Memory

/-!
# What a session says about its past

A find in the middle of a session depends on the steps before it by two things only: the last
setting of the flag, and the accounts inserted so far, whether or not the table was failing when
they were. Steps that read can be left out of a session, and all others report what they did.
-/

namespace LoginService

open Http

variable (s : Settings)

/-! ## A find and the steps before it -/

/-- What a table answers while its flag is set, and while it is not. -/
theorem answer_eq_error {m : MemoryStore} {c : Credential} :
    (∃ detail, m.answer c = .error (.unavailable detail)) ↔ m.failing = true := by
  unfold MemoryStore.answer
  cases m.failing with
  | true => exact iff_of_true ⟨"connection refused", rfl⟩ rfl
  | false =>
    refine iff_of_false ?_ Bool.false_ne_true
    rintro ⟨detail, h⟩
    cases h

theorem answer_eq_ok {m : MemoryStore} {c : Credential} {users : List LoginUser} :
    m.answer c = .ok users ↔ m.failing = false ∧ Lists m.records c users := by
  unfold MemoryStore.answer
  cases hf : m.failing with
  | true =>
    refine iff_of_false ?_ fun h => Bool.false_ne_true h.1.symm
    intro h
    cases h
  | false =>
    have hlists := lists_matching m.records c
    constructor
    · intro h
      cases h
      exact ⟨rfl, hlists⟩
    · rintro ⟨-, h⟩
      rw [hlists.unique h]
      rfl

/-- The result of one step of a session over a new table with the given accounts. -/
def resultAt (records : List UserRecord) (steps : List (String × Step)) (i : Nat) :
    Option StepResult :=
  ((runSteps s (.memory { records }) steps).1[i]?).map Report.result

/-- A find is answered by the table that the steps before it leave. -/
theorem resultAt_find (records : List UserRecord) (before after : List (String × Step))
    (requestId : String) (c : Credential) :
    resultAt s records (before ++ (requestId, .find c) :: after) before.length
      = some (.found (MemoryStore.answer
          { records := records ++ insertedBy before
            failing := (lastFlag? before).getD false } c)) := by
  unfold resultAt
  rw [getElem?_runSteps, store_runSteps]
  rfl

theorem getD_eq_true {flag : Option Bool} : flag.getD false = true ↔ flag = some true := by
  cases flag with
  | none => exact iff_of_false Bool.false_ne_true nofun
  | some b => exact ⟨congrArg some, Option.some.inj⟩

/-- A find gives the error of a table that cannot be reached exactly while the flag was last set,
and otherwise a list of all records so far that have the credential. -/
theorem exists_answer_find (records : List UserRecord) (before after : List (String × Step))
    (requestId : String) (c : Credential) :
    ∃ answer, resultAt s records (before ++ (requestId, .find c) :: after) before.length
        = some (.found answer) ∧
      ((∃ detail, answer = .error (.unavailable detail)) ↔ lastFlag? before = some true) ∧
      ∀ users, answer = .ok users ↔
        lastFlag? before ≠ some true ∧ Lists (records ++ insertedBy before) c users := by
  refine ⟨_, resultAt_find s records before after requestId c, ?_, ?_⟩
  · rw [answer_eq_error]
    exact getD_eq_true
  · intro users
    rw [answer_eq_ok, ← Bool.not_eq_true, getD_eq_true]

/-- An account that was inserted is found as long as the flag was not last set to true, whatever
the flag was when it was inserted. -/
theorem exists_found_inserted (records : List UserRecord)
    (before between after : List (String × Step)) (insertId findId : String) (r : UserRecord)
    (c : Credential) (hname : r.logname = c.loginName) (hpassword : r.logpassword = c.password)
    (hflag : lastFlag? (before ++ (insertId, .insert r) :: between) ≠ some true) :
    ∃ users, resultAt s records
        ((before ++ (insertId, .insert r) :: between) ++ (findId, .find c) :: after)
        (before ++ (insertId, .insert r) :: between).length = some (.found (.ok users)) ∧
      r.toUser ∈ users := by
  obtain ⟨answer, hresult, -, hok⟩ := exists_answer_find s records
    (before ++ (insertId, .insert r) :: between) after findId c
  have hlists := lists_matching
    (records ++ insertedBy (before ++ (insertId, .insert r) :: between)) c
  have hanswer := (hok _).mpr ⟨hflag, hlists⟩
  subst hanswer
  have hmem : r ∈ records ++ insertedBy (before ++ (insertId, .insert r) :: between) := by
    simp [insertedBy, Step.inserted]
  refine ⟨_, hresult, hlists.perm.mem_iff.mpr ?_⟩
  refine List.mem_map_of_mem (List.mem_filter.mpr ⟨hmem, ?_⟩)
  exact decide_eq_true ⟨hname, hpassword⟩

/-! ## Sessions without some of their reads -/

/-- The entries of a list that a mask keeps. Those beyond its end are kept. -/
def kept {α : Type} : List Bool → List α → List α
  | _, [] => []
  | [], x :: xs => x :: kept [] xs
  | true :: mask, x :: xs => x :: kept mask xs
  | false :: mask, _ :: xs => kept mask xs

/-- A mask leaves out steps that read, and no others. -/
def LeavesOutReads (mask : List Bool) (steps : List (String × Step)) : Prop :=
  ∀ (i : Nat) (step : String × Step),
    mask[i]? = some false → steps[i]? = some step → step.2.isRead = true

theorem LeavesOutReads.tail {mask mask' : List Bool} {step : String × Step}
    {steps : List (String × Step)} (h : LeavesOutReads mask (step :: steps))
    (hmask : ∀ i : Nat, mask[i + 1]? = mask'[i]?) : LeavesOutReads mask' steps := by
  intro i step' hfalse hstep
  exact h (i + 1) step' ((hmask i).trans hfalse) hstep

/-- What a step reports does not depend on how often the table was asked before. -/
theorem report_setQueries (requestId : String) (m : MemoryStore) (n : Nat) (step : Step) :
    (step.run s requestId (.memory { m with queries := n })).1
      = (step.run s requestId (.memory m)).1 := by
  have hauthenticate : ∀ c, authenticate (.memory { m with queries := n }) c
      = { authenticate (.memory m) c with store := .memory { m with queries := n + 1 } } := by
    intro c
    unfold authenticate
    simp only [Store.lookup, MemoryStore.answer]
    cases m.failing <;> rfl
  cases step with
  | request r =>
    cases r with
    | none => rfl
    | some r =>
      cases hc : r.submitted? with
      | none => exact report_request_congr s requestId hc _ _
      | some c =>
        simp only [Step.run, serve_of_submitted hc, Login.serveCredential, hauthenticate]
        cases (authenticate (.memory m) c).result <;> rfl
  | authenticate c => simp only [Step.run, hauthenticate]
  | find c => rfl
  | insert r => rfl
  | setFailing failing => rfl
  | setServer server => rfl
  | close => rfl

/-- **Reads can be left out.** -/
theorem reports_kept (m : MemoryStore) (n : Nat) (mask : List Bool) (steps : List (String × Step))
    (hreads : LeavesOutReads mask steps) :
    (runSteps s (.memory { m with queries := n }) (kept mask steps)).1
      = kept mask (runSteps s (.memory m) steps).1 := by
  induction steps generalizing m n mask with
  | nil => cases mask <;> rfl
  | cons step steps ih =>
    rw [runSteps_cons, store_run]
    cases mask with
    | nil =>
      have hrest := ih (m.after step.2) (n + step.2.lookups) [] (hreads.tail fun i => rfl)
      simp only [kept]
      rw [runSteps_cons, report_setQueries, store_run]
      exact congrArg _ hrest
    | cons keep mask =>
      cases keep with
      | true =>
        have hrest := ih (m.after step.2) (n + step.2.lookups) mask (hreads.tail fun i => rfl)
        simp only [kept]
        rw [runSteps_cons, report_setQueries, store_run]
        exact congrArg _ hrest
      | false =>
        have hread : step.2.isRead = true := hreads 0 step rfl rfl
        have hrest := ih (m.after step.2) n mask (hreads.tail fun i => rfl)
        simp only [kept]
        rw [← hrest, m.after_of_isRead hread]

/-- **A table over whole sessions.** Over a new table with any accounts, in any session:

* a find gives the error of a table that cannot be reached if and only if the last step that set
  the flag set it to true, and otherwise exactly the list of all records, given at first and
  inserted so far, that have the credential;
* leaving out any steps that only read changes nothing that any other step reports;
* an account that has been inserted, even while the table was failing, is found by its credential
  whenever the flag was not last set to true. -/
theorem memory_session (records : List UserRecord) :
    (∀ before after requestId c, ∃ answer,
      resultAt s records (before ++ (requestId, .find c) :: after) before.length
        = some (.found answer) ∧
      ((∃ detail, answer = .error (.unavailable detail)) ↔ lastFlag? before = some true) ∧
      ∀ users, answer = .ok users ↔
        lastFlag? before ≠ some true ∧ Lists (records ++ insertedBy before) c users) ∧
    (∀ mask steps, LeavesOutReads mask steps →
      (runSteps s (.memory { records }) (kept mask steps)).1
        = kept mask (runSteps s (.memory { records }) steps).1) ∧
    (∀ before between after insertId findId (r : UserRecord) (c : Credential),
      r.logname = c.loginName → r.logpassword = c.password →
      lastFlag? (before ++ (insertId, .insert r) :: between) ≠ some true →
      ∃ users, resultAt s records
          ((before ++ (insertId, .insert r) :: between) ++ (findId, .find c) :: after)
          (before ++ (insertId, .insert r) :: between).length = some (.found (.ok users)) ∧
        r.toUser ∈ users) := by
  refine ⟨?_, ?_, ?_⟩
  · intro before after requestId c
    exact exists_answer_find s records before after requestId c
  · intro mask steps hreads
    exact reports_kept s { records } 0 mask steps hreads
  · intro before between after insertId findId r c hname hpassword hflag
    exact exists_found_inserted s records before between after insertId findId r c hname
      hpassword hflag

/-- A fourth record with the credential of the twins, inserted while the table fails. -/
def latecomer : UserRecord := ⟨-9, "board", "admin", "alice", "secret"⟩

/-- Steps among which the table fails, is asked, and has a record inserted. -/
def failingSteps : List (String × Step) := [
  ("a", .setFailing true), ("b", .request (some twinsLogin)), ("c", .insert latecomer),
  ("d", .setFailing false)]

theorem leavesOutReads_failingSteps : LeavesOutReads [true, false] failingSteps := by
  intro i step hfalse hstep
  match i, hfalse, hstep with
  | 1, _, rfl => rfl

theorem memory_session_latecomer :
    LeavesOutReads [true, false] failingSteps ∧
    (runSteps {} (.memory twins) (kept [true, false] failingSteps)).1
      = kept [true, false] (runSteps {} (.memory twins) failingSteps).1 ∧
    ∃ users, resultAt {} twins.records (failingSteps ++ [("e", .find ⟨"alice", "secret"⟩)]) 4
        = some (.found (.ok users)) ∧ latecomer.toUser ∈ users := by
  obtain ⟨-, hkept, hfound⟩ := memory_session {} twins.records
  refine ⟨leavesOutReads_failingSteps, hkept _ _ leavesOutReads_failingSteps, ?_⟩
  exact hfound (failingSteps.take 2) (failingSteps.drop 3) [] "c" "e" latecomer
    ⟨"alice", "secret"⟩ rfl rfl (by decide)

end LoginService

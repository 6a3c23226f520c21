import LoginService.Proofs.Service.Exchange
import LoginService.Proofs.Session.Run

/-!
# Sessions over a table in memory

Whatever a session does to a table in memory is told by three things of each step: the account it
inserts, what it sets the flag to, and how often it asks. `MemoryStore.after` is the table after one
step, `store_runSteps` the one after a whole run. From there follows what every lookup of a run
gives: an error while the flag is set, and otherwise the accounts of all records so far that have
the credential (`Lists`). Steps that only read leave nothing behind but the count of lookups, so a
run without them reports the same of all other steps.
-/

namespace LoginService

open Http

/-! ## What a step is -/

namespace Step

/-- The step looks a credential up in the store itself. -/
def isFind : Step → Bool
  | .find _ => true
  | _ => false

/-- The step has a credential checked. -/
def isAuthenticate : Step → Bool
  | .authenticate _ => true
  | _ => false

/-- The step is a request that submits a credential. -/
def isLogin : Step → Bool
  | .request (some r) => r.submitted?.isSome
  | _ => false

/-- The step is a request or a lookup. -/
def isRead : Step → Bool
  | .request _ | .authenticate _ | .find _ => true
  | _ => false

/-- The account that the step inserts. -/
def inserted : Step → List UserRecord
  | .insert r => [r]
  | _ => []

/-- What the step sets the flag to. -/
def flag? : Step → Option Bool
  | .setFailing failing => some failing
  | _ => none

/-- How often the step asks the store. -/
def lookups (step : Step) : Nat :=
  step.isFind.toNat + step.isAuthenticate.toNat + step.isLogin.toNat

end Step

/-- The accounts that steps insert, in order. -/
def insertedBy (steps : List (String × Step)) : List UserRecord :=
  steps.flatMap fun step => step.2.inserted

/-- What the last step that sets the flag sets it to. -/
def lastFlag? (steps : List (String × Step)) : Option Bool :=
  (steps.filterMap fun step => step.2.flag?).getLast?

theorem lastFlag?_cons (step : String × Step) (steps : List (String × Step)) (failing : Bool) :
    (lastFlag? (step :: steps)).getD failing
      = (lastFlag? steps).getD (step.2.flag?.getD failing) := by
  unfold lastFlag?
  cases hf : step.2.flag? with
  | none => simp only [List.filterMap_cons, hf, Option.getD_none]
  | some b =>
    simp only [List.filterMap_cons, hf, List.getLast?_cons, Option.getD_some]

/-! ## What a step does -/

/-- The table after a step. -/
def MemoryStore.after (m : MemoryStore) (step : Step) : MemoryStore where
  records := m.records ++ step.inserted
  failing := step.flag?.getD m.failing
  queries := m.queries + step.lookups

/-- A step that only reads counts its lookups and does nothing else. -/
theorem MemoryStore.after_of_isRead (m : MemoryStore) {step : Step} (h : step.isRead = true) :
    m.after step = { m with queries := m.queries + step.lookups } := by
  cases step with
  | request r | authenticate c | find c =>
    simp only [MemoryStore.after, Step.inserted, Step.flag?, List.append_nil, Option.getD_none]
  | insert r => cases h
  | setFailing failing => cases h
  | setServer server => cases h
  | close => cases h

theorem Step.lookups_request (r : Request) :
    (Step.request (some r)).lookups = r.submitted?.toList.length := by
  show 0 + 0 + r.submitted?.isSome.toNat = r.submitted?.toList.length
  cases r.submitted? with
  | none => rfl
  | some c => rfl

/-- A table counts what it is asked, and keeps everything else. -/
theorem Asked.counted {m : MemoryStore} {asked : Option Credential} {store : Store}
    {statements : List Statement} (h : Asked (.memory m) asked store statements) :
    store = .memory { m with queries := m.queries + asked.toList.length } := by
  cases h with
  | nothing => rfl
  | credential c => rfl

variable (s : Settings)

/-- **One step.** The store of a step over a table is the table with what the step inserts, what it
sets and what it counts. -/
theorem store_run (requestId : String) (m : MemoryStore) (step : Step) :
    (step.run s requestId (.memory m)).2 = .memory (m.after step) := by
  cases step with
  | request r =>
    rw [m.after_of_isRead rfl]
    cases r with
    | none => rfl
    | some r =>
      rw [Step.lookups_request]
      exact (Asked.serve s (.memory m) requestId r).counted
  | authenticate c =>
    rw [m.after_of_isRead rfl]
    exact (Asked.authenticate (.memory m) c).counted
  | find c =>
    rw [m.after_of_isRead rfl]
    rfl
  | insert r => rfl
  | setFailing failing =>
    simp only [Step.run, Store.change, Store.setFailing?, MemoryStore.setFailing,
      MemoryStore.after, Step.inserted, Step.flag?, List.append_nil, Option.getD_some]
    rfl
  | setServer server =>
    simp only [Step.run, Store.change, Store.setServer?, MemoryStore.after, Step.inserted,
      Step.flag?, List.append_nil, Option.getD_none]
    rfl
  | close =>
    simp only [Step.run, Store.change, Store.close?, MemoryStore.after, Step.inserted,
      Step.flag?, List.append_nil, Option.getD_none]
    rfl

/-! ## What a run does -/

/-- **A whole run.** The table after a run has the records it had and those inserted since, in this
order; its flag is the one that was set last; and every find, every check of a credential and every
request that submits one has been counted once. -/
theorem store_runSteps (m : MemoryStore) (steps : List (String × Step)) :
    (runSteps s (.memory m) steps).2 = .memory
      { records := m.records ++ insertedBy steps
        failing := (lastFlag? steps).getD m.failing
        queries := m.queries + steps.countP (fun step => step.2.isFind)
          + steps.countP (fun step => step.2.isAuthenticate)
          + steps.countP (fun step => step.2.isLogin) } := by
  induction steps generalizing m with
  | nil =>
    have hrecords : m.records ++ insertedBy [] = m.records := List.append_nil m.records
    rw [hrecords]
    rfl
  | cons step steps ih =>
    have hrecords : insertedBy (step :: steps) = step.2.inserted ++ insertedBy steps := by
      unfold insertedBy
      exact List.flatMap_cons
    have hcount (p : Step → Bool) : (step :: steps).countP (fun step => p step.2)
        = steps.countP (fun step => p step.2) + (p step.2).toNat := by
      rw [List.countP_cons]
      cases p step.2 <;> rfl
    rw [runSteps_cons]
    show (runSteps s (step.2.run s step.1 (.memory m)).2 steps).2 = _
    rw [store_run, ih, hrecords, lastFlag?_cons, hcount, hcount, hcount]
    simp only [MemoryStore.after, List.append_assoc, Step.lookups, Store.memory.injEq,
      MemoryStore.mk.injEq, true_and]
    omega

end LoginService

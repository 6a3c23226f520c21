import LoginService.Proofs.Service.Exchange
import LoginService.Session

/-!
# Runs of steps

A session takes its steps one after another, each over the store that the earlier ones leave. So the
report of a step is found at its place in the list, and tells what the step does over that store;
and what every step keeps of a store, every session keeps. Of a request without a credential the
store shows nothing in the report.
-/

namespace LoginService

open Http

variable (s : Settings)

theorem runSteps_cons (store : Store) (step : String × Step) (steps : List (String × Step)) :
    runSteps s store (step :: steps) =
      ((step.2.run s step.1 store).1 :: (runSteps s (step.2.run s step.1 store).2 steps).1,
        (runSteps s (step.2.run s step.1 store).2 steps).2) := rfl

theorem runSteps_append (store : Store) (before after : List (String × Step)) :
    runSteps s store (before ++ after) =
      ((runSteps s store before).1 ++ (runSteps s (runSteps s store before).2 after).1,
        (runSteps s (runSteps s store before).2 after).2) := by
  induction before generalizing store with
  | nil => rfl
  | cons step before ih =>
    rw [List.cons_append, runSteps_cons, runSteps_cons, ih, List.cons_append]

/-- Every step reports once. -/
theorem length_runSteps (store : Store) (steps : List (String × Step)) :
    (runSteps s store steps).1.length = steps.length := by
  induction steps generalizing store with
  | nil => rfl
  | cons step steps ih =>
    rw [runSteps_cons, List.length_cons, List.length_cons, ih]

/-- A step reports what it does over the store that the steps before it leave. -/
theorem getElem?_runSteps (store : Store) (before after : List (String × Step))
    (step : String × Step) :
    (runSteps s store (before ++ step :: after)).1[before.length]?
      = some (step.2.run s step.1 (runSteps s store before).2).1 := by
  have hlength := length_runSteps s store before
  rw [runSteps_append, List.getElem?_append_right (Nat.le_of_eq hlength), hlength, Nat.sub_self,
    runSteps_cons, List.getElem?_cons_zero]

/-- A request without a credential is reported alike over any two stores. -/
theorem report_request_congr (requestId : String) {r : Request} (h : r.submitted? = none)
    (store other : Store) :
    ((Step.request (some r)).run s requestId store).1
      = ((Step.request (some r)).run s requestId other).1 := by
  have hfree : StoreFree fun store => serve s store requestId r := storeFree_serve h requestId
  obtain ⟨-, hnone, hresponse, hevents⟩ := hfree.spec store other
  have hnone' : (serve s other requestId r).statements = [] := (hfree.spec other other).2.1
  simp only [Step.run, hresponse, hevents, hnone, hnone']

/-- What holds of a store and is kept by every step holds after every run. -/
theorem runSteps_invariant {Kept : Store → Prop}
    (step : ∀ (requestId : String) (step : Step) (store : Store),
      Kept store → Kept (step.run s requestId store).2)
    {store : Store} (h : Kept store) (steps : List (String × Step)) :
    Kept (runSteps s store steps).2 := by
  induction steps generalizing store with
  | nil => exact h
  | cons first rest ih =>
    rw [runSteps_cons]
    exact ih (step first.1 first.2 store h)

end LoginService

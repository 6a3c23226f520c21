import LoginService.Proofs.Session.Memory

/-!
# Every lookup is counted once

A table in memory counts how often it was asked. Over a whole session the count is that of the
finds, the checks of a credential and the requests that submit one, whether or not the table was
failing: nothing is asked twice, and nothing before a body has been found to be in order.
-/

namespace LoginService

open Http

/-- **Store accounting.** After any run over a table the count of lookups has grown by the number of
finds, the number of checks of a credential, and the number of requests that post to the login path
a body within the limit that can be decoded. Any other request leaves every store as it is and sends
it no statement, and its response is the same for all stores. -/
theorem queries_runSteps (s : Settings) (m : MemoryStore) (steps : List (String × Step)) :
    (runSteps s (.memory m) steps).2.queries? = some (m.queries
      + steps.countP (fun step => step.2.isFind)
      + steps.countP (fun step => step.2.isAuthenticate)
      + steps.countP (fun step => step.2.isLogin)) ∧
    ∀ r : Request, r.submitted? = none → ∀ (requestId : String) (store other : Store),
      (serve s store requestId r).store = store ∧
      (serve s store requestId r).statements = [] ∧
      (serve s store requestId r).response = (serve s other requestId r).response := by
  constructor
  · rw [store_runSteps]
    rfl
  · intro r hr requestId store other
    obtain ⟨hstore, hstatements, hresponse, -⟩ :=
      (storeFree_serve (s := s) hr requestId).spec store other
    exact ⟨hstore, hstatements, hresponse⟩

/-- A question from elsewhere about the login path, with a body that could be decoded. -/
def loginPreflight : Request := { twinsLogin with method := "OPTIONS" }

/-- A login whose body ends too early. -/
def brokenLogin : Request := { twinsLogin with body := [0x7B] }

/-- Lookups of three kinds, before and after the table fails, and requests that are none. -/
def mixedSteps : List (String × Step) := [
  ("a", .find ⟨"alice", "secret"⟩),
  ("b", .request (some brokenLogin)),
  ("c", .setFailing true),
  ("d", .request (some twinsLogin)),
  ("e", .authenticate ⟨"alice", "other"⟩),
  ("f", .request (some loginPreflight)),
  ("g", .setFailing false),
  ("h", .request (some twinsLogin))]

theorem submitted?_loginPreflight : loginPreflight.submitted? = none := by decide

theorem queries_runSteps_mixed :
    (runSteps {} (.memory twins) mixedSteps).2.queries? = some 4 ∧
    loginPreflight.submitted? = none ∧
    (serve {} (.memory twins) "f" loginPreflight).store = .memory twins ∧
    (serve {} (.memory twins) "f" loginPreflight).response
      = (serve {} (.fixed []) "f" loginPreflight).response := by
  obtain ⟨hqueries, hothers⟩ := queries_runSteps {} twins mixedSteps
  obtain ⟨hstore, -, hresponse⟩ := hothers loginPreflight submitted?_loginPreflight "f"
    (.memory twins) (.fixed [])
  refine ⟨?_, submitted?_loginPreflight, hstore, hresponse⟩
  rw [hqueries]
  have hbroken : brokenLogin.submitted? = none := by decide +kernel
  simp [mixedSteps, Step.isFind, Step.isAuthenticate, Step.isLogin, hbroken,
    submitted?_twinsLogin, submitted?_loginPreflight, twins]

end LoginService

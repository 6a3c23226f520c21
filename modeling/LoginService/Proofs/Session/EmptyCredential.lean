import LoginService.Proofs.Service.Malformed
import LoginService.Proofs.Session.Memory

/-!
# Logins with two empty texts

A body may leave both fields empty: `null`, an object that gives neither of them or gives them as
empty texts, a list of empty texts (`LeavesEmpty`). An empty text is compared like any other one.
So what such a login is answered depends on the table: it is a mismatch exactly as long as no
record has two empty texts itself, and otherwise the account of such a record is told
(`serve_empty`).
-/

namespace LoginService

open Http Json
open Login (Selects fieldNames)

/-! ## Bodies that leave both fields empty -/

namespace LoginRequest

/-- A value that gives neither field, or gives it as an empty text. -/
inductive LeavesEmpty : Value → Prop
  | null : LeavesEmpty .null
  | object {members : List (String × Value)} :
      (∀ name ∈ fieldNames, Selects name members none ∨ Selects name members (some (.text ""))) →
      LeavesEmpty (.object members)
  | positional {items : List Value} : Positional (.list items) ⟨"", ""⟩ → LeavesEmpty (.list items)

theorem reads_empty {o : Option Value} : Reads o "" ↔ o = none ∨ o = some (.text "") := by
  constructor
  · intro h
    cases h with
    | absent => exact Or.inl rfl
    | text => exact Or.inr rfl
  · rintro (rfl | rfl)
    · exact .absent
    · exact .text ""

/-- What folding gives a field is what the field is to take. -/
theorem getElem?_foldKeys_eq_iff {name : String} (h : name ∈ fieldNames)
    {members : List (String × Value)} {o : Option Value} :
    (Login.foldKeys (Login.Members.ofList members))[name]? = o ↔ Selects name members o := by
  constructor
  · rintro rfl
    exact Login.selects_foldKeys h members
  · intro hselects
    exact Login.selects_unique (Login.selects_foldKeys h members) hselects

/-- **The values that are decoded as two empty texts** are those that leave both fields empty. -/
theorem ofValue_ok_empty_iff {v : Value} : ofValue v = .ok ⟨"", ""⟩ ↔ LeavesEmpty v := by
  cases v with
  | null => exact iff_of_true rfl .null
  | bool b | number n | text t => exact iff_of_false nofun nofun
  | object members =>
    have hfields : LeavesEmpty (.object members) ↔ ∀ name ∈ fieldNames,
        Selects name members none ∨ Selects name members (some (.text "")) := by
      constructor
      · rintro ⟨⟩
        assumption
      · exact .object
    rw [hfields]
    show ofMembers _ = .ok _ ↔ _
    rw [ofMembers_ok_iff, reads_empty, reads_empty]
    simp only [getElem?_foldKeys_eq_iff (show "loginname" ∈ fieldNames by decide),
      getElem?_foldKeys_eq_iff (show "password" ∈ fieldNames by decide), fieldNames,
      List.forall_mem_cons, List.not_mem_nil, false_implies, implies_true, and_true]
  | list items =>
    have hpositional : ofValue (.list items) = .ok ⟨"", ""⟩ ↔ Positional (.list items) ⟨"", ""⟩ :=
      ofItems_ok_iff_positional
    rw [hpositional]
    constructor
    · exact .positional
    · rintro ⟨⟩
      assumption

theorem decode_ok_empty_iff {body : List UInt8} :
    decode body = .ok ⟨"", ""⟩ ↔ ∃ v, Value.parse body = .ok v ∧ LeavesEmpty v := by
  cases hv : Value.parse body with
  | error e =>
    rw [decode_of_error hv]
    exact iff_of_false nofun nofun
  | ok v =>
    rw [decode_of_parse hv, ofValue_ok_empty_iff]
    constructor
    · intro hempty
      exact ⟨v, rfl, hempty⟩
    · rintro ⟨_, ⟨⟩, hempty⟩
      exact hempty

end LoginRequest

/-! ## What they are answered -/

/-- A login with two empty texts is answered as the records of a table have it. -/
structure AnsweredEmpty (s : AuthSettings) (records : List UserRecord) (e : Exchange) : Prop where
  mismatched : (∀ r ∈ records, ¬ (r.logname = "" ∧ r.logpassword = "")) →
    e.response.status = (if s.rejectWithUnauthorized then 401 else 200) ∧
      e.response.body = .text (LoginErrorResponse.print ⟨"Loginname or password not correct."⟩)
  found : ∀ r, Wins records ⟨"", ""⟩ r → e.response.status = 200 ∧
    e.response.body = .text (LoginResponse.print ⟨r.id, r.department, r.purview, r.logname⟩)
  /-- An account is told only where a record has two empty texts. -/
  account : (∃ u : LoginResponse, e.response.body = .text u.print) ↔
    ∃ r ∈ records, r.logname = "" ∧ r.logpassword = ""

variable (s : Settings) (requestId : String) {r : Request}

theorem answeredEmpty_serve {m : MemoryStore} (hr : r.ReachesLogin) (hm : m.failing = false)
    (hq : LoginRequest.decode r.body = .ok ⟨"", ""⟩) :
    AnsweredEmpty s.auth m.records (serve s (.memory m) requestId r) := by
  obtain ⟨method, path, short⟩ := hr
  have hmismatched (hnone : ∀ r ∈ m.records, ¬ (r.logname = "" ∧ r.logpassword = "")) :=
    serve_login_of_answers s requestId method path short (.mismatched hq hm hnone)
  have hfound (w : UserRecord) (hw : Wins m.records ⟨"", ""⟩ w) :=
    serve_login_of_answers s requestId method path short (.found hq hm hw)
  refine ⟨hmismatched, hfound, ?_⟩
  constructor
  · rintro ⟨u, hu⟩
    by_cases hsome : ∃ r ∈ m.records, r.logname = "" ∧ r.logpassword = ""
    · exact hsome
    · have hsent := (hmismatched fun r hr htexts => hsome ⟨r, hr, htexts⟩).2
      rw [hu] at hsent
      -- the text of an account is never that of a mismatch
      have hresult : LoginResult.success u = .failure ⟨"Loginname or password not correct."⟩ :=
        LoginResult.print_injective (Body.text.inj hsent)
      cases hresult
  · rintro ⟨r, hr, htexts⟩
    obtain ⟨w, hw⟩ := exists_wins (c := ⟨"", ""⟩) hr htexts
    exact ⟨_, (hfound w hw).2⟩

theorem serve_of_tooLong {store : Store} (method : r.method = "POST") (path : r.path = "/v1/login")
    (long : Login.maxBodyLength < r.body.length) :
    (serve s store requestId r).response.status = 413 := by
  rw [(serve_login_kept s store requestId method path).1, Login.serve, if_pos long]
  rfl

/-- **Empty credentials.**  The bodies that are decoded as two empty texts are those that leave both
fields empty. Over every table that a session reaches, as long as it can be reached, they are
answered with the mismatch, as configured, unless some record has two empty texts itself, and with
the winner's account if one has. A body beyond the limit is not decoded at all. -/
theorem serve_empty (m : MemoryStore) (steps : List (String × Step))
    (reachable : (lastFlag? steps).getD m.failing = false) (method : r.method = "POST")
    (path : r.path = "/v1/login") :
    (LoginRequest.decode r.body = .ok ⟨"", ""⟩ ↔
        ∃ v, Value.parse r.body = .ok v ∧ LoginRequest.LeavesEmpty v) ∧
      (LoginRequest.decode r.body = .ok ⟨"", ""⟩ →
        (r.body.length ≤ 2097152 → AnsweredEmpty s.auth (m.records ++ insertedBy steps)
          (serve s (runSteps s (.memory m) steps).2 requestId r)) ∧
        (2097152 < r.body.length →
          (serve s (runSteps s (.memory m) steps).2 requestId r).response.status = 413)) := by
  refine ⟨LoginRequest.decode_ok_empty_iff, ?_⟩
  intro hdecode
  constructor
  · intro short
    rw [store_runSteps]
    exact answeredEmpty_serve (m := ⟨_, _, _⟩) s requestId ⟨method, path, short⟩ reachable hdecode
  · exact serve_of_tooLong s requestId method path

/-- A table with each of the two texts empty in some record, and both in none. -/
def halfEmpty : MemoryStore where
  records := [⟨1, "hall", "user", "kiosk", ""⟩, ⟨2, "eng", "admin", "", "secret"⟩]

/-- The table cannot be reached for a while, and meanwhile gets another record. -/
def outageSteps : List (String × Step) := [
  ("a", .setFailing true), ("b", .insert ⟨0, "lab", "user", "guest", ""⟩),
  ("c", .setFailing false)]

/-- An object with an empty name in another spelling and without a password. -/
def blankValue : Value :=
  .object [("LoginName", .text ""), ("note", .text "kiosk")]

/-- A login by such an object. -/
def blankLogin : Request :=
  { twinsLogin with
    body := Text.Utf8.encode
      (printObject [("LoginName", printString ""), ("note", printString "kiosk")]) }

/-- The settings that reject a mismatch. -/
def rejecting : Settings where
  auth := ⟨true⟩

theorem serve_empty_outage :
    (lastFlag? outageSteps).getD halfEmpty.failing = false ∧
      blankLogin.method = "POST" ∧ blankLogin.path = "/v1/login" ∧
      (∃ v, Value.parse blankLogin.body = .ok v ∧ LoginRequest.LeavesEmpty v) ∧
      LoginRequest.decode blankLogin.body = .ok ⟨"", ""⟩ ∧ blankLogin.body.length ≤ 2097152 ∧
      AnsweredEmpty rejecting.auth (halfEmpty.records ++ insertedBy outageSteps)
        (serve rejecting (runSteps rejecting (.memory halfEmpty) outageSteps).2 "d" blankLogin) ∧
      (serve rejecting (runSteps rejecting (.memory halfEmpty) outageSteps).2 "d"
        blankLogin).response.status = 401 := by
  have hself : StandsFor Parses blankValue blankValue :=
    standsFor_object_self (by decide) (by simp [StandsFor.text])
  have hv : Value.parse blankLogin.body = .ok blankValue :=
    parse_of_document (document_printObject [.string "LoginName" "", .string "note" "kiosk"]) hself
  have hdecode : LoginRequest.decode blankLogin.body = .ok ⟨"", ""⟩ :=
    LoginRequest.decode_of_parse hv
  have short : blankLogin.body.length ≤ 2097152 := by decide
  obtain ⟨hempty, hserve⟩ :=
    serve_empty rejecting "d" halfEmpty outageSteps rfl (r := blankLogin) rfl rfl
  have hanswered := (hserve hdecode).1 short
  exact ⟨rfl, rfl, rfl, hempty.mp hdecode, hdecode, short, hanswered,
    (hanswered.mismatched (by decide)).1⟩

/-- A table with a record of two empty texts. -/
def nameless : MemoryStore where
  records := [⟨1, "eng", "admin", "", ""⟩]

/-- A login with the body `null`. -/
def nullLogin : Request :=
  { twinsLogin with body := Text.Utf8.encode "null".toList }

/-- An empty text is no text that matches nothing: a record with two of them is found. -/
theorem nullLogin_found :
    LoginRequest.decode nullLogin.body = .ok ⟨"", ""⟩ ∧
      (serve {} (.memory nameless) "request" nullLogin).response.status = 200 ∧
      (serve {} (.memory nameless) "request" nullLogin).response.body
        = .text (LoginResponse.print ⟨1, "eng", "admin", ""⟩) := by
  have hv : Value.parse nullLogin.body = .ok .null :=
    parse_of_document
      ⟨[], _, [], blank_nil, spells_of_scalar .null 127, blank_nil, (by decide)⟩ .null
  have hdecode : LoginRequest.decode nullLogin.body = .ok ⟨"", ""⟩ :=
    LoginRequest.decode_of_parse hv
  have hwins : Wins nameless.records ⟨"", ""⟩ ⟨1, "eng", "admin", "", ""⟩ :=
    ⟨[], [], rfl, ⟨rfl, rfl⟩, nofun, nofun⟩
  have hreaches : nullLogin.ReachesLogin := ⟨rfl, rfl, by decide⟩
  have hanswered : AnsweredEmpty (Settings.auth {}) nameless.records
      (serve {} (.memory nameless) "request" nullLogin) :=
    answeredEmpty_serve {} "request" hreaches rfl hdecode
  exact ⟨hdecode, hanswered.found ⟨1, "eng", "admin", "", ""⟩ hwins⟩

end LoginService

import LoginService.Proofs.Service.Interchange
import LoginService.Proofs.Service.Malformed

/-!
# What a failure tells a client

A body that cannot be decoded and a lookup that fails are answered by one fixed body each. What the
decoder has found, what the database has said and which store was asked are part of no answer
(`failures_undisclosed`). The fixed bodies repeat the status of their answers, and are not read as
what a login answers, neither as an account nor as a mismatch.
-/

namespace LoginService

open Http Json
open Text.Utf8 (encode)

/-! ## The layers around an answer -/

/-- The response of the login endpoint as a client receives it: with the headers of the layers
around the endpoint. -/
def Http.Response.layered (response : Response) (requestId : String) : Response :=
  (response.addHeaders (("access-control-expose-headers", "*") :: originHeaders)).addHeaders
    [(requestIdHeader, requestId)]

variable (s : Settings) (store : Store) (requestId : String) {r : Request}

theorem serve_of_reachesLogin (h : r.ReachesLogin) :
    (serve s store requestId r).response
      = (Login.serve s.auth store r.body).response.layered requestId := by
  obtain ⟨method, path, -⟩ := h
  rw [← serveRoute_login s store method path]
  show (serveOrigin s store r).response.addHeaders _ = _
  rw [serveOrigin_of_post s store method]
  rfl

theorem serve_of_malformed (h : r.ReachesLogin) {e : Json.Error}
    (he : LoginRequest.decode r.body = .error e) :
    (serve s store requestId r).response = (Login.ofFailure (.decode e)).layered requestId := by
  rw [serve_of_reachesLogin s store requestId h, Login.serve_of_error h.2.2 he]

theorem serve_of_looksUp {q : LoginRequest} {result : Except StoreError (List LoginUser)}
    (h : r.LooksUp store q result) :
    (serve s store requestId r).response = (Login.ofLookup s.auth result).layered requestId := by
  obtain ⟨hr, hq, rfl⟩ := h
  rw [serve_of_reachesLogin s store requestId hr, Login.serve_of_ok hr.2.2 hq,
    Login.serveCredential_response]
  rfl

/-! ## Bodies of failures -/

/-- The text of a technical error: an object that repeats a status, and nothing that a login
answers. -/
structure TechnicalText (status : UInt16) (text : List Char) : Prop where
  object : ∃ members, Value.parse (encode text) = .ok (.object members) ∧
    members.filter (fun m => m.1 == "status") = [("status", .number (.whole status.toNat))]
  notSuccess : ∀ r, LoginResponse.record.parse (encode text) ≠ .ok r
  notMismatch : ∀ e, LoginErrorResponse.record.parse (encode text) ≠ .ok e
  notResult : ∀ r, LoginResult.parse (encode text) ≠ .ok r

/-- A document whose value is neither variant of a result is not read as one. -/
theorem LoginResult.parse_ne_ok {bytes : List UInt8} {v : Value} {e : Json.Error}
    (h : Document bytes v) (hv : LoginResult.ofValue v = .error e) (r : LoginResult) :
    LoginResult.parse bytes ≠ .ok r := by
  obtain ⟨c, hc, -⟩ := readValue_of_document h
  rw [LoginResult.parse, hc]
  dsimp only
  rw [hv]
  intro hr
  cases hr

theorem technicalText_print (b : ErrorBody) : TechnicalText b.status b.print := by
  have hdocument := ErrorBody.codec.document_print b
  constructor
  case object =>
    refine ⟨_, parse_of_document hdocument (standsFor_object_self ?_ ?_), by simp [ErrorBody.codec]⟩
    · simp [ErrorBody.codec, firstKey, embeddingKey]
    · simp [ErrorBody.codec, StandsFor.text, StandsFor.number]
  case notSuccess =>
    refine ErrorBody.codec.parse_print_ne LoginResponse.codec.plan b ?_
    simp [Plan.ofValue?, Plan.member, ErrorBody.codec, LoginResponse.codec, LoginUser.codec,
      LoginResponse.record, LoginUser.ofDraft, Except.map, Except.toOption]
  case notMismatch =>
    refine ErrorBody.codec.parse_print_ne LoginErrorResponse.codec.plan b ?_
    simp [Plan.ofValue?, Plan.member, ErrorBody.codec, LoginErrorResponse.codec,
      LoginErrorResponse.record, Except.toOption]
  case notResult =>
    refine LoginResult.parse_ne_ok hdocument (e := ⟨.noVariant "LoginResult", none⟩) ?_
    simp [LoginResult.ofValue, ErrorBody.codec, LoginResponse.ofValue?,
      LoginErrorResponse.ofValue?, only?]

/-- A response that tells of a technical error, and of nothing but its status. -/
def Technical (status : UInt16) (response : Response) : Prop :=
  response.status = status ∧ ∃ text, response.body = .text text ∧ TechnicalText status text

theorem technical_ofFailure (f : Failure) :
    Technical f.status ((Login.ofFailure f).layered requestId) :=
  ⟨rfl, _, rfl, technicalText_print f.body⟩

/-- Two failures with one body are told apart by no client. -/
theorem sameApartFromId_ofFailure {f f' : Failure} (h : f.body = f'.body) (id id' : String) :
    SameApartFromId ((Login.ofFailure f).layered id) ((Login.ofFailure f').layered id') := by
  have hanswer : Login.ofFailure f = Login.ofFailure f' := by
    have hstatus : f.status = f'.status := congrArg ErrorBody.status h
    unfold Login.ofFailure
    rw [h, hstatus]
  rw [hanswer]
  exact sameApartFromId_addId _ id id'

/-! ## Failures of logins -/

/-- Two requests fail alike: their responses are the same apart from their identifiers, and tell of
a technical error. -/
structure FailAlike (status : UInt16) (a b : Response) : Prop where
  same : SameApartFromId a b
  technical : Technical status a

theorem failAlike_ofFailure (f f' : Failure) (h : f.body = f'.body) (id id' : String) :
    FailAlike f.status ((Login.ofFailure f).layered id) ((Login.ofFailure f').layered id') :=
  ⟨sameApartFromId_ofFailure h id id', technical_ofFailure id f⟩

/-- **Failures disclose nothing.** Any two bodies that cannot be decoded are answered alike, and so
are any two lookups that fail, under any settings, over stores of any kinds, whatever was submitted
and whatever the errors say; and so would any two errors of a store be, also those that no store
here gives. -/
theorem failures_undisclosed (s s' : Settings) (store store' : Store) (id id' : String) :
    (∀ (r r' : Request) (e e' : Json.Error), r.ReachesLogin → r'.ReachesLogin →
      LoginRequest.decode r.body = .error e → LoginRequest.decode r'.body = .error e' →
      FailAlike 400 (serve s store id r).response (serve s' store' id' r').response) ∧
    (∀ (r r' : Request) (q q' : LoginRequest) (e e' : StoreError),
      r.LooksUp store q (.error e) → r'.LooksUp store' q' (.error e') →
      FailAlike 500 (serve s store id r).response (serve s' store' id' r').response) ∧
    ∀ e e' : StoreError, FailAlike 500 ((Login.ofLookup s.auth (.error e)).layered id)
      ((Login.ofLookup s'.auth (.error e')).layered id') := by
  have hlookups (e e' : StoreError) : FailAlike 500
      ((Login.ofLookup s.auth (.error e)).layered id)
      ((Login.ofLookup s'.auth (.error e')).layered id') :=
    failAlike_ofFailure (.query e) (.query e') rfl id id'
  refine ⟨?_, ?_, hlookups⟩
  · intro r r' e e' hr hr' he he'
    rw [serve_of_malformed s store id hr he, serve_of_malformed s' store' id' hr' he']
    exact failAlike_ofFailure (.decode e) (.decode e') rfl id id'
  · intro r r' q q' e e' hr hr'
    rw [serve_of_looksUp s store id hr, serve_of_looksUp s' store' id' hr']
    exact hlookups e e'

/-- A login without a body. -/
def emptyLogin : Request := { twinsLogin with body := [] }

theorem failures_undisclosed_closed :
    (∃ e, LoginRequest.decode emptyLogin.body = .error e) ∧
      (∃ e, LoginRequest.decode lengthyLogin.body = .error e) ∧
      twinsLogin.LooksUp closedDatabase ⟨"alice", "secret"⟩ (.error (.query .poolClosed)) ∧
      FailAlike 400 (serve {} closedDatabase "first" emptyLogin).response
        (serve { auth := ⟨true⟩ } (.memory twins) "second" lengthyLogin).response ∧
      FailAlike 500 (serve {} closedDatabase "first" twinsLogin).response
        (serve { auth := ⟨true⟩ } (.memory { failing := true }) "second" twinsLogin).response := by
  have hempty : LoginRequest.decode emptyLogin.body = .error ⟨.endInValue, some ⟨1, 0⟩⟩ := by cbv
  have hlengthy : LoginRequest.decode lengthyLogin.body =
      .error ⟨.wrongLength 3 "fewer elements in array", none⟩ :=
    LoginRequest.decode_of_parse (parse_bracketed ["alice", "secret", "extra"])
  have htwins : LoginRequest.decode twinsLogin.body = .ok ⟨"alice", "secret"⟩ :=
    LoginRequest.decode_print ⟨"alice", "secret"⟩
  have hreaches : twinsLogin.ReachesLogin := ⟨rfl, rfl, by decide⟩
  have hclosed : twinsLogin.LooksUp closedDatabase ⟨"alice", "secret"⟩
      (.error (.query .poolClosed)) := ⟨hreaches, htwins, rfl⟩
  have hfailing : twinsLogin.LooksUp (.memory { failing := true }) ⟨"alice", "secret"⟩
      (.error (.unavailable "connection refused")) := ⟨hreaches, htwins, rfl⟩
  obtain ⟨hmalformed, -, -⟩ := failures_undisclosed {} { auth := ⟨true⟩ } closedDatabase
    (.memory twins) "first" "second"
  obtain ⟨-, hlookups, -⟩ := failures_undisclosed {} { auth := ⟨true⟩ } closedDatabase
    (.memory { failing := true }) "first" "second"
  exact ⟨⟨_, hempty⟩, ⟨_, hlengthy⟩, hclosed,
    hmalformed emptyLogin lengthyLogin _ _ ⟨rfl, rfl, by decide⟩ ⟨rfl, rfl, by decide⟩ hempty
      hlengthy,
    hlookups twinsLogin twinsLogin _ _ _ _ hclosed hfailing⟩

end LoginService

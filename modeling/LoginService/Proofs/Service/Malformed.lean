import LoginService.Proofs.Json.Encoding
import LoginService.Proofs.Service.Log

/-!
# Bodies that cannot be decoded

A body within the limit that is posted to the login path and cannot be decoded is answered by one
fixed body, and the store is not asked (`serve_malformed`). What cannot be decoded is not everything
that is no object: lists of at most two texts are read by position (`Positional`), and so are an
exception among the values that are neither an object nor `null` (`refused_unless_positional`).
Bytes that are not UTF-8 cannot be decoded, wherever in the body they stand (`refused_unless_utf8`).
-/

namespace LoginService

open Http Json

variable (s : Settings) (store : Store) (requestId : String) {r : Request}

theorem submitted?_of_error {e : Json.Error} (h : LoginRequest.decode r.body = .error e) :
    r.submitted? = none := by
  cases hc : r.submitted? with
  | none => rfl
  | some c =>
    obtain ⟨-, -, -, q, hq, -⟩ := submitted?_eq_some.mp hc
    rw [h] at hq
    cases hq

/-- A body that cannot be decoded has the request answered as malformed. -/
structure AnsweredMalformed (store : Store) (e : Exchange) : Prop where
  status : e.response.status = 400
  body : e.response.body = .text (ErrorBody.print ⟨400, "Your request is in a bad format."⟩)
  /-- The store is not asked: a table would have counted it. -/
  store : e.store = store
  statements : e.statements = []

/-- **A malformed body** is answered without the store. -/
theorem serve_malformed (hr : r.ReachesLogin) {e : Json.Error}
    (he : LoginRequest.decode r.body = .error e) :
    AnsweredMalformed store (serve s store requestId r) := by
  obtain ⟨hm, hp, hl⟩ := hr
  obtain ⟨hstatus, hbody⟩ := serve_login_kept s store requestId hm hp
  have hresponse : (Login.serve s.auth store r.body).response = Login.ofFailure (.decode e) :=
    Login.serve_of_error hl he
  obtain ⟨hstore, hstatements, -⟩ :=
    (storeFree_serve (s := s) (submitted?_of_error he) requestId).spec store store
  rw [hresponse] at hstatus hbody
  exact ⟨hstatus, hbody, hstore, hstatements⟩

/-! ## Bodies that are no text -/

/-- **A body that is not UTF-8** is refused at a place in it. Then it is answered as malformed,
whatever the store is, wherever it is posted as a login. -/
theorem refused_unless_utf8 {body : List UInt8} (h : ∀ cs, body ≠ Text.Utf8.encode cs) :
    (∃ e p, LoginRequest.decode body = .error e ∧ e.position = some p ∧ 1 ≤ p.line) ∧
      ∀ r : Request, r.ReachesLogin → r.body = body →
        ∀ store requestId, AnsweredMalformed store (serve s store requestId r) := by
  have hrefused :
      ∃ e p, LoginRequest.decode body = .error e ∧ e.position = some p ∧ 1 ≤ p.line := by
    cases hv : Value.parse body with
    | ok v =>
      obtain ⟨cs, hcs⟩ := exists_encode_of_parse hv
      exact absurd hcs (h cs)
    | error e =>
      obtain ⟨p, hp, hline⟩ := exists_position_of_parse hv
      exact ⟨e, p, LoginRequest.decode_of_error hv, hp, hline⟩
  refine ⟨hrefused, ?_⟩
  rintro r hr rfl store requestId
  obtain ⟨e, p, he, -⟩ := hrefused
  exact serve_malformed s store requestId hr he

/-- A login with a member that is not asked for. Deep in it stands a text in which a character of
four bytes is begun before an escape and goes on after it. -/
def illegibleLogin : Request :=
  { twinsLogin with
    body := Text.Utf8.encode "\x7b\"loginname\":\"alice\",\"extra\":[\x7b\"note\":\"".toList ++
      [0xF0, 0x9F] ++ Text.Utf8.encode "\\u0041".toList ++ [0x98, 0x80] ++
      Text.Utf8.encode "\"\x7d]\x7d".toList }

theorem refused_unless_utf8_broken :
    (∀ cs, illegibleLogin.body ≠ Text.Utf8.encode cs) ∧
      (∃ e p, LoginRequest.decode illegibleLogin.body = .error e ∧ e.position = some p ∧
        1 ≤ p.line) ∧
      AnsweredMalformed (.memory twins) (serve {} (.memory twins) "request" illegibleLogin) := by
  have hdecode : Text.Utf8.decode? illegibleLogin.body = none := by decide
  have hbroken : ∀ cs, illegibleLogin.body ≠ Text.Utf8.encode cs := by
    intro cs hcs
    rw [hcs, Text.Utf8.decode?_encode] at hdecode
    cases hdecode
  obtain ⟨hrefused, hanswered⟩ := refused_unless_utf8 {} hbroken
  exact ⟨hbroken, hrefused,
    hanswered illegibleLogin ⟨rfl, rfl, by decide⟩ rfl (.memory twins) "request"⟩

/-! ## Values that are no objects -/

namespace LoginRequest

/-- A list of at most two texts, and the request that it stands for: the login name comes first, and
what is missing is empty. -/
inductive Positional : Value → LoginRequest → Prop
  | none : Positional (.list []) ⟨"", ""⟩
  | name (n : String) : Positional (.list [.text n]) ⟨n, ""⟩
  | both (n p : String) : Positional (.list [.text n, .text p]) ⟨n, p⟩

theorem ofItems_ok_iff_positional {items : List Value} {q : LoginRequest} :
    ofItems items = .ok q ↔ Positional (.list items) q := by
  rw [ofItems_ok_iff]
  obtain ⟨name, password⟩ := q
  constructor
  · rintro ⟨hlength, hname, hpassword⟩
    match items, name, password, hlength, hname, hpassword with
    | [], _, _, _, .absent, .absent => exact .none
    | [_], _, _, _, .text n, .absent => exact .name n
    | [_, _], _, _, _, .text n, .text p => exact .both n p
  · intro h
    cases h with
    | none => exact ⟨Nat.zero_le 2, .absent, .absent⟩
    | name => exact ⟨Nat.le_succ 1, .text name, .absent⟩
    | both => exact ⟨Nat.le_refl 2, .text name, .text password⟩

/-- A value that is neither an object nor `null` stands for a request by position or not at all. -/
theorem ofValue_ok_iff_positional {v : Value} (hnull : v ≠ .null)
    (hobject : ∀ members, v ≠ .object members) {q : LoginRequest} :
    ofValue v = .ok q ↔ Positional v q := by
  cases v with
  | null => exact absurd rfl hnull
  | object members => exact absurd rfl (hobject members)
  | list items => exact ofItems_ok_iff_positional
  | bool b | number n | text t => exact iff_of_false nofun nofun

end LoginRequest

open LoginRequest (Positional)

/-! ## Lists of texts -/

/-- Texts with commas between them. -/
def commaSeparated : List String → List UInt8
  | [] => []
  | [t] => Text.Utf8.encode (printString t)
  | t :: rest => Text.Utf8.encode (printString t) ++ Byte.comma :: commaSeparated rest

/-- A list of texts as a document. -/
def bracketed (texts : List String) : List UInt8 :=
  Byte.openBracket :: (commaSeparated texts ++ [Byte.closeBracket])

theorem separated_commaSeparated (depth : Nat) (t : String) (rest : List String) :
    Separated (Padded (Spells depth)) (commaSeparated (t :: rest))
      ((t :: rest).map Value.text) := by
  have hpadded (t : String) :
      Padded (Spells depth) (Text.Utf8.encode (printString t)) (.text t) :=
    ⟨[], _, [], blank_nil, spells_of_scalar (.text (quoted_printString t)) depth, blank_nil,
      (List.append_nil _).symm⟩
  induction rest generalizing t with
  | nil => exact .one (hpadded t)
  | cons t' rest ih => exact .more (hpadded t) (ih t')

/-- What stands between the brackets is read item by item. -/
theorem parse_bracketed (texts : List String) :
    Value.parse (bracketed texts) = .ok (.list (texts.map Value.text)) := by
  have hlisted : Listed (Padded (Spells 126)) (commaSeparated texts) (texts.map Value.text) := by
    cases texts with
    | nil => exact .inl ⟨rfl, blank_nil⟩
    | cons t rest => exact .inr (separated_commaSeparated 126 t rest)
  have hdocument : Document (bracketed texts) (.list (texts.map Value.text)) :=
    ⟨[], _, [], blank_nil, .inr (.list hlisted), blank_nil, (List.append_nil _).symm⟩
  refine parse_of_document hdocument (standsFor_list_self ?_)
  intro v hv
  obtain ⟨t, -, rfl⟩ := List.mem_map.mp hv
  exact .text t

example : bracketed ["a", "\""] = Text.Utf8.encode "[\"a\",\"\\\"\"]".toList := by decide

/-! ## Bodies that are no objects -/

/-- **A body that is no object** is refused unless it is a list of at most two texts. Then it is
answered as malformed, whatever the store is, wherever it is posted as a login; and a list of at
most two texts is a login like that by an object. -/
theorem refused_unless_positional {body : List UInt8} {v : Value} (hv : Value.parse body = .ok v)
    (hnull : v ≠ .null) (hobject : ∀ members, v ≠ .object members) :
    ((∃ e, LoginRequest.decode body = .error e) ↔ ∀ q, ¬ Positional v q) ∧
      (∀ r : Request, r.ReachesLogin → r.body = body → (∀ q, ¬ Positional v q) →
        ∀ store requestId, AnsweredMalformed store (serve s store requestId r)) ∧
      ∀ q, Positional v q → LoginRequest.decode body = .ok q := by
  have hdecode : ∀ q, LoginRequest.decode body = .ok q ↔ Positional v q := by
    intro q
    rw [LoginRequest.decode_of_parse hv]
    exact LoginRequest.ofValue_ok_iff_positional hnull hobject
  have hrefused : (∃ e, LoginRequest.decode body = .error e) ↔ ∀ q, ¬ Positional v q := by
    -- a request that a value stands for is what its body is decoded to
    simp only [← hdecode]
    cases LoginRequest.decode body with
    | error e => exact iff_of_true ⟨e, rfl⟩ nofun
    | ok q =>
      refine iff_of_false nofun ?_
      intro hnone
      exact hnone q rfl
  refine ⟨hrefused, ?_, fun q => (hdecode q).mpr⟩
  rintro r hr rfl hnone store requestId
  obtain ⟨e, he⟩ := hrefused.mpr hnone
  exact serve_malformed s store requestId hr he

/-- A login by a list of three texts. -/
def lengthyLogin : Request :=
  { twinsLogin with body := bracketed ["alice", "secret", "extra"] }

theorem refused_unless_positional_lengthy :
    Value.parse lengthyLogin.body = .ok (.list [.text "alice", .text "secret", .text "extra"]) ∧
      (∃ e, LoginRequest.decode lengthyLogin.body = .error e) ∧
      AnsweredMalformed (.memory twins) (serve {} (.memory twins) "request" lengthyLogin) := by
  have hv := parse_bracketed ["alice", "secret", "extra"]
  obtain ⟨hrefused, hanswered, -⟩ := refused_unless_positional {} hv nofun nofun
  exact ⟨hv, hrefused.mpr nofun,
    hanswered lengthyLogin ⟨rfl, rfl, by decide⟩ rfl nofun (.memory twins) "request"⟩

/-- A login by a list of two texts. -/
def positionalLogin : Request :=
  { twinsLogin with body := bracketed ["alice", "secret"] }

/-- Not every body that is no object is refused: this one finds an account. -/
theorem positionalLogin_found :
    Value.parse positionalLogin.body = .ok (.list [.text "alice", .text "secret"]) ∧
      LoginRequest.decode positionalLogin.body = .ok ⟨"alice", "secret"⟩ ∧
      (serve {} (.memory twins) "request" positionalLogin).response.status = 200 ∧
      (serve {} (.memory twins) "request" positionalLogin).response.body
        = .text (LoginResponse.print ⟨3, "eng", "admin", "alice"⟩) := by
  have hv := parse_bracketed ["alice", "secret"]
  have hdecode : LoginRequest.decode positionalLogin.body = .ok ⟨"alice", "secret"⟩ :=
    LoginRequest.decode_of_parse hv
  have hlisted := Login.Answers.found (s := {}) hdecode rfl wins_twins
  obtain ⟨hstatus, hbody⟩ := serve_login_kept {} (.memory twins) "request"
    (r := positionalLogin) rfl rfl
  rw [Login.serve_of_answers (by decide) hlisted] at hstatus hbody
  exact ⟨hv, hdecode, hstatus, hbody⟩

end LoginService

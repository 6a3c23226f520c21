import LoginService.Failure
import LoginService.Proofs.Json.Codec
import LoginService.Proofs.Login.Request
import LoginService.Settings.Basic

/-!
# What is written is read back

A codec for each record that is written as JSON, and from them the round trip of each
(`parse_print_all`). A result is read by trying the two shapes of its body, and neither shape
reads what is written of the other.
-/

namespace LoginService

open Json
open Text.Utf8 (encode)

/-! ## Accounts -/

/-- How a projection is written. -/
def LoginUser.codec : Codec 126 LoginUser.record LoginUser.print where
  plan := ⟨[.int _ _ _ _, .text _ _ _, .text _ _ _, .text _ _ _], rfl⟩
  entries u := [.i64 "id" u.id, .string "department" u.department, .string "purview" u.purview,
    .string "logname" u.logname]
  print_eq _ := rfl
  ofValue?_entries u := by
    simp [Plan.ofValue?, Plan.member, record, ofDraft, holds_i64, Except.toOption]

/-- How an account is written. -/
def UserRecord.codec : Codec 126 UserRecord.record UserRecord.print where
  plan := ⟨[.int _ _ _ _, .text _ _ _, .text _ _ _, .text _ _ _, .text _ _ _], rfl⟩
  entries r := [.i64 "id" r.id, .string "department" r.department, .string "purview" r.purview,
    .string "logname" r.logname, .string "logpassword" r.logpassword]
  print_eq _ := rfl
  ofValue?_entries r := by
    simp [Plan.ofValue?, Plan.member, record, holds_i64, Except.toOption]

/-! ## Requests and failures -/

/-- How a request is written. -/
def LoginRequest.codec : Codec 126 LoginRequest.record LoginRequest.print where
  plan := LoginRequest.plan
  entries r := [.string "loginname" r.loginName, .string "password" r.password]
  print_eq _ := rfl
  ofValue?_entries r := by
    simp [Plan.ofValue?, Plan.member, LoginRequest.plan, record, Except.toOption]

/-- How the body of a failed request is written. -/
def ErrorBody.codec : Codec 126 ErrorBody.record ErrorBody.print where
  plan := ⟨[.int _ _ _ _, .text _ _ _], rfl⟩
  entries b := [.nat "status" b.status.toNat (by have := b.status.toNat_lt; omega),
    .string "message" b.message]
  print_eq _ := rfl
  ofValue?_entries b := by
    have hs : IntRange.u16.holds b.status.toNat = true :=
      holds_natCast (by decide) (by have := b.status.toNat_lt; simp [IntRange.u16]; omega)
    simp [Plan.ofValue?, Plan.member, record, hs, Except.toOption]

/-! ## Settings -/

/-- How the first section is written. -/
def AppSettings.codec : Codec 125 AppSettings.record AppSettings.print where
  plan := ⟨[.text _ _ _, .text _ _ _], rfl⟩
  entries s := [.string "name" s.name, .string "version" s.version]
  print_eq _ := rfl
  ofValue?_entries s := by
    simp [Plan.ofValue?, Plan.member, record, ofDraft, Except.toOption]

def ServerSettings.codec : Codec 125 ServerSettings.record ServerSettings.print where
  plan := ⟨[.text _ _ _, .int _ _ _ _, .int _ _ _ _], rfl⟩
  entries s := [.string "host" s.host,
    .nat "port" s.port.toNat (by have := s.port.toNat_lt; omega),
    .nat "shutdown_timeout_secs" s.shutdownTimeoutSecs.toNat s.shutdownTimeoutSecs.toNat_lt]
  print_eq _ := rfl
  ofValue?_entries s := by
    have hp : IntRange.u16.holds s.port.toNat = true :=
      holds_natCast (by decide) (by have := s.port.toNat_lt; simp [IntRange.u16]; omega)
    have ht : IntRange.u64.holds s.shutdownTimeoutSecs.toNat = true :=
      holds_natCast (by decide)
        (by have := s.shutdownTimeoutSecs.toNat_lt; simp [IntRange.u64]; omega)
    simp [Plan.ofValue?, Plan.member, record, ofDraft, hp, ht, toUInt16, toUInt64, Except.toOption]

def DatabaseSettings.codec : Codec 125 DatabaseSettings.record DatabaseSettings.print where
  plan := ⟨[.text _ _ _, .int _ _ _ _, .int _ _ _ _], rfl⟩
  entries s := [.string "dsn" s.dsn,
    .nat "max_connections" s.maxConnections.toNat (by have := s.maxConnections.toNat_lt; omega),
    .nat "acquire_timeout_secs" s.acquireTimeoutSecs.toNat s.acquireTimeoutSecs.toNat_lt]
  print_eq _ := rfl
  ofValue?_entries s := by
    have hm : IntRange.u32.holds s.maxConnections.toNat = true :=
      holds_natCast (by decide) (by have := s.maxConnections.toNat_lt; simp [IntRange.u32]; omega)
    have ht : IntRange.u64.holds s.acquireTimeoutSecs.toNat = true :=
      holds_natCast (by decide)
        (by have := s.acquireTimeoutSecs.toNat_lt; simp [IntRange.u64]; omega)
    simp [Plan.ofValue?, Plan.member, record, ofDraft, hm, ht, toUInt32, toUInt64, Except.toOption]

def AuthSettings.codec : Codec 125 AuthSettings.record AuthSettings.print where
  plan := ⟨[.bool _ _ _], rfl⟩
  entries s := [.bool "reject_with_unauthorized" s.rejectWithUnauthorized]
  print_eq _ := rfl
  ofValue?_entries s := by
    simp [Plan.ofValue?, Plan.member, record, ofDraft, Except.toOption]

/-- How the settings are written: each section as an object of its own. -/
def Settings.codec : Codec 126 Settings.record Settings.print where
  plan := ⟨[.record AppSettings.codec.plan _ _ _, .record ServerSettings.codec.plan _ _ _,
    .record DatabaseSettings.codec.plan _ _ _, .record AuthSettings.codec.plan _ _ _], rfl⟩
  entries s := [.object "app" (AppSettings.codec.entries s.app),
    .object "server" (ServerSettings.codec.entries s.server),
    .object "database" (DatabaseSettings.codec.entries s.database),
    .object "auth" (AuthSettings.codec.entries s.auth)]
  print_eq _ := rfl
  ofValue?_entries s := by
    have ha := AppSettings.codec.ofValue?_entries s.app
    have hs := ServerSettings.codec.ofValue?_entries s.server
    have hd := DatabaseSettings.codec.ofValue?_entries s.database
    have hu := AuthSettings.codec.ofValue?_entries s.auth
    rw [Plan.ofValue?]
    simp [Plan.member, record, ofDraft, ha, hs, hd, hu, Except.toOption]

/-! ## Results -/

/-- How the body of a successful login is written: like the account. -/
def LoginResponse.codec : Codec 126 LoginResponse.record LoginResponse.print where
  plan := ⟨LoginUser.codec.plan.slots, rfl⟩
  entries r := LoginUser.codec.entries r.toUser
  print_eq r := LoginUser.codec.print_eq r.toUser
  ofValue?_entries r := by
    simp [Plan.ofValue?, Plan.member, LoginUser.codec, record, LoginUser.ofDraft, holds_i64,
      ofUser, toUser, Except.map, Except.toOption]

/-- How the body of a failed login is written. -/
def LoginErrorResponse.codec : Codec 126 LoginErrorResponse.record LoginErrorResponse.print where
  plan := ⟨[.text _ _ _], rfl⟩
  entries r := [.string "error" r.error]
  print_eq _ := rfl
  ofValue?_entries r := by
    simp [Plan.ofValue?, Plan.member, record, Except.toOption]

/-- What is written of a success does not read as a failure. -/
theorem LoginResponse.failure_ne (r : LoginResponse) (e : LoginErrorResponse) :
    LoginErrorResponse.record.parse (encode r.print) ≠ .ok e := by
  refine LoginResponse.codec.parse_print_ne LoginErrorResponse.codec.plan r ?_ e
  simp [Plan.ofValue?, Plan.member, LoginResponse.codec, LoginUser.codec, LoginErrorResponse.codec,
    LoginErrorResponse.record, Except.toOption]

/-- What is written of a failure does not read as a success. -/
theorem LoginErrorResponse.success_ne (e : LoginErrorResponse) (r : LoginResponse) :
    LoginResponse.record.parse (encode e.print) ≠ .ok r := by
  refine LoginErrorResponse.codec.parse_print_ne LoginResponse.codec.plan e ?_ r
  simp [Plan.ofValue?, Plan.member, LoginResponse.codec, LoginUser.codec, LoginErrorResponse.codec,
    LoginResponse.record, LoginUser.ofDraft, Except.map, Except.toOption]

/-- A result is read from every document whose value is one. -/
theorem LoginResult.parse_of_document {bytes : List UInt8} {v : Value} {r : LoginResult}
    (h : Document bytes v) (hr : LoginResult.ofValue v = .ok r) :
    LoginResult.parse bytes = .ok r := by
  obtain ⟨c, hc, hw⟩ := readValue_of_document h
  rw [LoginResult.parse, hc]
  dsimp only
  rw [hr]
  exact finish_blank hw

theorem LoginResult.ofValue_success (r : LoginResponse) :
    LoginResult.ofValue (.object ((LoginResponse.codec.entries r).map Entry.member)) =
      .ok (.success r) := by
  simp [LoginResult.ofValue, LoginResponse.codec, LoginUser.codec, LoginResponse.ofValue?, only?,
    LoginResponse.ofFields?, LoginResponse.toUser, holds_i64]

theorem LoginResult.ofValue_failure (e : LoginErrorResponse) :
    LoginResult.ofValue (.object ((LoginErrorResponse.codec.entries e).map Entry.member)) =
      .ok (.failure e) := by
  simp [LoginResult.ofValue, LoginErrorResponse.codec, LoginResponse.ofValue?,
    LoginErrorResponse.ofValue?, only?]

theorem LoginResult.parse_print (r : LoginResult) : LoginResult.parse (encode r.print) = .ok r := by
  cases r with
  | success r => exact parse_of_document (LoginResponse.codec.document_print r) (ofValue_success r)
  | failure e =>
    exact parse_of_document (LoginErrorResponse.codec.document_print e) (ofValue_failure e)

/-- Results that are written alike are the same result. -/
theorem LoginResult.print_injective : Function.Injective LoginResult.print := by
  intro r r' h
  have hparse := LoginResult.parse_print r
  rw [h, LoginResult.parse_print] at hparse
  exact (Except.ok.inj hparse).symm

/-! ## Round trips -/

/-- A written request spells each field once, by its exact name. -/
theorem LoginRequest.plain_entries (r : LoginRequest) :
    Plain (.object ((LoginRequest.codec.entries r).map Entry.member)) := by
  rintro _ ⟨⟩ name hname
  rcases Login.mem_fieldNames hname with rfl | rfl <;>
    simp [LoginRequest.codec, occurrences]

/-- No member of a written request is a document. -/
theorem LoginRequest.standsFor_entries (E : Spelling Value) (r : LoginRequest) :
    StandsFor E (.object ((LoginRequest.codec.entries r).map Entry.member))
      (.object ((LoginRequest.codec.entries r).map Entry.member)) :=
  standsFor_object_self (by simp [LoginRequest.codec, firstKey, embeddingKey])
    (by simp [LoginRequest.codec, StandsFor.text])

/-- A written request is decoded as itself. -/
theorem LoginRequest.decode_print (r : LoginRequest) : decode (encode r.print) = .ok r := by
  have hparse := parse_of_document (LoginRequest.codec.document_print r) (standsFor_entries _ r)
  rw [decode_of_parse hparse, ofValue_ok_iff (by simp) (plain_entries r)]
  exact LoginRequest.codec.ofValue?_entries r

/-- Every record that is written is read back as it was: requests in both ways of reading them,
results as the same variant. What is written of a result of one variant is never read as the body
of the other. -/
theorem parse_print_all :
    (∀ r : LoginRequest, LoginRequest.record.parse (encode r.print) = .ok r ∧
      LoginRequest.decode (encode r.print) = .ok r) ∧
    (∀ r : LoginResponse, LoginResponse.record.parse (encode r.print) = .ok r) ∧
    (∀ r : LoginErrorResponse, LoginErrorResponse.record.parse (encode r.print) = .ok r) ∧
    (∀ r : LoginResult, LoginResult.parse (encode r.print) = .ok r) ∧
    (∀ r : UserRecord, UserRecord.record.parse (encode r.print) = .ok r) ∧
    (∀ u : LoginUser, LoginUser.record.parse (encode u.print) = .ok u) ∧
    (∀ b : ErrorBody, ErrorBody.record.parse (encode b.print) = .ok b) ∧
    (∀ s : Settings, Settings.record.parse (encode s.print) = .ok s) ∧
    (∀ (r : LoginResponse) (e : LoginErrorResponse),
      LoginErrorResponse.record.parse (encode (LoginResult.success r).print) ≠ .ok e) ∧
    (∀ (e : LoginErrorResponse) (r : LoginResponse),
      LoginResponse.record.parse (encode (LoginResult.failure e).print) ≠ .ok r) :=
  ⟨fun r => ⟨LoginRequest.codec.parse_print r, LoginRequest.decode_print r⟩,
    LoginResponse.codec.parse_print, LoginErrorResponse.codec.parse_print,
    LoginResult.parse_print, UserRecord.codec.parse_print, LoginUser.codec.parse_print,
    ErrorBody.codec.parse_print, Settings.codec.parse_print, LoginResponse.failure_ne,
    LoginErrorResponse.success_ne⟩

end LoginService

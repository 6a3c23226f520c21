import LoginService.Login.Request
import LoginService.Proofs.Except
import LoginService.Proofs.Json.Embedded
import LoginService.Proofs.Json.Printer
import LoginService.Proofs.Json.Record
import LoginService.Proofs.Login.Keys

/-!
# Reading login requests

What a body is read as, by its JSON value (`decode_meaning`), and when the reading by way of the
value agrees with the one pass over the text (`decode_ok_iff_parse_ok`).
-/

namespace LoginService.LoginRequest

open Json
open Login (Selects Last fieldNames Members foldKeys)
open Text (sameIgnoringCase)

/-! ## From a value -/

/-- A field that takes no value is empty, one that takes a text is that text. -/
inductive Reads : Option Value → String → Prop
  | absent : Reads none ""
  | text (s : String) : Reads (some (.text s)) s

theorem textOrEmpty_ok_iff {o : Option Value} {s : String} :
    textOrEmpty o = .ok s ↔ Reads o s := by
  constructor
  · intro h
    cases o with
    | none =>
      cases h
      exact Reads.absent
    | some v =>
      cases v with
      | text t =>
        cases h
        exact Reads.text _
      | _ => exact absurd h (by simp [textOrEmpty, textOf, refuse])
  · rintro (_ | _) <;> rfl

theorem ofMembers_ok_iff {members : Members} {r : LoginRequest} :
    ofMembers members = .ok r ↔
      Reads members["loginname"]? r.loginName ∧ Reads members["password"]? r.password := by
  simp only [ofMembers, bind_ok_iff, textOrEmpty_ok_iff]
  constructor
  · rintro ⟨name, hname, password, hpassword, ⟨⟩⟩
    exact ⟨hname, hpassword⟩
  · rintro ⟨hname, hpassword⟩
    exact ⟨r.loginName, hname, r.password, hpassword, rfl⟩

theorem ofItems_ok_iff {items : List Value} {r : LoginRequest} :
    ofItems items = .ok r ↔
      items.length ≤ 2 ∧ Reads items[0]? r.loginName ∧ Reads items[1]? r.password := by
  simp only [ofItems, bind_ok_iff, textOrEmpty_ok_iff]
  constructor
  · rintro ⟨name, hname, password, hpassword, h⟩
    split at h
    · cases h
    · rename_i hlength
      cases h
      exact ⟨Nat.le_of_not_lt hlength, hname, hpassword⟩
  · rintro ⟨hlength, hname, hpassword⟩
    exact ⟨r.loginName, hname, r.password, hpassword, if_neg (Nat.not_lt.mpr hlength)⟩

/-! ## Where a value is refused -/

theorem position_of_textOrEmpty {o : Option Value} {e : Error} (h : textOrEmpty o = .error e) :
    e.position = none := by
  cases o with
  | none => exact absurd h (by simp [textOrEmpty])
  | some v =>
    cases v with
    | text t => exact absurd h (by simp [textOrEmpty, textOf])
    | _ =>
      cases h
      rfl

theorem position_of_ofMembers {members : Members} {e : Error} (h : ofMembers members = .error e) :
    e.position = none := by
  rw [ofMembers, bind_error_iff] at h
  obtain h | ⟨name, -, h⟩ := h
  · exact position_of_textOrEmpty h
  obtain h | ⟨password, -, h⟩ := bind_error_iff.mp h
  · exact position_of_textOrEmpty h
  · cases h

theorem position_of_ofItems {items : List Value} {e : Error} (h : ofItems items = .error e) :
    e.position = none := by
  rw [ofItems, bind_error_iff] at h
  obtain h | ⟨name, -, h⟩ := h
  · exact position_of_textOrEmpty h
  obtain h | ⟨password, -, h⟩ := bind_error_iff.mp h
  · exact position_of_textOrEmpty h
  split at h
  · cases h
    rfl
  · cases h

/-- A value is refused without a position. -/
theorem position_of_ofValue {v : Value} {e : Error} (h : ofValue v = .error e) :
    e.position = none := by
  cases v with
  | null => exact absurd h (by simp [ofValue])
  | bool b =>
    cases h
    rfl
  | number n =>
    cases h
    rfl
  | text s =>
    cases h
    rfl
  | list items => exact position_of_ofItems h
  | object members => exact position_of_ofMembers h

/-! ## From a body -/

theorem decode_of_parse {body : List UInt8} {v : Value} (h : Value.parse body = .ok v) :
    decode body = ofValue v := by
  rw [decode, h]
  rfl

theorem decode_of_error {body : List UInt8} {e : Error} (h : Value.parse body = .error e) :
    decode body = .error e := by
  rw [decode, h]
  rfl

/-- A body is refused at a place in it exactly if it is no JSON document. A document stands for
a request by its value: `null` for two empty texts, an object for the values that the two fields
select, a list of at most two texts for the fields in order. Whatever is wrong with the value is
refused without a place. -/
theorem decode_meaning (body : List UInt8) :
    ((∃ e, decode body = .error e ∧ 1 ≤ e.line) ↔ ∃ e, Value.parse body = .error e) ∧
      ∀ v, Value.parse body = .ok v →
        (∀ e, decode body = .error e → e.position = none ∧ e.line = 0 ∧ e.column = 0) ∧
        match v with
        | .null => decode body = .ok ⟨"", ""⟩
        | .object members => ∃ name? password?, Selects "loginname" members name? ∧
            Selects "password" members password? ∧
            ∀ r, decode body = .ok r ↔ Reads name? r.loginName ∧ Reads password? r.password
        | .list items => ∀ r, decode body = .ok r ↔
            items.length ≤ 2 ∧ Reads items[0]? r.loginName ∧ Reads items[1]? r.password
        | _ => ∃ e, decode body = .error e := by
  have hunplaced : ∀ v, Value.parse body = .ok v → ∀ e, decode body = .error e →
      e.position = none ∧ e.line = 0 ∧ e.column = 0 := by
    intro v hv e he
    rw [decode_of_parse hv] at he
    have hp := position_of_ofValue he
    exact ⟨hp, by rw [Error.line, hp]; rfl, by rw [Error.column, hp]; rfl⟩
  refine ⟨⟨?_, ?_⟩, fun v hv => ⟨hunplaced v hv, ?_⟩⟩
  · rintro ⟨e, he, hline⟩
    cases hv : Value.parse body with
    | error e' => exact ⟨e', rfl⟩
    | ok v =>
      obtain ⟨-, hzero, -⟩ := hunplaced v hv e he
      omega
  · rintro ⟨e, he⟩
    obtain ⟨p, hp, hline⟩ := exists_position_of_parse he
    exact ⟨e, decode_of_error he, by rw [Error.line, hp]; exact hline⟩
  · rw [decode_of_parse hv]
    cases v with
    | null => rfl
    | bool b => exact ⟨_, rfl⟩
    | number n => exact ⟨_, rfl⟩
    | text s => exact ⟨_, rfl⟩
    | list items => exact fun r => ofItems_ok_iff
    | object members =>
      exact ⟨_, _, Login.selects_foldKeys (by decide) members,
        Login.selects_foldKeys (by decide) members, fun r => ofMembers_ok_iff⟩

/-! ## The one pass over the text -/

/-- What the fields of a request make of values. -/
def plan : Plan record := ⟨[.text _ _ _, .text _ _ _], rfl⟩

/-- A field of a draft after the value it takes, if it takes one. -/
def settle (old : Option String) : Option Value → Option (Option String)
  | none => some old
  | some v => (stringOf? v).map some

/-- The value of the first member with a key. -/
def valueAt (name : String) (members : List (String × Value)) : Option Value :=
  (members.find? fun m => m.1 == name).map Prod.snd

/-- How often a key occurs. -/
def occurrences (name : String) (members : List (String × Value)) : Nat :=
  (members.map Prod.fst).count name

theorem member_loginName (d : Draft) (v : Value) (h : d.loginName = none) :
    plan.member d ("loginname", v) =
      (stringOf? v).map fun x => { d with loginName := some x } := by
  simp [Plan.member, plan, Slot.text, Field.text, h, Function.comp_def]

theorem member_password (d : Draft) (v : Value) (h : d.password = none) :
    plan.member d ("password", v) =
      (stringOf? v).map fun x => { d with password := some x } := by
  simp [Plan.member, plan, Slot.text, Field.text, h, Function.comp_def]

theorem member_other (d : Draft) {key : String} (v : Value) (hn : key ≠ "loginname")
    (hp : key ≠ "password") : plan.member d (key, v) = some d := by
  simp [Plan.member, plan, Slot.text, Field.text, hn.symm, hp.symm]

theorem occurrences_cons (name : String) (m : String × Value) (members : List (String × Value)) :
    occurrences name (m :: members) = occurrences name members + if m.1 = name then 1 else 0 := by
  rw [occurrences, List.map_cons, List.count_cons]
  simp [occurrences]

theorem valueAt_of_occurrences {name : String} {members : List (String × Value)}
    (h : occurrences name members = 0) : valueAt name members = none := by
  rw [valueAt, Option.map_eq_none_iff, List.find?_eq_none]
  intro m hm he
  rw [occurrences, List.count_eq_zero] at h
  exact h (List.mem_map.2 ⟨m, hm, by simpa using he⟩)

theorem valueAt_cons_self (name : String) (v : Value) (members : List (String × Value)) :
    valueAt name ((name, v) :: members) = some v := by
  simp [valueAt]

theorem valueAt_cons_ne {name key : String} (h : key ≠ name) (v : Value)
    (members : List (String × Value)) :
    valueAt name ((key, v) :: members) = valueAt name members := by
  simp [valueAt, h]

/-- A key that may occur once more, and occurs now, did not occur before and does not occur
later. -/
theorem once_of_occurrences {name : String} {v : Value} {members : List (String × Value)}
    {old : Option String}
    (h : occurrences name ((name, v) :: members) + (if old.isSome then 1 else 0) ≤ 1) :
    old = none ∧ occurrences name members = 0 := by
  rw [occurrences_cons, if_pos rfl] at h
  cases old with
  | none => exact ⟨rfl, by simp at h; omega⟩
  | some x => exact absurd h (by simp)

theorem occurrences_other {name key : String} (h : key ≠ name) (v : Value)
    (members : List (String × Value)) :
    occurrences name ((key, v) :: members) = occurrences name members := by
  rw [occurrences_cons, if_neg h, Nat.add_zero]

/-- While no field is repeated, each field settles on its own, and members with other keys are
passed over. -/
theorem foldlM_member (members : List (String × Value)) (d : Draft)
    (hn : occurrences "loginname" members + (if d.loginName.isSome then 1 else 0) ≤ 1)
    (hp : occurrences "password" members + (if d.password.isSome then 1 else 0) ≤ 1) :
    members.foldlM plan.member d =
      (settle d.loginName (valueAt "loginname" members)).bind fun n =>
        (settle d.password (valueAt "password" members)).map fun p => ⟨n, p⟩ := by
  induction members generalizing d with
  | nil => rfl
  | cons m rest ih =>
    obtain ⟨key, v⟩ := m
    rw [List.foldlM_cons]
    by_cases hname : key = "loginname"
    · subst hname
      obtain ⟨hnone, hzero⟩ := once_of_occurrences hn
      rw [occurrences_other (by decide)] at hp
      rw [member_loginName d v hnone, valueAt_cons_self, valueAt_cons_ne (by decide), settle]
      cases hv : stringOf? v with
      | none => rfl
      | some x =>
        have hrest := ih { d with loginName := some x } (by simp [hzero]) hp
        simp only [Option.map_some, Option.bind_eq_bind, Option.bind_some]
        rw [hrest, valueAt_of_occurrences hzero]
        rfl
    by_cases hpass : key = "password"
    · subst hpass
      obtain ⟨hnone, hzero⟩ := once_of_occurrences hp
      rw [occurrences_other (by decide)] at hn
      rw [member_password d v hnone, valueAt_cons_self, valueAt_cons_ne (by decide)]
      cases hv : stringOf? v with
      | none => cases settle d.loginName (valueAt "loginname" rest) <;> simp [settle, hv]
      | some x =>
        have hrest := ih { d with password := some x } hn (by simp [hzero])
        simp only [Option.map_some, Option.bind_eq_bind, Option.bind_some]
        rw [hrest, valueAt_of_occurrences hzero]
        simp [settle, hv]
    · rw [occurrences_other hname] at hn
      rw [occurrences_other hpass] at hp
      rw [member_other d v hname hpass, valueAt_cons_ne hname, valueAt_cons_ne hpass]
      simp only [Option.bind_eq_bind, Option.bind_some]
      exact ih d hn hp

theorem exists_settle_iff {o : Option Value} {s : String} :
    (∃ x, settle none o = some x ∧ x.getD "" = s) ↔ Reads o s := by
  constructor
  · rintro ⟨x, hx, rfl⟩
    cases o with
    | none =>
      cases hx
      exact Reads.absent
    | some v =>
      cases v with
      | text t =>
        cases hx
        exact Reads.text _
      | _ => exact absurd hx (by simp [settle, stringOf?])
  · rintro (_ | t)
    · exact ⟨none, rfl, rfl⟩
    · exact ⟨some s, rfl, rfl⟩

/-- An object without repeated fields is read as the values of its two fields. -/
theorem ofValue?_object {members : List (String × Value)} {r : LoginRequest}
    (hn : occurrences "loginname" members ≤ 1) (hp : occurrences "password" members ≤ 1) :
    plan.ofValue? (.object members) = some r ↔
      Reads (valueAt "loginname" members) r.loginName ∧
        Reads (valueAt "password" members) r.password := by
  have hfold := foldlM_member members record.empty (by simpa [record] using hn)
    (by simpa [record] using hp)
  rw [Plan.ofValue?, hfold, ← exists_settle_iff, ← exists_settle_iff]
  constructor
  · intro h
    obtain ⟨d, hd, hr⟩ := Option.bind_eq_some_iff.1 h
    obtain ⟨n, hn, hd⟩ := Option.bind_eq_some_iff.1 hd
    obtain ⟨p, hp, rfl⟩ := Option.map_eq_some_iff.1 hd
    cases hr
    exact ⟨⟨n, hn, rfl⟩, ⟨p, hp, rfl⟩⟩
  · rintro ⟨⟨n, hn, hnr⟩, ⟨p, hp, hpr⟩⟩
    obtain ⟨name, password⟩ := r
    have hn' : settle record.empty.loginName (valueAt "loginname" members) = some n := hn
    have hp' : settle record.empty.password (valueAt "password" members) = some p := hp
    rw [hn', hp']
    subst hnr hpr
    rfl

theorem reads_none {s : String} : Reads none s ↔ s = "" := by
  constructor
  · rintro ⟨⟩
    rfl
  · rintro rfl
    exact Reads.absent

theorem reads_some {v : Value} {s : String} : Reads (some v) s ↔ stringOf? v = some s := by
  constructor
  · rintro ⟨⟩
    rfl
  · intro h
    cases v with
    | text t =>
      cases h
      exact Reads.text _
    | _ => exact absurd h (by simp [stringOf?])

/-- A list is read as the values of the fields in order, missing ones empty. -/
theorem ofValue?_list {items : List Value} {r : LoginRequest} :
    plan.ofValue? (.list items) = some r ↔
      items.length ≤ 2 ∧ Reads items[0]? r.loginName ∧ Reads items[1]? r.password := by
  obtain ⟨name, password⟩ := r
  match items with
  | [] =>
    have h : plan.ofValue? (.list []) = some ⟨"", ""⟩ := rfl
    simp [h, reads_none, eq_comm]
  | [a] =>
    have h : plan.ofValue? (.list [a]) = (stringOf? a).map fun n => ⟨n, ""⟩ := by
      cases ha : stringOf? a <;> simp [Plan.ofValue?, Plan.ofItems, plan, Slot.text, ha, record,
        Except.toOption]
    rw [h, Option.map_eq_some_iff]
    constructor
    · rintro ⟨n, hn, he⟩
      cases he
      exact ⟨by simp, reads_some.2 hn, Reads.absent⟩
    · rintro ⟨-, hn, hp⟩
      have he : password = "" := reads_none.1 hp
      exact ⟨name, reads_some.1 hn, by rw [he]⟩
  | [a, b] =>
    have h : plan.ofValue? (.list [a, b]) =
        (stringOf? a).bind fun n => (stringOf? b).map fun p => ⟨n, p⟩ := by
      cases ha : stringOf? a <;> cases hb : stringOf? b <;>
        simp [Plan.ofValue?, Plan.ofItems, plan, Slot.text, ha, hb, record, Except.toOption]
    simp [h, reads_some, Option.bind_eq_some_iff]
  | a :: b :: c :: rest =>
    have h : plan.ofValue? (.list (a :: b :: c :: rest)) = none := by
      cases ha : stringOf? a <;> cases hb : stringOf? b <;>
        simp [Plan.ofValue?, Plan.ofItems, plan, Slot.text, ha, hb]
    simp [h]

/-! ## Both readings -/

/-- A field takes the value of its only exact key when other spellings stand beside one only. -/
theorem selects_eq_valueAt {name : String} {members : List (String × Value)} {o : Option Value}
    (h : Selects name members o) (honce : occurrences name members ≤ 1)
    (hexact : (∃ m ∈ members, sameIgnoringCase m.1 name = true ∧ m.1 ≠ name) →
      ∃ m ∈ members, m.1 = name) : o = valueAt name members := by
  cases h with
  | exact hl =>
    obtain ⟨-, before, after, rfl, -⟩ := hl
    have hbefore : occurrences name before = 0 := by
      simp [occurrences] at honce ⊢
      omega
    rw [valueAt, List.find?_append]
    have hnone := valueAt_of_occurrences hbefore
    rw [valueAt, Option.map_eq_none_iff] at hnone
    simp [hnone]
  | folded hnone hsame _ hl =>
    have hmem := Login.mem_of_last hl
    obtain ⟨m, hm, he⟩ := hexact ⟨_, hmem, hsame, hnone _ hmem⟩
    exact absurd he (hnone m hm)
  | absent hnone =>
    rw [valueAt, eq_comm, Option.map_eq_none_iff, List.find?_eq_none]
    intro m hm he
    have hname : m.1 = name := by simpa using he
    have hsame := hnone m hm
    rw [hname, Login.sameIgnoringCase_self] at hsame
    exact absurd hsame (by simp)

theorem parse_ok_iff {body : List UInt8} {p : Value} (h : Document body p) (r : LoginRequest) :
    record.parse body = .ok r ↔ plan.ofValue? p = some r := by
  rw [← plan.toOption_parse h]
  cases record.parse body with
  | error e => simp [Except.toOption]
  | ok r' => simp [Except.toOption]

/-- A value that decides between the two readings of a body: no exact field name is repeated, and
none stands in another letter case only. -/
def Plain (v : Value) : Prop :=
  ∀ members, v = .object members → ∀ name ∈ fieldNames, occurrences name members ≤ 1 ∧
    ((∃ m ∈ members, sameIgnoringCase m.1 name = true ∧ m.1 ≠ name) → ∃ m ∈ members, m.1 = name)

theorem ofValue_ok_iff {v : Value} (hnull : v ≠ .null) (hplain : Plain v) (r : LoginRequest) :
    ofValue v = .ok r ↔ plan.ofValue? v = some r := by
  cases v with
  | null => exact absurd rfl hnull
  | list items => exact ofItems_ok_iff.trans ofValue?_list.symm
  | object members =>
    obtain ⟨hn, hnv⟩ := hplain members rfl "loginname" (by decide)
    obtain ⟨hp, hpv⟩ := hplain members rfl "password" (by decide)
    have hname := selects_eq_valueAt (Login.selects_foldKeys (by decide) members) hn hnv
    have hpass := selects_eq_valueAt (Login.selects_foldKeys (by decide) members) hp hpv
    rw [ofValue?_object hn hp, ← hname, ← hpass]
    exact ofMembers_ok_iff
  | _ => exact iff_of_false (by simp [ofValue, refuse]) (by simp [Plan.ofValue?])

/-! ### Embedded documents -/

/-- An object that embeds a document, which is a text. -/
def EmbedsText (p : Value) : Prop :=
  ∃ s t, p = .object [(embeddingKey, .text s)] ∧ Parses (Text.Utf8.encode s.toList) (.text t)

/-- A body that is not embedded itself and has no embedded text for the value of a field. -/
def Direct : Value → Prop
  | .object members => firstKey members ≠ some embeddingKey ∧
      ∀ m ∈ members, m.1 ∈ fieldNames → ¬ EmbedsText m.2
  | .list items => items.length ≤ 2 → ∀ v ∈ items, ¬ EmbedsText v
  | _ => True

section
variable {p v : Value} {items values : List Value} {members members' : List (String × Value)}

/-- Unless it embeds a text, a value is a text exactly if what it stands for is. -/
theorem stringOf?_of_standsFor (h : StandsFor Parses p v) (hp : ¬ EmbedsText p) :
    stringOf? v = stringOf? p := by
  cases h with
  | @embedded s _ hs =>
    cases v with
    | text t => exact absurd ⟨s, t, rfl, hs⟩ hp
    | _ => rfl
  | _ => rfl

theorem reads_congr {o o' : Option Value} (h : o.map stringOf? = o'.map stringOf?) {s : String} :
    Reads o s ↔ Reads o' s := by
  cases o with
  | none =>
    cases o' with
    | none => exact Iff.rfl
    | some w => exact absurd h (by simp)
  | some v =>
    cases o' with
    | none => exact absurd h (by simp)
    | some w => rw [reads_some, reads_some, Option.some.inj h]

theorem map_stringOf?_of_forall₂ (h : List.Forall₂ (StandsFor Parses) items values)
    (hd : ∀ v ∈ items, ¬ EmbedsText v) : values.map stringOf? = items.map stringOf? := by
  induction h with
  | nil => rfl
  | cons hv _ ih =>
    rw [List.forall_mem_cons] at hd
    rw [List.map_cons, List.map_cons, stringOf?_of_standsFor hv hd.1, ih hd.2]

/-- The value of a field is a text if what the member stands for is. -/
theorem map_stringOf?_valueAt {name : String}
    (h : List.Forall₂ (OnValue (StandsFor Parses)) members members')
    (hd : ∀ m ∈ members, m.1 = name → ¬ EmbedsText m.2) :
    (valueAt name members').map stringOf? = (valueAt name members).map stringOf? := by
  induction h with
  | nil => rfl
  | cons hm _ ih =>
    rw [List.forall_mem_cons] at hd
    obtain @⟨key, v, w, hv⟩ := hm
    by_cases hkey : key = name
    · subst hkey
      rw [valueAt_cons_self, valueAt_cons_self, Option.map_some, Option.map_some,
        stringOf?_of_standsFor hv (hd.1 rfl)]
    · rw [valueAt_cons_ne hkey, valueAt_cons_ne hkey]
      exact ih hd.2

/-- Whether a value decides between the two readings is a matter of its keys. -/
theorem Plain.of_keys (hkeys : members.map Prod.fst = members'.map Prod.fst)
    (h : Plain (.object members)) : Plain (.object members') := by
  rintro _ ⟨⟩ name hname
  obtain ⟨honce, hexact⟩ := h members rfl name hname
  have hexists (ms : List (String × Value)) (P : String → Prop) :
      (∃ m ∈ ms, P m.1) ↔ ∃ key ∈ ms.map Prod.fst, P key := by
    simp
  refine ⟨by rwa [occurrences, ← hkeys], ?_⟩
  rw [hexists members' fun key => sameIgnoringCase key name = true ∧ key ≠ name,
    hexists members' (· = name), ← hkeys,
    ← hexists members fun key => sameIgnoringCase key name = true ∧ key ≠ name,
    ← hexists members (· = name)]
  exact hexact

/-- What a body stands for decides between the two readings as the body itself does. -/
theorem plain_of_standsFor (h : StandsFor Parses p v) (hplain : Plain p) (hd : Direct p) :
    Plain v := by
  cases h with
  | object _ hall => exact Plain.of_keys (map_fst_of_forall₂ hall) hplain
  | embedded _ => exact absurd rfl hd.1
  | _ => exact nofun

/-- The one pass over the text makes of a body what it would make of what the body stands for. -/
theorem ofValue?_of_standsFor (h : StandsFor Parses p v) (hplain : Plain p) (hd : Direct p)
    (r : LoginRequest) : plan.ofValue? v = some r ↔ plan.ofValue? p = some r := by
  cases h with
  | @list items values hall =>
    rw [ofValue?_list, ofValue?_list, ← hall.length_eq]
    refine and_congr_right fun hlen => ?_
    have hmap := map_stringOf?_of_forall₂ hall (hd hlen)
    have hread (i : Nat) (s : String) : Reads values[i]? s ↔ Reads items[i]? s :=
      reads_congr (by rw [← List.getElem?_map, ← List.getElem?_map, hmap])
    rw [hread, hread]
  | @object members values _ hall =>
    have hkeys := map_fst_of_forall₂ hall
    have honce (name : String) (hname : name ∈ fieldNames) : occurrences name members ≤ 1 :=
      (hplain members rfl name hname).1
    have honce' (name : String) (hname : name ∈ fieldNames) : occurrences name values ≤ 1 := by
      rw [occurrences, ← hkeys]
      exact honce name hname
    have hread (name : String) (hname : name ∈ fieldNames) (s : String) :
        Reads (valueAt name values) s ↔ Reads (valueAt name members) s :=
      reads_congr (map_stringOf?_valueAt hall fun m hm he => hd.2 m hm (he ▸ hname))
    rw [ofValue?_object (honce' _ (by decide)) (honce' _ (by decide)),
      ofValue?_object (honce _ (by decide)) (honce _ (by decide)), hread _ (by decide),
      hread _ (by decide)]
  | embedded _ => exact absurd rfl hd.1
  | _ => exact Iff.rfl

end

/-- A body in which one field stands in two spellings, the exact one not the last, and in which a
member that is no field embeds a document. -/
def mixedBody : List UInt8 :=
  Text.Utf8.encode (printObject [
    ("loginname", printString "alice"), ("LoginName", printInt 1),
    ("note", printObject [(embeddingKey, printString "true")])])

/-- The value of `mixedBody`, with a value of its last member. -/
def mixedValue (note : Value) : Value :=
  .object [("loginname", .text "alice"), ("LoginName", .number (.whole 1)), ("note", note)]

/-- The last member as it is written. -/
def writtenNote : Value := .object [(embeddingKey, .text "true")]

theorem plain_mixedValue : Plain (mixedValue writtenNote) := by
  rintro _ ⟨⟩ name hname
  rcases Login.mem_fieldNames hname with rfl | rfl <;> decide

theorem parses_true : Parses (Text.Utf8.encode "true".toList) (.bool true) :=
  parse_of_document
    ⟨[], _, [], blank_nil, spells_of_scalar .truth 127, blank_nil, by decide⟩ (.bool true)

theorem document_mixedBody : Document mixedBody (mixedValue writtenNote) :=
  document_printObject [.string "loginname" "alice", .int "LoginName" 1 (by decide) (by decide),
    .object "note" [.string embeddingKey "true"]]

/-- A body that is decoded to a request which the one pass over the text does not give, though no
exact field name is repeated in it and none stands in another letter case only. -/
def Differs (body : List UInt8) (r : LoginRequest) : Prop :=
  (∃ p v, Document body p ∧ Value.parse body = .ok v ∧ v ≠ .null ∧ Plain p) ∧
    decode body = .ok r ∧ record.parse body ≠ .ok r

theorem differs_of_standsFor {body : List UInt8} {p v : Value} {r : LoginRequest}
    (hdocument : Document body p) (hv : StandsFor Parses p v) (hnull : v ≠ .null)
    (hplain : Plain p) (hr : ofValue v = .ok r) (hp : plan.ofValue? p ≠ some r) :
    Differs body r := by
  have hparse := parse_eq_ok_iff.mpr ⟨p, hdocument, hv⟩
  refine ⟨⟨p, v, hdocument, hparse, hnull, hplain⟩, ?_, ?_⟩
  · rw [decode_of_parse hparse, hr]
  · rw [Ne, parse_ok_iff hdocument]
    exact hp

/-- An object that embeds the document with this text. -/
def embedding (text : List Char) : List Char :=
  printObject [(embeddingKey, printString (String.ofList text))]

/-- A body that embeds a login:
`{"$serde_json::private::RawValue":"{\"loginname\":\"alice\",\"password\":\"secret\"}"}`. -/
def embeddedLogin : List UInt8 :=
  Text.Utf8.encode (embedding (print ⟨"alice", "secret"⟩))

/-- A login whose name is embedded:
`{"loginname":{"$serde_json::private::RawValue":"\"alice\""}}`. -/
def embeddedName : List UInt8 :=
  Text.Utf8.encode (printObject [("loginname", embedding (printString "alice"))])

/-- A login by a list whose only item is embedded:
`[{"$serde_json::private::RawValue":"\"alice\""}]`. -/
def embeddedItem : List UInt8 :=
  Text.Utf8.encode (printList [embedding (printString "alice")])

theorem spells_embedding (depth : Nat) (text : List Char) :
    Spells (depth + 1) (Text.Utf8.encode (embedding text))
      (.object [(embeddingKey, .text (String.ofList text))]) :=
  spells_printObject [.string embeddingKey _]

theorem standsFor_embedding {text : List Char} {v : Value}
    (h : Document (Text.Utf8.encode text) v) (hself : StandsFor Parses v v) :
    StandsFor Parses (.object [(embeddingKey, .text (String.ofList text))]) v := by
  refine StandsFor.embedded ?_
  rw [String.toList_ofList]
  exact parse_of_document h hself

theorem plain_singleton {key : String} (v : Value)
    (hkey : ∀ name ∈ fieldNames, sameIgnoringCase key name = true → key = name) :
    Plain (.object [(key, v)]) := by
  rintro _ ⟨⟩ name hname
  refine ⟨List.count_le_length, ?_⟩
  rintro ⟨m, hm, hsame, hne⟩
  rw [List.mem_singleton.mp hm] at hsame hne
  exact absurd (hkey name hname hsame) hne

end LoginService.LoginRequest

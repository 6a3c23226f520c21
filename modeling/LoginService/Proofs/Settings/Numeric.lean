import LoginService.Proofs.Component
import LoginService.Proofs.Settings.Place

/-!
# The numeric settings

Four settings are whole numbers, each of a type of its own. What is read of a tree with another
value in the place of one of them differs in this setting only, and nothing is read if the other
value is refused (`NumericSetting.toOption_ofTree`).
-/

namespace LoginService.Settings

open Json (IntRange)

/-! ## Reading a section member by member -/

/-- What a setting does to the state and what `put` does may be done in either order. -/
def Setting.Commutes {σ β : Type} (x : Setting σ) (put : β → σ → σ) : Prop :=
  ∀ t f, x.read t = .ok f → ∀ b state, f (put b state) = put b (f state)

section
variable {ε σ α β : Type} {write : α → σ → σ} {put : β → σ → σ}

theorem commutes_map (h : ∀ a b state, write a (put b state) = put b (write a state))
    {x : Except ε α} {f : σ → σ} (hf : x.map write = .ok f) (b : β) (state : σ) :
    f (put b state) = put b (f state) := by
  cases x with
  | error e => cases hf
  | ok a =>
    cases hf
    exact h a b state

theorem Setting.commutes_int {name : String} {range : IntRange} {write : Int → σ → σ}
    (h : ∀ a b state, write a (put b state) = put b (write a state)) :
    (Setting.int name range write).Commutes put :=
  fun _ _ => commutes_map h

theorem Setting.commutes_text {name : String} {write : String → σ → σ}
    (h : ∀ a b state, write a (put b state) = put b (write a state)) :
    (Setting.text name write).Commutes put :=
  fun _ _ => commutes_map h

theorem Section.commutes_setting {τ : Type} {s : Section τ α} {name : String}
    (h : ∀ a b state, write a (put b state) = put b (write a state)) :
    (s.setting name write).Commutes put :=
  fun _ _ => commutes_map h

theorem toOption_map (write : α → σ → σ) (x : Except ε α) (state : σ) :
    ((x.map write).toOption.map fun f => f state) = x.toOption.map fun a => write a state := by
  cases x <;> rfl

end

namespace Section

variable {σ α β : Type}

/-- What a member does to the state. -/
def member (settings : List (Setting σ)) (state : σ) (m : String × Tree) : Option σ :=
  match settings.find? (fun x => x.name == m.1) with
  | none => some state
  | some x => (x.read m.2).toOption.map fun put => put state

theorem toOption_readMembers (settings : List (Setting σ)) (members : Members) (state : σ) :
    (readMembers settings members state).toOption = members.foldlM (member settings) state := by
  induction members generalizing state with
  | nil => rfl
  | cons m members ih =>
    obtain ⟨key, value⟩ := m
    rw [readMembers, List.foldlM_cons, member]
    cases settings.find? (fun x => x.name == key) with
    | none => exact ih state
    | some x =>
      dsimp only
      cases x.read value with
      | error r => rfl
      | ok put => exact ih (put state)

theorem toOption_finish (s : Section σ α) (t : Tree) (state : σ) :
    (s.finish t state).toOption = (s.build state).toOption := by
  unfold finish
  cases s.build state <;> rfl

theorem toOption_read_dict (s : Section σ α) (source : Source) (members : Members) :
    (s.read (.dict source members)).toOption
      = (members.foldlM (member s.settings) s.empty).bind fun state =>
          (s.build state).toOption := by
  rw [read, ← toOption_readMembers]
  cases readMembers s.settings members s.empty with
  | error r => rfl
  | ok state => exact toOption_finish s _ state

theorem member_apart {settings : List (Setting σ)} {key : String} {put : β → σ → σ}
    (h : ∀ x ∈ settings, x.name ≠ key → x.Commutes put) (state : σ) (b : β) (m : String × Tree)
    (hm : m.1 ≠ key) :
    member settings (put b state) m = (member settings state m).map (put b) := by
  unfold member
  cases hfind : settings.find? (fun x => x.name == m.1) with
  | none => rfl
  | some x =>
    have hname : x.name = m.1 := by
      simpa using List.find?_some (p := fun x : Setting σ => x.name == m.1) hfind
    dsimp only
    cases hread : x.read m.2 with
    | error r => rfl
    | ok f =>
      exact congrArg some (h x (List.mem_of_find?_eq_some hfind) (hname ▸ hm) m.2 f hread b state)

/-- **What is read of a dictionary with another value at one key**, if the value is a component. -/
theorem toOption_read_replace {s : Section σ α} {key : String} {value : Tree → Option β}
    {put : β → σ → σ} {set : β → α → α}
    (h : IsComponent (member s.settings) (fun state => (s.build state).toOption) key value put set)
    {t t' w w' : Tree} (ht : t.IsDict) (ht' : t'.IsDict) (hw : t.get? [key] = some w)
    (hw' : t'.get? [key] = some w') (helse : ∀ k, k ≠ key → t'.get? [k] = t.get? [k]) {a : α}
    (hread : s.read t' = .ok a) :
    ∃ b, value w' = some b ∧ set b a = a ∧
      (s.read t).toOption = (value w).map fun b => set b a := by
  obtain ⟨source, members, rfl, hm⟩ := ht
  obtain ⟨source', members', rfl, hm'⟩ := ht'
  have hget : ∀ (source : Source) (m : Members) (k : String),
      (Tree.dict source m).get? [k] = m.get? k := by
    intro source m k
    simp only [Tree.get?, Option.bind_fun_some]
  simp only [hget] at hw hw' helse
  obtain ⟨before, after, rfl, rfl, hafter⟩ := hm.exists_around hm' hw hw' helse
  have hread' := congrArg Except.toOption hread
  rw [toOption_read_dict] at hread'
  obtain ⟨b, hb, hset, hreplace⟩ := h.read_replace hafter hread'
  exact ⟨b, hb, hset, (toOption_read_dict s source _).trans (hreplace w)⟩

end Section

/-- **What is read of two dictionaries inside each other with another value at one place.** -/
theorem toOption_read_agreeBut {σ τ α γ β : Type} {outer : Section τ γ} {inner : Section σ α}
    {setting : String × String} {value : Tree → Option β} {putInner : β → σ → σ}
    {setInner : β → α → α} {putOuter : α → τ → τ} {setOuter : α → γ → γ}
    (houter : IsComponent (Section.member outer.settings)
      (fun state => (outer.build state).toOption) setting.1 (fun t => (inner.read t).toOption)
      putOuter setOuter)
    (hinner : IsComponent (Section.member inner.settings)
      (fun state => (inner.build state).toOption) setting.2 value putInner setInner)
    {t t' x x' : Tree} (h : AgreeBut setting t t') (hx : t.get? [setting.1, setting.2] = some x)
    (hx' : t'.get? [setting.1, setting.2] = some x') {c : γ} (hread : outer.read t' = .ok c) :
    ∃ a, setOuter a c = c ∧
      (outer.read t).toOption = (value x).map fun b => setOuter (setInner b a) c := by
  obtain ⟨w, w', hw, hw', hdict, hdict', hinside⟩ := h.inside
  obtain ⟨a, ha, hset, houterRead⟩ :=
    Section.toOption_read_replace houter h.root h.root' hw hw' h.elsewhere hread
  rw [get?_two, hw] at hx
  rw [get?_two, hw'] at hx'
  have ha' : inner.read w' = .ok a := by
    cases hinnerRead : inner.read w' with
    | error r =>
      rw [hinnerRead] at ha
      cases ha
    | ok a' =>
      rw [hinnerRead] at ha
      exact congrArg Except.ok (Option.some.inj ha)
  obtain ⟨-, -, -, hinnerRead⟩ :=
    Section.toOption_read_replace hinner hdict hdict' hx hx' hinside ha'
  refine ⟨a, hset, ?_⟩
  rw [houterRead, hinnerRead, Option.map_map]
  rfl

end LoginService.Settings

namespace LoginService

open Settings

/-! ## The four settings -/

/-- A setting that is a whole number. -/
inductive NumericSetting where
  | port
  | shutdownTimeout
  | maxConnections
  | acquireTimeout
  deriving DecidableEq, Repr

namespace NumericSetting

/-- The section and the key. -/
def keys : NumericSetting → String × String
  | port => ("server", "port")
  | shutdownTimeout => ("server", "shutdown_timeout_secs")
  | maxConnections => ("database", "max_connections")
  | acquireTimeout => ("database", "acquire_timeout_secs")

/-- The numbers of its type. -/
def range : NumericSetting → Json.IntRange
  | port => .u16
  | shutdownTimeout => .u64
  | maxConnections => .u32
  | acquireTimeout => .u64

theorem range_bounds (setting : NumericSetting) :
    setting.range.least = 0 ∧ setting.range.greatest ≤ 18446744073709551615 := by
  cases setting <;> decide

/-- The number that is loaded. -/
def value (s : Settings) : NumericSetting → Int
  | port => s.server.port.toNat
  | shutdownTimeout => s.server.shutdownTimeoutSecs.toNat
  | maxConnections => s.database.maxConnections.toNat
  | acquireTimeout => s.database.acquireTimeoutSecs.toNat

/-- Settings with another number in the place of one of them. -/
def set (n : Int) (s : Settings) : NumericSetting → Settings
  | port => { s with server := { s.server with port := toUInt16 n } }
  | shutdownTimeout => { s with server := { s.server with shutdownTimeoutSecs := toUInt64 n } }
  | maxConnections => { s with database := { s.database with maxConnections := toUInt32 n } }
  | acquireTimeout => { s with database := { s.database with acquireTimeoutSecs := toUInt64 n } }

end NumericSetting

/-! ## Where they are read -/

/-! ### Making a section -/

theorem ServerSettings.built_port (state : Draft) (n : Int) (a : ServerSettings)
    (h : (ofDraft { state with port := some n }).toOption = some a) (n' : Int) :
    (ofDraft { state with port := some n' }).toOption = some { a with port := toUInt16 n' } := by
  obtain ⟨host, port, timeout⟩ := state
  cases host <;> cases timeout <;> cases h
  rfl

theorem ServerSettings.built_shutdownTimeout (state : Draft) (n : Int) (a : ServerSettings)
    (h : (ofDraft { state with shutdownTimeoutSecs := some n }).toOption = some a) (n' : Int) :
    (ofDraft { state with shutdownTimeoutSecs := some n' }).toOption
      = some { a with shutdownTimeoutSecs := toUInt64 n' } := by
  obtain ⟨host, port, timeout⟩ := state
  cases host <;> cases port <;> cases h
  rfl

theorem DatabaseSettings.built_maxConnections (state : Draft) (n : Int) (a : DatabaseSettings)
    (h : (ofDraft { state with maxConnections := some n }).toOption = some a) (n' : Int) :
    (ofDraft { state with maxConnections := some n' }).toOption
      = some { a with maxConnections := toUInt32 n' } := by
  obtain ⟨dsn, connections, timeout⟩ := state
  cases dsn <;> cases timeout <;> cases h
  rfl

theorem DatabaseSettings.built_acquireTimeout (state : Draft) (n : Int) (a : DatabaseSettings)
    (h : (ofDraft { state with acquireTimeoutSecs := some n }).toOption = some a) (n' : Int) :
    (ofDraft { state with acquireTimeoutSecs := some n' }).toOption
      = some { a with acquireTimeoutSecs := toUInt64 n' } := by
  obtain ⟨dsn, connections, timeout⟩ := state
  cases dsn <;> cases connections <;> cases h
  rfl

theorem Settings.built_server (state : Draft) (b : ServerSettings) (a : Settings)
    (h : (ofDraft { state with server := some b }).toOption = some a) (b' : ServerSettings) :
    (ofDraft { state with server := some b' }).toOption = some { a with server := b' } := by
  obtain ⟨app, server, database, auth⟩ := state
  cases app <;> cases database <;> cases auth <;> cases h
  rfl

theorem Settings.built_database (state : Draft) (b : DatabaseSettings) (a : Settings)
    (h : (ofDraft { state with database := some b }).toOption = some a) (b' : DatabaseSettings) :
    (ofDraft { state with database := some b' }).toOption = some { a with database := b' } := by
  obtain ⟨app, server, database, auth⟩ := state
  cases app <;> cases server <;> cases auth <;> cases h
  rfl

/-! ### Trees -/

theorem ServerSettings.isComponent_port : IsComponent (Section.member fields.settings)
    (fun state => (fields.build state).toOption) "port" (fun t => (t.toInt .u16).toOption)
    (fun n state => { state with port := some n }) (fun n a => { a with port := toUInt16 n }) where
  at_key state := Or.inr fun t => toOption_map _ (t.toInt .u16) state
  apart := Section.member_apart <|
    List.forall_mem_cons.mpr ⟨fun _ => Setting.commutes_text fun _ _ _ => rfl,
    List.forall_mem_cons.mpr ⟨fun h => absurd rfl h,
    List.forall_mem_cons.mpr ⟨fun _ => Setting.commutes_int fun _ _ _ => rfl, nofun⟩⟩⟩
  built := built_port

theorem ServerSettings.isComponent_shutdownTimeout : IsComponent (Section.member fields.settings)
    (fun state => (fields.build state).toOption) "shutdown_timeout_secs"
    (fun t => (t.toInt .u64).toOption) (fun n state => { state with shutdownTimeoutSecs := some n })
    (fun n a => { a with shutdownTimeoutSecs := toUInt64 n }) where
  at_key state := Or.inr fun t => toOption_map _ (t.toInt .u64) state
  apart := Section.member_apart <|
    List.forall_mem_cons.mpr ⟨fun _ => Setting.commutes_text fun _ _ _ => rfl,
    List.forall_mem_cons.mpr ⟨fun _ => Setting.commutes_int fun _ _ _ => rfl,
    List.forall_mem_cons.mpr ⟨fun h => absurd rfl h, nofun⟩⟩⟩
  built := built_shutdownTimeout

theorem DatabaseSettings.isComponent_maxConnections : IsComponent (Section.member fields.settings)
    (fun state => (fields.build state).toOption) "max_connections"
    (fun t => (t.toInt .u32).toOption) (fun n state => { state with maxConnections := some n })
    (fun n a => { a with maxConnections := toUInt32 n }) where
  at_key state := Or.inr fun t => toOption_map _ (t.toInt .u32) state
  apart := Section.member_apart <|
    List.forall_mem_cons.mpr ⟨fun _ => Setting.commutes_text fun _ _ _ => rfl,
    List.forall_mem_cons.mpr ⟨fun h => absurd rfl h,
    List.forall_mem_cons.mpr ⟨fun _ => Setting.commutes_int fun _ _ _ => rfl, nofun⟩⟩⟩
  built := built_maxConnections

theorem DatabaseSettings.isComponent_acquireTimeout : IsComponent (Section.member fields.settings)
    (fun state => (fields.build state).toOption) "acquire_timeout_secs"
    (fun t => (t.toInt .u64).toOption) (fun n state => { state with acquireTimeoutSecs := some n })
    (fun n a => { a with acquireTimeoutSecs := toUInt64 n }) where
  at_key state := Or.inr fun t => toOption_map _ (t.toInt .u64) state
  apart := Section.member_apart <|
    List.forall_mem_cons.mpr ⟨fun _ => Setting.commutes_text fun _ _ _ => rfl,
    List.forall_mem_cons.mpr ⟨fun _ => Setting.commutes_int fun _ _ _ => rfl,
    List.forall_mem_cons.mpr ⟨fun h => absurd rfl h, nofun⟩⟩⟩
  built := built_acquireTimeout

theorem Settings.isComponent_server : IsComponent (Section.member fields.settings)
    (fun state => (fields.build state).toOption) "server"
    (fun t => (ServerSettings.fields.read t).toOption)
    (fun b state => { state with server := some b }) (fun b a => { a with server := b }) where
  at_key state := Or.inr fun t => toOption_map _ (ServerSettings.fields.read t) state
  apart := Section.member_apart <|
    List.forall_mem_cons.mpr ⟨fun _ => Section.commutes_setting fun _ _ _ => rfl,
    List.forall_mem_cons.mpr ⟨fun h => absurd rfl h,
    List.forall_mem_cons.mpr ⟨fun _ => Section.commutes_setting fun _ _ _ => rfl,
    List.forall_mem_cons.mpr ⟨fun _ => Section.commutes_setting fun _ _ _ => rfl, nofun⟩⟩⟩⟩
  built := built_server

theorem Settings.isComponent_database : IsComponent (Section.member fields.settings)
    (fun state => (fields.build state).toOption) "database"
    (fun t => (DatabaseSettings.fields.read t).toOption)
    (fun b state => { state with database := some b }) (fun b a => { a with database := b }) where
  at_key state := Or.inr fun t => toOption_map _ (DatabaseSettings.fields.read t) state
  apart := Section.member_apart <|
    List.forall_mem_cons.mpr ⟨fun _ => Section.commutes_setting fun _ _ _ => rfl,
    List.forall_mem_cons.mpr ⟨fun _ => Section.commutes_setting fun _ _ _ => rfl,
    List.forall_mem_cons.mpr ⟨fun h => absurd rfl h,
    List.forall_mem_cons.mpr ⟨fun _ => Section.commutes_setting fun _ _ _ => rfl, nofun⟩⟩⟩⟩
  built := built_database

namespace NumericSetting

/-- **What is read of a tree with another value in the place of a numeric setting.** -/
theorem toOption_ofTree (setting : NumericSetting) {t t' x x' : Tree}
    (h : AgreeBut setting.keys t t')
    (hx : t.get? [setting.keys.1, setting.keys.2] = some x)
    (hx' : t'.get? [setting.keys.1, setting.keys.2] = some x') {s : Settings}
    (hread : ofTree t' = .ok s) :
    (ofTree t).toOption = (x.toInt setting.range).toOption.map fun n => setting.set n s := by
  cases setting with
  | port =>
    obtain ⟨a, hset, hread'⟩ := toOption_read_agreeBut Settings.isComponent_server
      ServerSettings.isComponent_port h hx hx' hread
    obtain rfl : a = s.server := congrArg Settings.server hset
    exact hread'
  | shutdownTimeout =>
    obtain ⟨a, hset, hread'⟩ := toOption_read_agreeBut Settings.isComponent_server
      ServerSettings.isComponent_shutdownTimeout h hx hx' hread
    obtain rfl : a = s.server := congrArg Settings.server hset
    exact hread'
  | maxConnections =>
    obtain ⟨a, hset, hread'⟩ := toOption_read_agreeBut Settings.isComponent_database
      DatabaseSettings.isComponent_maxConnections h hx hx' hread
    obtain rfl : a = s.database := congrArg Settings.database hset
    exact hread'
  | acquireTimeout =>
    obtain ⟨a, hset, hread'⟩ := toOption_read_agreeBut Settings.isComponent_database
      DatabaseSettings.isComponent_acquireTimeout h hx hx' hread
    obtain rfl : a = s.database := congrArg Settings.database hset
    exact hread'

end NumericSetting

end LoginService

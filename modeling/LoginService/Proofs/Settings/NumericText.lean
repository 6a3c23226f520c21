import LoginService.Proofs.Json.Context
import LoginService.Proofs.RoundTrip
import LoginService.Proofs.Settings.Numeric

/-!
# Numeric settings in JSON texts

The text of settings around the number of one of them, with any number in decimal in its place: it
is read as the same settings with this number if the type of the setting has it, and refused if not
(`NumericText.toOption_parse`). The text that is written of settings is one of these texts
(`NumericSetting.fill_written`).
-/

namespace LoginService

open Json Settings
open Text.Utf8 (encode)

/-! ## Where the numbers are read -/

theorem ServerSettings.hasField_port : codec.plan.HasField
    (.int "port" .u16 Draft.port fun x d => { d with port := some x }) "port" (intOf? .u16)
    (fun n state => { state with port := some n }) (fun n a => { a with port := toUInt16 n }) where
  found := rfl
  reads _ := rfl
  once _ _ := rfl
  others :=
    List.forall_mem_cons.mpr ⟨fun _ => Slot.commutes_text (fun _ _ => rfl) fun _ _ _ => rfl,
    List.forall_mem_cons.mpr ⟨fun h => absurd rfl h,
    List.forall_mem_cons.mpr ⟨fun _ => Slot.commutes_int (fun _ _ => rfl) fun _ _ _ => rfl,
      nofun⟩⟩⟩
  built := built_port

theorem ServerSettings.hasField_shutdownTimeout : codec.plan.HasField
    (.int "shutdown_timeout_secs" .u64 Draft.shutdownTimeoutSecs
      fun x d => { d with shutdownTimeoutSecs := some x }) "shutdown_timeout_secs" (intOf? .u64)
    (fun n state => { state with shutdownTimeoutSecs := some n })
    (fun n a => { a with shutdownTimeoutSecs := toUInt64 n }) where
  found := rfl
  reads _ := rfl
  once _ _ := rfl
  others :=
    List.forall_mem_cons.mpr ⟨fun _ => Slot.commutes_text (fun _ _ => rfl) fun _ _ _ => rfl,
    List.forall_mem_cons.mpr ⟨fun _ => Slot.commutes_int (fun _ _ => rfl) fun _ _ _ => rfl,
    List.forall_mem_cons.mpr ⟨fun h => absurd rfl h, nofun⟩⟩⟩
  built := built_shutdownTimeout

theorem DatabaseSettings.hasField_maxConnections : codec.plan.HasField
    (.int "max_connections" .u32 Draft.maxConnections
      fun x d => { d with maxConnections := some x }) "max_connections" (intOf? .u32)
    (fun n state => { state with maxConnections := some n })
    (fun n a => { a with maxConnections := toUInt32 n }) where
  found := rfl
  reads _ := rfl
  once _ _ := rfl
  others :=
    List.forall_mem_cons.mpr ⟨fun _ => Slot.commutes_text (fun _ _ => rfl) fun _ _ _ => rfl,
    List.forall_mem_cons.mpr ⟨fun h => absurd rfl h,
    List.forall_mem_cons.mpr ⟨fun _ => Slot.commutes_int (fun _ _ => rfl) fun _ _ _ => rfl,
      nofun⟩⟩⟩
  built := built_maxConnections

theorem DatabaseSettings.hasField_acquireTimeout : codec.plan.HasField
    (.int "acquire_timeout_secs" .u64 Draft.acquireTimeoutSecs
      fun x d => { d with acquireTimeoutSecs := some x }) "acquire_timeout_secs" (intOf? .u64)
    (fun n state => { state with acquireTimeoutSecs := some n })
    (fun n a => { a with acquireTimeoutSecs := toUInt64 n }) where
  found := rfl
  reads _ := rfl
  once _ _ := rfl
  others :=
    List.forall_mem_cons.mpr ⟨fun _ => Slot.commutes_text (fun _ _ => rfl) fun _ _ _ => rfl,
    List.forall_mem_cons.mpr ⟨fun _ => Slot.commutes_int (fun _ _ => rfl) fun _ _ _ => rfl,
    List.forall_mem_cons.mpr ⟨fun h => absurd rfl h, nofun⟩⟩⟩
  built := built_acquireTimeout

theorem Settings.hasField_server : codec.plan.HasField
    (.record ServerSettings.codec.plan "server" Draft.server fun x d => { d with server := some x })
    "server" ServerSettings.codec.plan.ofValue? (fun b state => { state with server := some b })
    (fun b a => { a with server := b }) where
  found := rfl
  reads _ := rfl
  once _ _ := rfl
  others :=
    List.forall_mem_cons.mpr ⟨fun _ => Slot.commutes_record (fun _ _ => rfl) fun _ _ _ => rfl,
    List.forall_mem_cons.mpr ⟨fun h => absurd rfl h,
    List.forall_mem_cons.mpr ⟨fun _ => Slot.commutes_record (fun _ _ => rfl) fun _ _ _ => rfl,
    List.forall_mem_cons.mpr ⟨fun _ => Slot.commutes_record (fun _ _ => rfl) fun _ _ _ => rfl,
      nofun⟩⟩⟩⟩
  built := built_server

theorem Settings.hasField_database : codec.plan.HasField
    (.record DatabaseSettings.codec.plan "database" Draft.database
      fun x d => { d with database := some x })
    "database" DatabaseSettings.codec.plan.ofValue?
    (fun b state => { state with database := some b }) (fun b a => { a with database := b }) where
  found := rfl
  reads _ := rfl
  once _ _ := rfl
  others :=
    List.forall_mem_cons.mpr ⟨fun _ => Slot.commutes_record (fun _ _ => rfl) fun _ _ _ => rfl,
    List.forall_mem_cons.mpr ⟨fun _ => Slot.commutes_record (fun _ _ => rfl) fun _ _ _ => rfl,
    List.forall_mem_cons.mpr ⟨fun h => absurd rfl h,
    List.forall_mem_cons.mpr ⟨fun _ => Slot.commutes_record (fun _ _ => rfl) fun _ _ _ => rfl,
      nofun⟩⟩⟩⟩
  built := built_database

/-! ## Texts around a number -/

/-- The text of settings without the number of one setting: what stands around it in its section,
and what stands around the section. -/
structure NumericText (setting : NumericSetting) where
  before : List UInt8
  before_blank : Blank before
  outer : Context 126
  outer_key : outer.key = setting.keys.1
  inner : Context 125
  inner_key : inner.key = setting.keys.2
  after : List UInt8
  after_blank : Blank after

namespace NumericText

variable {setting : NumericSetting} (x : NumericText setting)

/-- The text with a number in decimal. -/
def fill (n : Int) : List UInt8 :=
  x.before ++ x.outer.fill (x.inner.fill (encode (printInt n))) ++ x.after

/-- The value with a number. -/
def value (n : Int) : Value := x.outer.value (x.inner.value (.number (.whole n)))

theorem document_fill {n : Int} (hleast : -9223372036854775808 ≤ n)
    (hgreatest : n ≤ 18446744073709551615) : Document (x.fill n) (x.value n) := by
  have hnumber : Spells 125 (encode (printInt n)) (.number (.whole n)) :=
    spells_of_scalar (Scalar.number (numeral_printInt hleast hgreatest)) 125
  exact ⟨x.before, _, x.after, x.before_blank, x.outer.spells_fill (x.inner.spells_fill hnumber),
    x.after_blank, rfl⟩

section
variable {σ τ α γ : Type} {outer : Record τ γ} {outerPlan : Plan outer} {inner : Record σ α}
  {innerPlan : Plan inner} {outerSlot : Slot τ} {innerSlot : Slot σ} {putOuter : α → τ → τ}
  {setOuter : α → γ → γ} {putInner : Int → σ → σ} {setInner : Int → α → α}
  (houter : outerPlan.HasField outerSlot setting.keys.1 innerPlan.ofValue? putOuter setOuter)
  (hinner : innerPlan.HasField innerSlot setting.keys.2 (intOf? setting.range) putInner setInner)

include houter hinner

/-- A number that the setting cannot have is refused, whatever else the text holds. -/
theorem error_of_parse (houterRead : ∀ t, Refuses inner.read t → Refuses outerSlot.field.read t)
    (hinnerRead : ∀ t, Refuses (fun _ c => readInt setting.range c) t →
      Refuses innerSlot.field.read t) {n : Int} (hn : setting.range.holds n = false) :
    ∃ e, outer.parse (x.fill n) = .error e := by
  have hinnerFill := x.inner.refuses_fill innerPlan (x.inner_key ▸ hinner.found)
    (hinnerRead _ (refuses_printInt hn))
  have houterFill := x.outer.refuses_fill outerPlan (x.outer_key ▸ houter.found)
    (houterRead _ hinnerFill)
  have hstops : Stops x.after := by
    have := stops_append x.after_blank stops_nil
    rwa [List.append_nil] at this
  have hlen : (x.outer.fill (x.inner.fill (encode (printInt n)))).length
      < (x.fill n).length + 1 := by
    rw [fill, List.length_append, List.length_append]
    omega
  obtain ⟨e, he⟩ := houterFill _ x.before x.before_blank hlen (Cursor.start (x.fill n)) x.after rfl
    hstops
  refine ⟨e, ?_⟩
  rw [Record.parse, readWhole, he]

/-- With the numbers that the setting can have, the texts are read as settings that differ in it
only. -/
theorem toOption_parse_inRange {m : Int} (hm : setting.range.holds m = true) {c : γ}
    (hread : outer.parse (x.fill m) = .ok c) :
    ∃ a, setOuter a c = c ∧ ∀ n, setting.range.holds n = true →
      (outer.parse (x.fill n)).toOption = some (setOuter (setInner n a) c) := by
  have hdocument : ∀ i, setting.range.holds i = true → Document (x.fill i) (x.value i) := by
    intro i hi
    obtain ⟨hleast, hgreatest⟩ := setting.range_bounds
    obtain ⟨hl, hg⟩ := holds_iff.mp hi
    exact x.document_fill (by omega) (by omega)
  have hvalue := outerPlan.toOption_parse (hdocument m hm)
  rw [hread] at hvalue
  obtain ⟨a, ha, hset, houterValue⟩ := houter.ofValue?_replace x.outer x.outer_key hvalue.symm
  obtain ⟨-, -, -, hinnerValue⟩ := hinner.ofValue?_replace x.inner x.inner_key ha
  refine ⟨a, hset, fun n hn => ?_⟩
  rw [outerPlan.toOption_parse (hdocument n hn), value, houterValue, hinnerValue,
    intOf?_whole hn]
  rfl

/-- What is read with any number. -/
theorem toOption_parse_of (houterRead : ∀ t, Refuses inner.read t → Refuses outerSlot.field.read t)
    (hinnerRead : ∀ t, Refuses (fun _ c => readInt setting.range c) t →
      Refuses innerSlot.field.read t) {m : Int} (hm : setting.range.holds m = true) {c : γ}
    (hread : outer.parse (x.fill m) = .ok c) :
    ∃ a, setOuter a c = c ∧ ∀ n, (outer.parse (x.fill n)).toOption
      = if setting.range.holds n then some (setOuter (setInner n a) c) else none := by
  obtain ⟨a, hset, hrange⟩ := x.toOption_parse_inRange houter hinner hm hread
  refine ⟨a, hset, fun n => ?_⟩
  cases hn : setting.range.holds n with
  | true => exact hrange n hn
  | false =>
    obtain ⟨e, he⟩ := x.error_of_parse houter hinner houterRead hinnerRead hn
    rw [he]
    rfl

end

/-- **What is read of a text with another number in the place of a numeric setting.** -/
theorem toOption_parse {m : Int} (hm : setting.range.holds m = true) {s : Settings}
    (hread : Settings.record.parse (x.fill m) = .ok s) (n : Int) :
    (Settings.record.parse (x.fill n)).toOption
      = if setting.range.holds n then some (setting.set n s) else none := by
  cases setting with
  | port =>
    obtain ⟨a, hset, hparse⟩ := x.toOption_parse_of Settings.hasField_server
      ServerSettings.hasField_port (fun _ => refuses_map) (fun _ => refuses_map) hm hread
    obtain rfl : a = s.server := congrArg Settings.server hset
    exact hparse n
  | shutdownTimeout =>
    obtain ⟨a, hset, hparse⟩ := x.toOption_parse_of Settings.hasField_server
      ServerSettings.hasField_shutdownTimeout (fun _ => refuses_map) (fun _ => refuses_map) hm
      hread
    obtain rfl : a = s.server := congrArg Settings.server hset
    exact hparse n
  | maxConnections =>
    obtain ⟨a, hset, hparse⟩ := x.toOption_parse_of Settings.hasField_database
      DatabaseSettings.hasField_maxConnections (fun _ => refuses_map) (fun _ => refuses_map) hm
      hread
    obtain rfl : a = s.database := congrArg Settings.database hset
    exact hparse n
  | acquireTimeout =>
    obtain ⟨a, hset, hparse⟩ := x.toOption_parse_of Settings.hasField_database
      DatabaseSettings.hasField_acquireTimeout (fun _ => refuses_map) (fun _ => refuses_map) hm
      hread
    obtain rfl : a = s.database := congrArg Settings.database hset
    exact hparse n

end NumericText

/-! ## Written settings -/

namespace NumericSetting

/-- The number of its section, and its own number in the section. -/
def index : NumericSetting → Nat × Nat
  | port => (1, 1)
  | shutdownTimeout => (1, 2)
  | maxConnections => (2, 1)
  | acquireTimeout => (2, 2)

/-- How its section is written. -/
def sectionEntries (s : Settings) : NumericSetting → List (Entry 125)
  | port | shutdownTimeout => ServerSettings.codec.entries s.server
  | maxConnections | acquireTimeout => DatabaseSettings.codec.entries s.database

/-- The text that is written of settings, without the number of one of them. -/
def written (setting : NumericSetting) (s : Settings) : NumericText setting where
  before := []
  before_blank := blank_nil
  outer := .printed ((Settings.codec.entries s).take setting.index.1) setting.keys.1
    ((Settings.codec.entries s).drop (setting.index.1 + 1))
  outer_key := rfl
  inner := .printed ((setting.sectionEntries s).take setting.index.2) setting.keys.2
    ((setting.sectionEntries s).drop (setting.index.2 + 1))
  inner_key := rfl
  after := []
  after_blank := blank_nil

/-- With a number that the setting has it is what is written of the settings with this number. -/
theorem fill_written (setting : NumericSetting) (s : Settings) {n : Int}
    (hn : setting.range.holds n = true) :
    (setting.written s).fill n = encode (setting.set n s).print := by
  simp only [NumericText.fill, written, Context.fill_printed, List.nil_append, List.append_nil]
  cases setting with
  | port =>
    simp only [set, Settings.print, ServerSettings.print, toInt_toUInt16 hn]
    rfl
  | shutdownTimeout =>
    simp only [set, Settings.print, ServerSettings.print, toInt_toUInt64 hn]
    rfl
  | maxConnections =>
    simp only [set, Settings.print, DatabaseSettings.print, toInt_toUInt32 hn]
    rfl
  | acquireTimeout =>
    simp only [set, Settings.print, DatabaseSettings.print, toInt_toUInt64 hn]
    rfl

end NumericSetting

end LoginService

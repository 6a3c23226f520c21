import Mathlib.Tactic.Choose
import LoginService.Proofs.Except
import LoginService.Proofs.Settings.Sources
import LoginService.Settings.Extract

/-!
# Reading the settings out of a tree

A section passes over every key that names none of its settings, and a dictionary in order gives the
settings in the order of their names. So what is read of a layer that has all nine settings, be it
the settings or the error of the first one that is refused, depends on the trees of these nine and
on nothing else (`ofTree_eq`). What has been read is the value that the tree of each setting has
(`values_of_ofTrees`).
-/

namespace LoginService.Settings

open Json (IntRange)

/-! ## The nine settings -/

/-- What a setting can be. -/
inductive SettingValue where
  | text (s : String)
  | number (n : Int)
  | flag (b : Bool)
  deriving DecidableEq, Repr

/-- The value that a tree is, if it is one that a setting can have. -/
def Tree.value? : Tree → Option SettingValue
  | .scalar _ (.text s) => some (.text s)
  | .scalar _ (.bool b) => some (.flag b)
  | .scalar _ (.unsigned n) => some (.number n)
  | .scalar _ (.signed i) => some (.number i)
  | _ => none

/-- The settings, each by its section and its key. -/
def settingKeys : List (String × String) := [
  ("app", "name"), ("app", "version"),
  ("server", "host"), ("server", "port"), ("server", "shutdown_timeout_secs"),
  ("database", "dsn"), ("database", "max_connections"), ("database", "acquire_timeout_secs"),
  ("auth", "reject_with_unauthorized")]

/-- The values of the settings, in the same order. -/
def values (s : Settings) : List ((String × String) × SettingValue) := [
  (("app", "name"), .text s.app.name),
  (("app", "version"), .text s.app.version),
  (("server", "host"), .text s.server.host),
  (("server", "port"), .number s.server.port.toNat),
  (("server", "shutdown_timeout_secs"), .number s.server.shutdownTimeoutSecs.toNat),
  (("database", "dsn"), .text s.database.dsn),
  (("database", "max_connections"), .number s.database.maxConnections.toNat),
  (("database", "acquire_timeout_secs"), .number s.database.acquireTimeoutSecs.toNat),
  (("auth", "reject_with_unauthorized"), .flag s.auth.rejectWithUnauthorized)]

theorem map_fst_values (s : Settings) : s.values.map Prod.fst = settingKeys := rfl

/-! ## Values of trees -/

theorem mapError_eq_ok {ε ε' α : Type} {x : Except ε α} {f : ε → ε'} {a : α}
    (h : x.mapError f = .ok a) : x = .ok a := by
  cases x with
  | error e => cases h
  | ok b => exact congrArg Except.ok (Except.ok.inj h)

theorem value?_of_toText {t : Tree} {s : String} (h : t.toText = .ok s) :
    t.value? = some (.text s) := by
  unfold Tree.toText at h
  split at h
  · cases h
    rfl
  · cases h

theorem value?_of_toBool {t : Tree} {b : Bool} (h : t.toBool = .ok b) :
    t.value? = some (.flag b) := by
  unfold Tree.toBool at h
  split at h
  · cases h
    rfl
  · cases h

theorem value?_of_toInt {range : IntRange} {t : Tree} {i : Int} (h : t.toInt range = .ok i) :
    t.value? = some (.number i) ∧ range.holds i = true := by
  unfold Tree.toInt at h
  dsimp only at h
  split at h
  · split at h
    · split at h
      · next hholds =>
        cases h
        exact ⟨rfl, hholds⟩
      · cases h
    · cases h
  · split at h
    · split at h
      · next hholds =>
        cases h
        exact ⟨rfl, hholds⟩
      · cases h
    · cases h
  · cases h

theorem holds_iff {range : IntRange} {i : Int} :
    range.holds i = true ↔ range.least ≤ i ∧ i ≤ range.greatest := by
  rw [IntRange.holds, Bool.and_eq_true, decide_eq_true_iff, decide_eq_true_iff]

theorem toInt_toUInt16 {i : Int} (h : IntRange.u16.holds i = true) :
    ((toUInt16 i).toNat : Int) = i := by
  obtain ⟨hleast, hgreatest⟩ : 0 ≤ i ∧ i ≤ 65535 := holds_iff.mp h
  rw [toUInt16, UInt16.toNat_ofNat_of_lt' (by simp only [UInt16.size]; omega)]
  exact Int.toNat_of_nonneg hleast

theorem toInt_toUInt32 {i : Int} (h : IntRange.u32.holds i = true) :
    ((toUInt32 i).toNat : Int) = i := by
  obtain ⟨hleast, hgreatest⟩ : 0 ≤ i ∧ i ≤ 4294967295 := holds_iff.mp h
  rw [toUInt32, UInt32.toNat_ofNat_of_lt' (by simp only [UInt32.size]; omega)]
  exact Int.toNat_of_nonneg hleast

theorem toInt_toUInt64 {i : Int} (h : IntRange.u64.holds i = true) :
    ((toUInt64 i).toNat : Int) = i := by
  obtain ⟨hleast, hgreatest⟩ : 0 ≤ i ∧ i ≤ 18446744073709551615 := holds_iff.mp h
  rw [toUInt64, UInt64.toNat_ofNat_of_lt' (by simp only [UInt64.size]; omega)]
  exact Int.toNat_of_nonneg hleast

/-! ## Reading a dictionary -/

section

variable {σ α : Type}

/-- **Unknown keys are passed over.** -/
theorem readMembers_known (settings : List (Setting σ)) (members : Members) (state : σ) :
    Section.readMembers settings members state = Section.readMembers settings
      (members.filter fun member => settings.any fun s => s.name == member.1) state := by
  induction members generalizing state with
  | nil => rfl
  | cons member rest ih =>
    obtain ⟨key, value⟩ := member
    rw [List.filter_cons]
    dsimp only
    cases hfind : settings.find? (fun s => s.name == key) with
    | none =>
      have hany : (settings.any fun s => s.name == key) = false := by
        rw [List.any_eq_false]
        exact List.find?_eq_none.mp hfind
      rw [hany, if_neg Bool.false_ne_true, Section.readMembers, hfind]
      exact ih state
    | some setting =>
      have hany : (settings.any fun s => s.name == key) = true :=
        List.any_eq_true.mpr ⟨setting, List.mem_of_find?_eq_some hfind,
          List.find?_some (p := fun s : Setting σ => s.name == key) hfind⟩
      rw [hany, if_pos rfl, Section.readMembers, Section.readMembers, hfind]
      dsimp only
      cases setting.read value with
      | error r => rfl
      | ok put => exact ih (put state)

/-- A dictionary in order, cut down to some of its keys, is known by its values at these. -/
theorem filter_eq_map {members : Members} (hm : members.Ordered) {names : List String}
    (hnames : names.Pairwise (· < ·)) {value : String → Tree}
    (hvalue : ∀ name ∈ names, members.get? name = some (value name)) :
    (members.filter fun member => names.contains member.1)
      = names.map fun name => (name, value name) := by
  have hleft : Members.Ordered (members.filter fun member => names.contains member.1) :=
    hm.filter _
  have hright : Members.Ordered (names.map fun name => (name, value name)) :=
    List.pairwise_map.mpr hnames
  refine hleft.eq_of_mem_iff hright ?_
  rintro ⟨key, t⟩
  rw [List.mem_filter, List.mem_map, List.contains_iff_mem]
  constructor
  · rintro ⟨hmem, hkey⟩
    have hget := hm.get?_of_mem hmem
    rw [hvalue key hkey] at hget
    exact ⟨key, hkey, Prod.ext rfl (Option.some.inj hget)⟩
  · rintro ⟨name, hname, heq⟩
    cases heq
    exact ⟨Members.mem_of_get? (hvalue _ hname), hname⟩

/-- **A section is read from the values of its settings**, in the order of their names. -/
theorem read_eq_readMembers (s : Section σ α) (names : List String)
    (hnames : names.Pairwise (· < ·)) (hperm : names.Perm (s.settings.map Setting.name))
    {t : Tree} (ht : t.IsDict) {value : String → Tree}
    (hvalue : ∀ name ∈ names, t.get? [name] = some (value name)) :
    s.read t = (Section.readMembers s.settings (names.map fun name => (name, value name)) s.empty
      >>= s.finish t) := by
  obtain ⟨source, members, rfl, hm⟩ := ht
  have hknown : (fun member : String × Tree => s.settings.any fun x => x.name == member.1)
      = fun member => names.contains member.1 := by
    funext member
    rw [Bool.eq_iff_iff, List.any_eq_true, List.contains_iff_mem, hperm.mem_iff, List.mem_map]
    simp only [beq_iff_eq]
  have hget : ∀ name ∈ names, Members.get? members name = some (value name) := by
    intro name hname
    simpa only [Tree.get?, Option.bind_fun_some] using hvalue name hname
  rw [Section.read, readMembers_known, hknown, filter_eq_map hm hnames hget]

end

end LoginService.Settings

/-! ## The sections, read from the trees of their settings -/

namespace LoginService

open Settings

section

variable {t : Tree} {value : String → Tree}

/-- The section with the name and the version, read from the trees of its settings. -/
def AppSettings.ofTrees (value : String → Tree) : Except Refusal AppSettings := do
  let name ← (value "name").toText.mapError (Refusal.under "name")
  let version ← (value "version").toText.mapError (Refusal.under "version")
  return ⟨name, version⟩

/-- The section about listening, read from the trees of its settings. -/
def ServerSettings.ofTrees (value : String → Tree) : Except Refusal ServerSettings := do
  let host ← (value "host").toText.mapError (Refusal.under "host")
  let port ← ((value "port").toInt .u16).mapError (Refusal.under "port")
  let timeout ← ((value "shutdown_timeout_secs").toInt .u64).mapError
    (Refusal.under "shutdown_timeout_secs")
  return ⟨host, toUInt16 port, toUInt64 timeout⟩

/-- The section about the account table, read from the trees of its settings. -/
def DatabaseSettings.ofTrees (value : String → Tree) : Except Refusal DatabaseSettings := do
  let timeout ← ((value "acquire_timeout_secs").toInt .u64).mapError
    (Refusal.under "acquire_timeout_secs")
  let dsn ← (value "dsn").toText.mapError (Refusal.under "dsn")
  let maxConnections ← ((value "max_connections").toInt .u32).mapError
    (Refusal.under "max_connections")
  return ⟨dsn, toUInt32 maxConnections, toUInt64 timeout⟩

/-- The section about mismatches, read from the tree of its setting. -/
def AuthSettings.ofTrees (value : String → Tree) : Except Refusal AuthSettings := do
  let flag ← (value "reject_with_unauthorized").toBool.mapError
    (Refusal.under "reject_with_unauthorized")
  return ⟨flag⟩

theorem AppSettings.read_eq_ofTrees (ht : t.IsDict)
    (hvalue : ∀ key ∈ ["name", "version"], t.get? [key] = some (value key)) :
    AppSettings.fields.read t = AppSettings.ofTrees value := by
  rw [read_eq_readMembers _ ["name", "version"] (by decide) (by decide) ht hvalue]
  simp only [AppSettings.fields, AppSettings.ofTrees, List.map_cons, List.map_nil,
    Section.readMembers, Setting.text, List.find?, String.reduceBEq]
  cases (value "name").toText <;> cases (value "version").toText <;> rfl

theorem ServerSettings.read_eq_ofTrees (ht : t.IsDict)
    (hvalue : ∀ key ∈ ["host", "port", "shutdown_timeout_secs"], t.get? [key] = some (value key)) :
    ServerSettings.fields.read t = ServerSettings.ofTrees value := by
  rw [read_eq_readMembers _ ["host", "port", "shutdown_timeout_secs"] (by decide) (by decide) ht
    hvalue]
  simp only [ServerSettings.fields, ServerSettings.ofTrees, List.map_cons, List.map_nil,
    Section.readMembers, Setting.text, Setting.int, List.find?, String.reduceBEq]
  cases (value "host").toText <;> cases (value "port").toInt .u16 <;>
    cases (value "shutdown_timeout_secs").toInt .u64 <;> rfl

theorem DatabaseSettings.read_eq_ofTrees (ht : t.IsDict)
    (hvalue : ∀ key ∈ ["acquire_timeout_secs", "dsn", "max_connections"],
      t.get? [key] = some (value key)) :
    DatabaseSettings.fields.read t = DatabaseSettings.ofTrees value := by
  rw [read_eq_readMembers _ ["acquire_timeout_secs", "dsn", "max_connections"] (by decide)
    (by decide) ht hvalue]
  simp only [DatabaseSettings.fields, DatabaseSettings.ofTrees, List.map_cons, List.map_nil,
    Section.readMembers, Setting.text, Setting.int, List.find?, String.reduceBEq]
  cases (value "acquire_timeout_secs").toInt .u64 <;> cases (value "dsn").toText <;>
    cases (value "max_connections").toInt .u32 <;> rfl

theorem AuthSettings.read_eq_ofTrees (ht : t.IsDict)
    (hvalue : ∀ key ∈ ["reject_with_unauthorized"], t.get? [key] = some (value key)) :
    AuthSettings.fields.read t = AuthSettings.ofTrees value := by
  rw [read_eq_readMembers _ ["reject_with_unauthorized"] (by decide) (by decide) ht hvalue]
  simp only [AuthSettings.fields, AuthSettings.ofTrees, List.map_cons, List.map_nil,
    Section.readMembers, Setting.bool, List.find?, String.reduceBEq]
  cases (value "reject_with_unauthorized").toBool <;> rfl

/-! ### What has been read -/

theorem AppSettings.values_of_ofTrees {s : AppSettings} (h : AppSettings.ofTrees value = .ok s) :
    (value "name").value? = some (.text s.name) ∧
      (value "version").value? = some (.text s.version) := by
  obtain ⟨name, hname, h⟩ := bind_ok_iff.mp h
  obtain ⟨version, hversion, h⟩ := bind_ok_iff.mp h
  cases h
  exact ⟨value?_of_toText (mapError_eq_ok hname), value?_of_toText (mapError_eq_ok hversion)⟩

theorem ServerSettings.values_of_ofTrees {s : ServerSettings}
    (h : ServerSettings.ofTrees value = .ok s) :
    (value "host").value? = some (.text s.host) ∧
      (value "port").value? = some (.number s.port.toNat) ∧
      (value "shutdown_timeout_secs").value? = some (.number s.shutdownTimeoutSecs.toNat) := by
  obtain ⟨host, hhost, h⟩ := bind_ok_iff.mp h
  obtain ⟨port, hport, h⟩ := bind_ok_iff.mp h
  obtain ⟨timeout, htimeout, h⟩ := bind_ok_iff.mp h
  cases h
  obtain ⟨hport, hportRange⟩ := value?_of_toInt (mapError_eq_ok hport)
  obtain ⟨htimeout, htimeoutRange⟩ := value?_of_toInt (mapError_eq_ok htimeout)
  rw [toInt_toUInt16 hportRange, toInt_toUInt64 htimeoutRange]
  exact ⟨value?_of_toText (mapError_eq_ok hhost), hport, htimeout⟩

theorem DatabaseSettings.values_of_ofTrees {s : DatabaseSettings}
    (h : DatabaseSettings.ofTrees value = .ok s) :
    (value "dsn").value? = some (.text s.dsn) ∧
      (value "max_connections").value? = some (.number s.maxConnections.toNat) ∧
      (value "acquire_timeout_secs").value? = some (.number s.acquireTimeoutSecs.toNat) := by
  obtain ⟨timeout, htimeout, h⟩ := bind_ok_iff.mp h
  obtain ⟨dsn, hdsn, h⟩ := bind_ok_iff.mp h
  obtain ⟨connections, hconnections, h⟩ := bind_ok_iff.mp h
  cases h
  obtain ⟨htimeout, htimeoutRange⟩ := value?_of_toInt (mapError_eq_ok htimeout)
  obtain ⟨hconnections, hconnectionsRange⟩ := value?_of_toInt (mapError_eq_ok hconnections)
  rw [toInt_toUInt32 hconnectionsRange, toInt_toUInt64 htimeoutRange]
  exact ⟨value?_of_toText (mapError_eq_ok hdsn), hconnections, htimeout⟩

theorem AuthSettings.values_of_ofTrees {s : AuthSettings} (h : AuthSettings.ofTrees value = .ok s) :
    (value "reject_with_unauthorized").value? = some (.flag s.rejectWithUnauthorized) := by
  obtain ⟨flag, hflag, h⟩ := bind_ok_iff.mp h
  cases h
  exact value?_of_toBool (mapError_eq_ok hflag)

end

namespace Settings

variable {t : Tree} {value : String → String → Tree}

/-- All settings, read from the tree of each. -/
def ofTrees (value : String → String → Tree) : Except Refusal Settings := do
  let app ← (AppSettings.ofTrees (value "app")).mapError (Refusal.under "app")
  let auth ← (AuthSettings.ofTrees (value "auth")).mapError (Refusal.under "auth")
  let database ← (DatabaseSettings.ofTrees (value "database")).mapError (Refusal.under "database")
  let server ← (ServerSettings.ofTrees (value "server")).mapError (Refusal.under "server")
  return ⟨app, server, database, auth⟩

/-- Every section of a layer that has all settings is a dictionary that has its own. -/
theorem exists_section (ht : Layer sectionNames t)
    (hvalue : ∀ p ∈ settingKeys, t.get? [p.1, p.2] = some (value p.1 p.2)) :
    ∀ name ∈ sectionNames, ∃ u, t.get? [name] = some u ∧ u.IsDict ∧
      ∀ key, (name, key) ∈ settingKeys → u.get? [key] = some (value name key) := by
  intro name hname
  have hkeys : ∀ name ∈ sectionNames, name ∈ settingKeys.map Prod.fst := by decide
  obtain ⟨⟨name, key⟩, hp, rfl⟩ := List.mem_map.mp (hkeys name hname)
  have hget := hvalue (name, key) hp
  rw [get?_two] at hget
  obtain ⟨u, hu, -⟩ := Option.bind_eq_some_iff.mp hget
  refine ⟨u, hu, ht.section_isDict name hname u hu, ?_⟩
  intro key hkey
  have hget := hvalue (name, key) hkey
  rw [get?_two, hu] at hget
  exact hget

/-- **What is read of a layer depends on the trees of its settings only.** -/
theorem ofTree_eq (ht : Layer sectionNames t)
    (hvalue : ∀ p ∈ settingKeys, t.get? [p.1, p.2] = some (value p.1 p.2)) :
    ofTree t = ofTrees value := by
  have : Nonempty Tree := ⟨t⟩
  choose! sections hsome hdict hget using exists_section ht hvalue
  have happ : AppSettings.fields.read (sections "app") = AppSettings.ofTrees (value "app") := by
    refine AppSettings.read_eq_ofTrees (hdict "app" (by decide)) ?_
    exact fun key hkey => hget "app" (by decide) key (by revert key; decide)
  have hauth : AuthSettings.fields.read (sections "auth")
      = AuthSettings.ofTrees (value "auth") := by
    refine AuthSettings.read_eq_ofTrees (hdict "auth" (by decide)) ?_
    exact fun key hkey => hget "auth" (by decide) key (by revert key; decide)
  have hdatabase : DatabaseSettings.fields.read (sections "database")
      = DatabaseSettings.ofTrees (value "database") := by
    refine DatabaseSettings.read_eq_ofTrees (hdict "database" (by decide)) ?_
    exact fun key hkey => hget "database" (by decide) key (by revert key; decide)
  have hserver : ServerSettings.fields.read (sections "server")
      = ServerSettings.ofTrees (value "server") := by
    refine ServerSettings.read_eq_ofTrees (hdict "server" (by decide)) ?_
    exact fun key hkey => hget "server" (by decide) key (by revert key; decide)
  have hnames : ∀ name ∈ ["app", "auth", "database", "server"], name ∈ sectionNames := by decide
  rw [ofTree, read_eq_readMembers _ ["app", "auth", "database", "server"] (by decide) (by decide)
    ht.root (fun name hname => hsome name (hnames name hname))]
  simp only [fields, ofTrees, List.map_cons, List.map_nil, Section.readMembers, Section.setting,
    List.find?, String.reduceBEq, happ, hauth, hdatabase, hserver]
  cases AppSettings.ofTrees (value "app") <;> cases AuthSettings.ofTrees (value "auth") <;>
    cases DatabaseSettings.ofTrees (value "database") <;>
    cases ServerSettings.ofTrees (value "server") <;> rfl

theorem values_of_ofTrees {s : Settings} (h : ofTrees value = .ok s) :
    ∀ x ∈ s.values, (value x.1.1 x.1.2).value? = some x.2 := by
  obtain ⟨app, happ, h⟩ := bind_ok_iff.mp h
  obtain ⟨auth, hauth, h⟩ := bind_ok_iff.mp h
  obtain ⟨database, hdatabase, h⟩ := bind_ok_iff.mp h
  obtain ⟨server, hserver, h⟩ := bind_ok_iff.mp h
  cases h
  obtain ⟨hname, hversion⟩ := AppSettings.values_of_ofTrees (mapError_eq_ok happ)
  obtain ⟨hhost, hport, hshutdown⟩ := ServerSettings.values_of_ofTrees (mapError_eq_ok hserver)
  obtain ⟨hdsn, hconnections, hacquire⟩ :=
    DatabaseSettings.values_of_ofTrees (mapError_eq_ok hdatabase)
  have hflag := AuthSettings.values_of_ofTrees (mapError_eq_ok hauth)
  intro x hx
  simp only [values, List.mem_cons, List.not_mem_nil, or_false] at hx
  rcases hx with rfl | rfl | rfl | rfl | rfl | rfl | rfl | rfl | rfl <;> assumption

end Settings

end LoginService

import LoginService.Proofs.Settings.NumericFile
import LoginService.Proofs.Settings.NumericText

/-!
# Numeric settings are exact or refused

A number in decimal, of any size and sign, may be given to a numeric setting in the file, in a
variable or in a JSON text. Three different readers read it, and all three load exactly this number
if the type of the setting has it and load nothing if not.
-/

namespace LoginService

open Json (IntRange printInt)
open Settings
open Text.Utf8 (encode)

namespace NumericSetting

variable {setting : NumericSetting} {n : Int} {s : Settings}

/-! ## Numbers that a setting has -/

theorem holds_iff_bounds (setting : NumericSetting) (n : Int) :
    setting.range.holds n = true ↔ 0 ≤ n ∧ n ≤ setting.range.greatest := by
  obtain ⟨hleast, -⟩ := setting.range_bounds
  rw [Settings.holds_iff, hleast]

theorem holds_zero (setting : NumericSetting) : setting.range.holds 0 = true := by
  cases setting <;> rfl

/-- A number that the setting has is not cut off. -/
theorem value_set (hn : setting.range.holds n = true) (s : Settings) :
    setting.value (setting.set n s) = n := by
  cases setting with
  | port => exact toInt_toUInt16 hn
  | shutdownTimeout => exact toInt_toUInt64 hn
  | maxConnections => exact toInt_toUInt32 hn
  | acquireTimeout => exact toInt_toUInt64 hn

/-! ## Loading with another number -/

/-- **What is loaded if a numeric setting is a number**, whatever else the file and the variables
hold, if that is valid. -/
theorem toOption_load {file : Option File} {t x : Tree} {env : Environment} {name : String}
    (ht : fileTree? file = some t)
    (hx : (merged t env).get? [setting.keys.1, setting.keys.2] = some x) (hreads : x.Reads n)
    (hpath : variablePath? name = some [setting.keys.1, setting.keys.2])
    (hothers : load file (env ++ [(name, "0")]) = .ok s) :
    (load file env).toOption = if setting.range.holds n then some (setting.set n s) else none := by
  have hreached : reached? setting.keys (name, "0")
      = some (.scalar .environment (.ofBare (printInt 0))) := by
    rw [reached?_of_path (v := (name, "0")) hpath]
    exact congrArg some (ofVariable_printInt 0)
  have hzero : (merged t (env ++ [(name, "0")])).get? [setting.keys.1, setting.keys.2]
      = some (.scalar .environment (.ofBare (printInt 0))) :=
    get?_merged_of_variable ht hreached (List.forall_mem_nil _)
  rw [load_of_fileTree ht] at hothers
  have hread := setting.toOption_ofTree (agreeBut_override (v := (name, "0")) ht hpath hx) hx hzero
    (mapError_eq_ok hothers)
  obtain ⟨hleast, hgreatest⟩ := setting.range_bounds
  rw [hreads setting.range hleast hgreatest] at hread
  have htoOption : (load file env).toOption = (ofTree (merged t env)).toOption := by
    rw [load_of_fileTree ht]
    cases ofTree (merged t env) <;> rfl
  rw [htoOption, hread]
  split <;> rfl

/-- A way of giving a number to a numeric setting, and what is loaded then. All other settings are
valid: with a zero in the place of the number, or in a variable that comes last, the settings `s`
are loaded. -/
inductive Loads (setting : NumericSetting) (n : Int) (s : Settings) : Option Settings → Prop
  /-- The file has the number as a plain scalar, and the variables leave the setting alone. -/
  | file {file : Option File} {t : Tree} {source : Source} {env : Environment} {name : String}
      (tree : fileTree? file = some t)
      (number : t.get? [setting.keys.1, setting.keys.2]
        = some (.scalar source (.ofPlain (toString n))))
      (spared : ∀ v ∈ env, Spared setting.keys v)
      (path : variablePath? name = some [setting.keys.1, setting.keys.2])
      (others : load file (env ++ [(name, "0")]) = .ok s) :
      Loads setting n s (load file env).toOption
  /-- A variable has the number, and the variables after it leave the setting alone. -/
  | environment {file : Option File} {earlier later : Environment} {v : String × String}
      {name : String}
      (number : reached? setting.keys v = some (Tree.ofVariable (toString n)))
      (spared : ∀ w ∈ later, Spared setting.keys w)
      (path : variablePath? name = some [setting.keys.1, setting.keys.2])
      (others : load file (earlier ++ v :: later ++ [(name, "0")]) = .ok s) :
      Loads setting n s (load file (earlier ++ v :: later)).toOption
  /-- A JSON text has the number. -/
  | text (x : NumericText setting) (others : Settings.record.parse (x.fill 0) = .ok s) :
      Loads setting n s (Settings.record.parse (x.fill n)).toOption

theorem Loads.eq {r : Option Settings} (h : setting.Loads n s r) :
    r = if setting.range.holds n then some (setting.set n s) else none := by
  cases h with
  | file tree number spared path others =>
    exact toOption_load tree (get?_merged_of_file tree number spared) (reads_ofPlain _ n) path
      others
  | @environment file earlier later v name number spared path others =>
    obtain ⟨t, ht⟩ : ∃ t, fileTree? file = some t := by
      cases ht : fileTree? file with
      | some t => exact ⟨t, rfl⟩
      | none =>
        rw [load, layers?, ht] at others
        cases others
    have hreads := reads_ofVariable n
    rw [ofVariable_printInt] at number hreads
    exact toOption_load ht (get?_merged_of_variable ht number spared) hreads path others
  | text x others => exact x.toOption_parse setting.holds_zero others n

/-! ## Nothing but the number -/

/-- What stands in a file in the place of a number does not matter if a zero is laid over it. -/
theorem ofTree_file (setting : NumericSetting) (source : Source) (x : Tree) :
    ofTree (((toTree {}).merge (.nested source x [setting.keys.1, setting.keys.2])).merge
      ((Tree.dict .environment []).merge
        (.nested .environment (Tree.ofVariable "0") [setting.keys.1, setting.keys.2])))
      = .ok (setting.set 0 {}) := by
  cases setting <;> cbv

/-- What a variable holds in the place of a number does not matter if a zero is laid over it. -/
theorem ofTree_variable (setting : NumericSetting) (x : Tree) :
    ofTree (((toTree {}).merge (.dict .builtIn [])).merge (((Tree.dict .environment []).merge
      (.nested .environment x [setting.keys.1, setting.keys.2])).merge
        (.nested .environment (Tree.ofVariable "0") [setting.keys.1, setting.keys.2])))
      = .ok (setting.set 0 {}) := by
  cases setting <;> cbv

/-- The name of a variable for a setting. -/
def variableName (setting : NumericSetting) : String :=
  "app_" ++ setting.keys.1 ++ "__" ++ setting.keys.2

theorem variablePath?_variableName (setting : NumericSetting) :
    variablePath? setting.variableName = some [setting.keys.1, setting.keys.2] :=
  (variablePath?_settingKeys setting.keys (by cases setting <;> decide)).1

/-- The environment that sets a setting to zero after some variables. -/
theorem environmentTree_zero (setting : NumericSetting) (env : Environment) :
    environmentTree (env ++ [(setting.variableName, "0")]) = (environmentTree env).merge
      (.nested .environment (Tree.ofVariable "0") [setting.keys.1, setting.keys.2]) :=
  environmentTree_concat (v := (setting.variableName, "0")) setting.variablePath?_variableName env

theorem loads_file (setting : NumericSetting) (n : Int) (path : String) :
    setting.Loads n (setting.set 0 {})
      (load (some ⟨path, encode (setting.fileText n)⟩) []).toOption := by
  have htree := setting.fileTree?_fileText path n
  have hnumber : (Tree.nested (.file path) (.scalar (.file path) (.ofPlain (toString n)))
      [setting.keys.1, setting.keys.2]).get? [setting.keys.1, setting.keys.2]
        = some (.scalar (.file path) (.ofPlain (toString n))) := by
    rw [get?_nested_cons, if_pos rfl, get?_nested_cons, if_pos rfl]
    rfl
  refine .file htree hnumber (List.forall_mem_nil _) setting.variablePath?_variableName ?_
  rw [load_of_fileTree htree, merged, environmentTree_zero]
  exact congrArg (Except.mapError LoadError.refused) (ofTree_file setting _ _)

theorem loads_variable {name : String} (n : Int)
    (hpath : variablePath? name = some [setting.keys.1, setting.keys.2]) :
    setting.Loads n (setting.set 0 {}) (load none [(name, toString n)]).toOption := by
  have hnumber : environmentTree ([] ++ [(name, toString n)]) = (Tree.dict .environment []).merge
      (.nested .environment (Tree.ofVariable (toString n)) [setting.keys.1, setting.keys.2]) :=
    environmentTree_concat (v := (name, toString n)) hpath []
  have hothers : load none ([] ++ [(name, toString n)] ++ [(setting.variableName, "0")])
      = .ok (setting.set 0 {}) := by
    rw [load_of_fileTree rfl, merged, environmentTree_zero, hnumber]
    exact congrArg (Except.mapError LoadError.refused) (ofTree_variable setting _)
  rw [← List.nil_append [(name, toString n)]]
  exact .environment (reached?_of_path (v := (name, toString n)) hpath) (List.forall_mem_nil _)
    setting.variablePath?_variableName hothers

theorem loads_written (setting : NumericSetting) (n : Int) (s : Settings) :
    setting.Loads n (setting.set 0 s)
      (Settings.record.parse ((setting.written s).fill n)).toOption := by
  refine .text _ ?_
  rw [setting.fill_written s setting.holds_zero]
  exact Settings.codec.parse_print _

/-! ## Exact or refused -/

/-- **Numeric settings are exact or refused.** Let a number of any size and sign be given to a
numeric setting in decimal, be it in the file, in a variable or in a JSON text, and let all other
settings be valid. Settings are loaded if and only if the number is one of the type of the setting.
Then they have exactly this number, and all else is as it is without it. So the three ways agree;
and each of them is open to every number: a file of two lines, a variable alone, and the text that
is written of any settings, with the number in its place. -/
theorem exact_or_refused (setting : NumericSetting) (n : Int) :
    (∀ s r, setting.Loads n s r →
      (r.isSome = true ↔ 0 ≤ n ∧ n ≤ setting.range.greatest) ∧
      (∀ s', r = some s' → setting.value s' = n ∧ s' = setting.set n s) ∧
      ∀ r', setting.Loads n s r' → r' = r) ∧
    (∀ path, setting.Loads n (setting.set 0 {})
      (load (some ⟨path, encode (setting.fileText n)⟩) []).toOption) ∧
    (∀ name, variablePath? name = some [setting.keys.1, setting.keys.2] →
      setting.Loads n (setting.set 0 {}) (load none [(name, toString n)]).toOption) ∧
    (∀ s, setting.Loads n (setting.set 0 s)
      (Settings.record.parse ((setting.written s).fill n)).toOption) := by
  refine ⟨?_, setting.loads_file n, fun name => loads_variable n, setting.loads_written n⟩
  intro s r h
  refine ⟨?_, ?_, fun r' h' => h'.eq.trans h.eq.symm⟩
  · rw [h.eq, ← holds_iff_bounds]
    cases setting.range.holds n <;> simp
  · intro s' hs
    rw [h.eq] at hs
    split at hs
    · next hn =>
      cases hs
      exact ⟨setting.value_set hn s, rfl⟩
    · cases hs

theorem exact_or_refused_port :
    (load (some ⟨"dev.yml", encode "server:\n  port: 65536\n".toList⟩) []).toOption = none ∧
    (load none [("APP_SERVER__PORT", "65536")]).toOption = none ∧
    (Settings.record.parse ((port.written {}).fill 65536)).toOption = none ∧
    ((load none [("APP_SERVER__PORT", "65535")]).toOption.map fun s => s.server.port.toNat)
      = some 65535 := by
  obtain ⟨hall, hfile, hvariable, hwritten⟩ := exact_or_refused port 65536
  have hnone : ∀ r, port.Loads 65536 (port.set 0 {}) r → r = none := by
    intro r h
    obtain ⟨hsome, -⟩ := hall _ r h
    cases r with
    | none => rfl
    | some s => exact absurd (hsome.mp rfl) (by decide)
  refine ⟨hnone _ (hfile "dev.yml"), hnone _ (hvariable "APP_SERVER__PORT" rfl),
    hnone _ (hwritten {}), ?_⟩
  obtain ⟨hall, -, hvariable, -⟩ := exact_or_refused port 65535
  obtain ⟨hsome, hvalue, -⟩ := hall _ _ (hvariable "APP_SERVER__PORT" rfl)
  obtain ⟨s, hs⟩ := Option.isSome_iff_exists.mp (hsome.mpr (by decide))
  have hport : (s.server.port.toNat : Int) = 65535 := (hvalue s hs).1
  replace hs : (load none [("APP_SERVER__PORT", "65535")]).toOption = some s := hs
  rw [hs]
  exact congrArg some (Int.ofNat.inj hport)

end NumericSetting

end LoginService

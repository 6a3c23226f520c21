import Mathlib
import LoginService.Proofs.Settings.Extract
import LoginService.Proofs.Text.Utf8

/-!
# Which source a setting comes from

The value of a setting is what the last variable says that defines it, else what the file says, else
what is built in (`settled?`). A variable defines a setting if its name spells the section and the
key, in any letter case, or if it spells the section and holds a dictionary with the key.

All this is about sources that set whole sections to dictionaries only (`LayeredSources`). The trees
of such sources are merged setting by setting (`get?_merged`), so that the settings, or the error,
depend on what the sources hold at the nine paths alone (`load_congr`). Where what is merged can be
the value of a setting, it is no dictionary, and then it is the last tree that was laid over the
others (`settled?_of_merged`).
-/

namespace LoginService.Settings

/-! ## What a source says about a setting -/

/-- What a variable defines a setting as: by the name of the setting, or inside a dictionary for
its section. -/
def defined? (setting : String × String) (v : String × String) : Option Tree :=
  match variablePath? v.1 with
  | some [name, key] => if (name, key) = setting then some (Tree.ofVariable v.2) else none
  | some [name] => if name = setting.1 then (Tree.ofVariable v.2).get? [setting.2] else none
  | _ => none

/-- What a variable holds at the path of a setting, or below it. -/
def reached? (setting : String × String) (v : String × String) : Option Tree :=
  (ofVariable? v).bind (Tree.get? [setting.1, setting.2])

/-- The value of a setting: that of the last variable which defines it, else that of the file, else
the built-in one. -/
def settled? (file : Tree) (env : Environment) (setting : String × String) : Option SettingValue :=
  ((env.filterMap (defined? setting)).getLast?.or
    ((file.get? [setting.1, setting.2]).or
      ((toTree {}).get? [setting.1, setting.2]))).bind Tree.value?

/-- A file, read as a tree, and an environment that set whole sections to dictionaries only. -/
structure LayeredSources (file : Option File) (t : Tree) (env : Environment) : Prop where
  file_tree : fileTree? file = some t
  file_sections : SectionsAreDicts t
  variable_sections : ∀ u ∈ env.filterMap ofVariable?, SectionsAreDicts u

/-! ### Names -/

/-- The names of a setting and of its section, in lower case. -/
theorem variablePath?_settingKeys : ∀ p ∈ settingKeys,
    variablePath? ("app_" ++ p.1 ++ "__" ++ p.2) = some [p.1, p.2] ∧
      variablePath? ("app_" ++ p.1) = some [p.1] := by
  intro p hp
  simp only [settingKeys, List.mem_cons, List.not_mem_nil, or_false] at hp
  rcases hp with rfl | rfl | rfl | rfl | rfl | rfl | rfl | rfl | rfl <;> exact ⟨rfl, rfl⟩

theorem defined?_of_name {setting v : String × String} (hsetting : setting ∈ settingKeys)
    (h : Text.lower v.1 = "app_" ++ setting.1 ++ "__" ++ setting.2) :
    defined? setting v = some (Tree.ofVariable v.2) := by
  rw [defined?, ← variablePath?_lower, h, (variablePath?_settingKeys setting hsetting).1]
  exact if_pos rfl

theorem defined?_of_sectionName {setting v : String × String} (hsetting : setting ∈ settingKeys)
    (h : Text.lower v.1 = "app_" ++ setting.1) :
    defined? setting v = (Tree.ofVariable v.2).get? [setting.2] := by
  rw [defined?, ← variablePath?_lower, h, (variablePath?_settingKeys setting hsetting).2]
  exact if_pos rfl

/-! ### The tree of a variable -/

theorem get?_nested_cons (source : Source) (value : Tree) (name key : String)
    (path rest : List String) :
    (Tree.nested source value (name :: path)).get? (key :: rest)
      = if name = key then (Tree.nested source value path).get? rest else none := by
  rw [Tree.nested, Tree.get?]
  by_cases h : name = key
  · rw [if_pos h, h, Members.get?_cons_self, Option.bind_some]
  · rw [if_neg h, Members.get?_cons_ne (Ne.symm h), Members.get?_nil, Option.bind_none]

theorem reached?_of_defined? {setting v : String × String} {u : Tree}
    (h : defined? setting v = some u) : reached? setting v = some u := by
  unfold defined? at h
  rw [reached?, ofVariable?]
  split at h
  · next name key hpath =>
    obtain ⟨rfl, hu⟩ := Option.ite_none_right_eq_some.mp h
    rw [hpath, Option.map_some, Option.bind_some, get?_nested_cons, if_pos rfl, get?_nested_cons,
      if_pos rfl]
    exact hu
  · next name hpath =>
    obtain ⟨rfl, hu⟩ := Option.ite_none_right_eq_some.mp h
    rw [hpath, Option.map_some, Option.bind_some, get?_nested_cons, if_pos rfl]
    exact hu
  · cases h

/-- What a variable holds at the path of a setting is what it defines the setting as, if it can be
the value of a setting at all: a name that goes on below the setting makes it a dictionary. -/
theorem defined?_of_reached? {setting v : String × String} {u : Tree}
    (h : reached? setting v = some u) (hvalue : u.value? ≠ none) : defined? setting v = some u := by
  obtain ⟨name₀, key₀⟩ := setting
  obtain ⟨t, ht, hget⟩ := Option.bind_eq_some_iff.mp h
  obtain ⟨path, hpath, rfl⟩ := Option.map_eq_some_iff.mp ht
  unfold defined?
  rw [hpath]
  match path with
  | [] => exact absurd rfl (variablePath?_ne_nil hpath)
  | [name] =>
    rw [get?_nested_cons] at hget
    exact hget
  | [name, k] =>
    rw [get?_nested_cons] at hget
    obtain ⟨rfl, hinner⟩ := Option.ite_none_right_eq_some.mp hget
    rw [get?_nested_cons] at hinner
    obtain ⟨rfl, hu⟩ := Option.ite_none_right_eq_some.mp hinner
    dsimp only
    rw [if_pos rfl]
    exact hu
  | name :: k :: below :: path =>
    rw [get?_nested_cons] at hget
    obtain ⟨-, hinner⟩ := Option.ite_none_right_eq_some.mp hget
    rw [get?_nested_cons] at hinner
    obtain ⟨-, hu⟩ := Option.ite_none_right_eq_some.mp hinner
    cases hu
    exact absurd rfl hvalue

/-- Where no variable holds anything at the path of a setting, none defines it. -/
theorem filterMap_defined?_eq_nil {setting : String × String} {env : Environment}
    (h : env.filterMap (reached? setting) = []) : env.filterMap (defined? setting) = [] := by
  rw [List.filterMap_eq_nil_iff] at h ⊢
  intro v hv
  cases hdefined : defined? setting v with
  | none => rfl
  | some u =>
    have hnone := h v hv
    rw [reached?_of_defined? hdefined] at hnone
    cases hnone

/-- The last variable that holds anything at the path of a setting is the last that defines it, if
what it holds can be a value. -/
theorem getLast?_defined? {setting : String × String} {env : Environment} {u : Tree}
    (h : (env.filterMap (reached? setting)).getLast? = some u) (hvalue : u.value? ≠ none) :
    (env.filterMap (defined? setting)).getLast? = some u := by
  rw [List.getLast?_filterMap, List.findSome?_eq_some_iff] at h ⊢
  obtain ⟨later, v, earlier, henv, hv, hlater⟩ := h
  refine ⟨later, v, earlier, henv, defined?_of_reached? hv hvalue, ?_⟩
  intro w hw
  cases hdefined : defined? setting w with
  | none => rfl
  | some u' =>
    have hnone := hlater w hw
    rw [reached?_of_defined? hdefined] at hnone
    cases hnone

/-! ## Trees laid over each other -/

/-- What is seen of a value that can be a setting's and is laid over another. -/
theorem eq_of_overlay {below : Option Tree} {above u : Tree}
    (h : overlay below (some above) = some u) (hvalue : u.value? ≠ none) : above = u := by
  cases below with
  | none => exact Option.some.inj h
  | some below =>
    have hmerge : below.merge above = u := Option.some.inj h
    cases above with
    | scalar source s => exact hmerge
    | list source items => exact hmerge
    | dict source members =>
      -- a dictionary stays one, whatever it is laid over
      refine absurd ?_ hvalue
      rw [← hmerge]
      cases below <;> rfl

theorem exists_overlay (below : Tree) (above : Option Tree) :
    ∃ u, overlay (some below) above = some u := by
  cases above with
  | none => exact ⟨below, rfl⟩
  | some above => exact ⟨below.merge above, rfl⟩

theorem overlay_some_ne_none (below : Option Tree) (above : Tree) :
    overlay below (some above) ≠ none := by
  cases below <;> exact Option.some_ne_none _

/-- Trees laid over each other in turn. -/
def stack (below : Option Tree) (trees : List Tree) : Option Tree :=
  trees.foldl (fun below above => overlay below (some above)) below

theorem stack_append_singleton (below : Option Tree) (trees : List Tree) (above : Tree) :
    stack below (trees ++ [above]) = overlay (stack below trees) (some above) := by
  rw [stack, List.foldl_append]
  rfl

/-- Where a tree holds nothing, laying it over another changes nothing. -/
theorem foldl_overlay_map {α : Type} (f : α → Option Tree) (as : List α) (below : Option Tree) :
    (as.map f).foldl overlay below = stack below (as.filterMap f) := by
  induction as generalizing below with
  | nil => rfl
  | cons a as ih =>
    rw [List.map_cons, List.foldl_cons, ih]
    cases hf : f a with
    | none => rw [List.filterMap_cons_none hf, overlay_none]
    | some u =>
      rw [List.filterMap_cons_some hf]
      rfl

/-! ## All layers -/

/-- The built-in settings with the tree of a file and that of an environment laid over them. -/
def merged (t : Tree) (env : Environment) : Tree :=
  ((toTree {}).merge t).merge (environmentTree env)

theorem section_mem {setting : String × String} (h : setting ∈ settingKeys) :
    setting.1 ∈ sectionNames := by
  revert setting
  decide

theorem layer_empty (source : Source) : Layer sectionNames (.dict source []) :=
  (tidy_of_members List.Pairwise.nil nofun).layer nofun

namespace LayeredSources

variable {file file' : Option File} {t t' : Tree} {env env' : Environment}
variable {setting : String × String}

theorem layer_of_mem (h : LayeredSources file t env) :
    ∀ u ∈ env.filterMap ofVariable?, Layer sectionNames u := by
  intro u hu
  obtain ⟨v, -, hv⟩ := List.mem_filterMap.mp hu
  exact (tidy_of_variable hv).layer (h.variable_sections u hu)

theorem layer_environmentTree (h : LayeredSources file t env) :
    Layer sectionNames (environmentTree env) :=
  Layer.foldl_merge _ (layer_empty .environment) h.layer_of_mem

theorem layer_merged (h : LayeredSources file t env) : Layer sectionNames (merged t env) :=
  (layer_builtIn.merge ((tidy_of_file h.file_tree).layer h.file_sections)).merge
    h.layer_environmentTree

theorem get?_environmentTree (h : LayeredSources file t env) (hname : setting.1 ∈ sectionNames) :
    (environmentTree env).get? [setting.1, setting.2]
      = stack none (env.filterMap (reached? setting)) := by
  rw [environmentTree, (layer_empty .environment).get?_foldl_merge _ h.layer_of_mem hname,
    foldl_overlay_map, List.filterMap_filterMap]
  rfl

/-- **What the merged layers hold at the path of a setting.** -/
theorem get?_merged (h : LayeredSources file t env) (hname : setting.1 ∈ sectionNames) :
    (merged t env).get? [setting.1, setting.2]
      = overlay (overlay ((toTree {}).get? [setting.1, setting.2]) (t.get? [setting.1, setting.2]))
          (stack none (env.filterMap (reached? setting))) := by
  have hfile := (tidy_of_file h.file_tree).layer h.file_sections
  rw [merged, (layer_builtIn.merge hfile).get?_merge h.layer_environmentTree hname,
    layer_builtIn.get?_merge hfile hname, h.get?_environmentTree hname]

/-- The merged layers have all settings, because the built-in ones do. -/
theorem exists_values (h : LayeredSources file t env) :
    ∃ value : String → String → Tree,
      ∀ p ∈ settingKeys, (merged t env).get? [p.1, p.2] = some (value p.1 p.2) := by
  have : Nonempty Tree := ⟨t⟩
  have hbuiltIn : ∀ p ∈ settingKeys, ((toTree {}).get? [p.1, p.2]).isSome := by decide
  have hexists : ∀ p ∈ settingKeys, ∃ u, (merged t env).get? [p.1, p.2] = some u := by
    intro p hp
    obtain ⟨d, hd⟩ := Option.isSome_iff_exists.mp (hbuiltIn p hp)
    obtain ⟨f, hf⟩ := exists_overlay d (t.get? [p.1, p.2])
    rw [h.get?_merged (section_mem hp), hd, hf]
    exact exists_overlay f _
  choose! value hvalue using hexists
  exact ⟨fun name key => value (name, key), hvalue⟩

/-- What is loaded is read from the trees that the merged layers hold at the paths of the
settings. -/
theorem load_eq_ofTrees (h : LayeredSources file t env) {value : String → String → Tree}
    (hvalue : ∀ p ∈ settingKeys, (merged t env).get? [p.1, p.2] = some (value p.1 p.2)) :
    load file env = (ofTrees value).mapError .refused := by
  rw [load, layers?, h.file_tree, ← ofTree_eq h.layer_merged hvalue]
  rfl

/-- What sources hold elsewhere than at the paths of the settings has no effect. -/
theorem load_congr (h : LayeredSources file t env) (h' : LayeredSources file' t' env')
    (hfile : ∀ p ∈ settingKeys, t'.get? [p.1, p.2] = t.get? [p.1, p.2])
    (henv : ∀ p ∈ settingKeys, env'.filterMap (reached? p) = env.filterMap (reached? p)) :
    load file' env' = load file env := by
  obtain ⟨value, hvalue⟩ := h.exists_values
  have hvalue' : ∀ p ∈ settingKeys,
      (merged t' env').get? [p.1, p.2] = some (value p.1 p.2) := by
    intro p hp
    rw [h'.get?_merged (section_mem hp), hfile p hp, henv p hp, ← h.get?_merged (section_mem hp)]
    exact hvalue p hp
  rw [h.load_eq_ofTrees hvalue, h'.load_eq_ofTrees hvalue']

/-- The order of the variables has no effect, as long as it stays the same among those that have to
do with one setting. -/
theorem load_perm (h : LayeredSources file t env) (hperm : env'.Perm env)
    (horder : ∀ p ∈ settingKeys, env'.filter (fun v => (reached? p v).isSome)
      = env.filter (fun v => (reached? p v).isSome)) :
    load file env' = load file env := by
  have h' : LayeredSources file t env' := by
    refine ⟨h.file_tree, h.file_sections, ?_⟩
    intro u hu
    exact h.variable_sections u ((hperm.filterMap ofVariable?).mem_iff.mp hu)
  refine h.load_congr h' (fun _ _ => rfl) ?_
  intro p hp
  have hfilter : ∀ e : Environment, e.filterMap (reached? p)
      = (e.filter fun v => (reached? p v).isSome).filterMap (reached? p) := by
    intro e
    rw [List.filterMap_filter]
    congr 1
    funext v
    cases reached? p v <;> rfl
  rw [hfilter, horder p hp, ← hfilter]

/-- **A value that is read where the layers are merged is that of the last source which defines
it.** -/
theorem settled?_of_merged (h : LayeredSources file t env) (hsetting : setting ∈ settingKeys)
    {u : Tree} {value : SettingValue} (hget : (merged t env).get? [setting.1, setting.2] = some u)
    (hvalue : u.value? = some value) : settled? t env setting = some value := by
  have hsome : u.value? ≠ none := by
    rw [hvalue]
    exact Option.some_ne_none value
  rw [h.get?_merged (section_mem hsetting)] at hget
  unfold settled?
  cases hlast : (env.filterMap (reached? setting)).getLast? with
  | some w =>
    obtain ⟨earlier, hreached⟩ := List.getLast?_eq_some_iff.mp hlast
    rw [hreached, stack_append_singleton] at hget
    have hw : w = u := by
      cases hstack : overlay (stack none earlier) (some w) with
      | none => exact absurd hstack (overlay_some_ne_none _ w)
      | some x =>
        rw [hstack] at hget
        have hx : x = u := eq_of_overlay hget hsome
        rw [hx] at hstack
        exact eq_of_overlay hstack hsome
    rw [getLast?_defined? hlast (hw ▸ hsome), hw]
    exact hvalue
  | none =>
    have hnil := List.getLast?_eq_none_iff.mp hlast
    rw [hnil, stack, List.foldl_nil, overlay_none] at hget
    rw [filterMap_defined?_eq_nil hnil, List.getLast?_nil, Option.none_or]
    cases hfile : t.get? [setting.1, setting.2] with
    | none =>
      rw [hfile, overlay_none] at hget
      rw [hget]
      exact hvalue
    | some f =>
      rw [hfile] at hget
      rw [eq_of_overlay hget hsome]
      exact hvalue

theorem settled?_of_load (h : LayeredSources file t env) {s : Settings}
    (hload : load file env = .ok s) : ∀ x ∈ s.values, settled? t env x.1 = some x.2 := by
  intro x hx
  obtain ⟨value, hvalue⟩ := h.exists_values
  rw [h.load_eq_ofTrees hvalue] at hload
  have hsetting : x.1 ∈ settingKeys := by
    rw [← map_fst_values s]
    exact List.mem_map_of_mem hx
  exact h.settled?_of_merged hsetting (hvalue x.1 hsetting)
    (values_of_ofTrees (mapError_eq_ok hload) x hx)

end LayeredSources

/-! ## Loading -/

/-- **Where loaded settings come from.** Let the file and the variables set whole sections to
dictionaries only. Each setting that is loaded has the value of the last variable which defines it,
else that of the file, else the built-in one. The name of a setting, or of its section, defines it
in any letter case. What the file and the variables hold elsewhere has no effect, and neither has
the order of the variables, but for those that have to do with one setting. -/
theorem load_layered {file : Option File} {t : Tree} {env : Environment}
    (h : LayeredSources file t env) :
    (∀ s, load file env = .ok s → ∀ x ∈ s.values, settled? t env x.1 = some x.2) ∧
    (∀ p ∈ settingKeys, ∀ v : String × String,
      (Text.lower v.1 = "app_" ++ p.1 ++ "__" ++ p.2 → defined? p v = some (Tree.ofVariable v.2)) ∧
      (Text.lower v.1 = "app_" ++ p.1 → defined? p v = (Tree.ofVariable v.2).get? [p.2])) ∧
    (∀ file' t' env', LayeredSources file' t' env' →
      (∀ p ∈ settingKeys, t'.get? [p.1, p.2] = t.get? [p.1, p.2]) →
      (∀ p ∈ settingKeys, env'.filterMap (reached? p) = env.filterMap (reached? p)) →
      load file' env' = load file env) ∧
    (∀ env', env'.Perm env →
      (∀ p ∈ settingKeys, env'.filter (fun v => (reached? p v).isSome)
        = env.filter (fun v => (reached? p v).isSome)) →
      load file env' = load file env) := by
  refine ⟨?_, ?_, ?_, ?_⟩
  · intro s hload
    exact h.settled?_of_load hload
  · intro p hp v
    exact ⟨defined?_of_name hp, defined?_of_sectionName hp⟩
  · intro file' t' env' h' hfile henv
    exact h.load_congr h' hfile henv
  · intro env' hperm horder
    exact h.load_perm hperm horder

/-- A file with two settings and a key that is none. -/
def exampleFile : File where
  name := "dev.yml"
  bytes := Text.Utf8.encode
    "server: \x7bport: 9000, host: \"127.0.0.1\"\x7d\ncolor: true\n".toList

/-- What the file sets. -/
def exampleTree : Tree :=
  .dict (.file "dev.yml") [
    ("color", .scalar (.file "dev.yml") (.bool true)),
    ("server", .dict (.file "dev.yml") [
      ("host", .scalar (.file "dev.yml") (.text "127.0.0.1")),
      ("port", .scalar (.file "dev.yml") (.unsigned 9000))])]

/-- Variables of which two define the port, one of them inside a dictionary, and one defines
nothing. -/
def exampleVariables : Environment := [
  ("APP_SERVER__PORT", "9100"),
  ("App_Auth__Reject_With_Unauthorized", "true"),
  ("app_server", "\x7bport = 9200, shutdown_timeout_secs = 3\x7d"),
  ("APP_SERVER__COLOR", "blue")]

theorem fileTree?_exampleFile : fileTree? (some exampleFile) = some exampleTree := by
  have hdecode : Text.Utf8.decode exampleFile.bytes
      = .ok "server: \x7bport: 9000, host: \"127.0.0.1\"\x7d\ncolor: true\n".toList :=
    Text.Utf8.decode_encode _
  have hparse : Yaml.Document.parse?
      "server: \x7bport: 9000, host: \"127.0.0.1\"\x7d\ncolor: true\n".toList
      = some ⟨some (.mapping none [
          (.scalar none true "server", .mapping none [
            (.scalar none true "port", .scalar none true "9000"),
            (.scalar none true "host", .scalar none false "127.0.0.1")]),
          (.scalar none true "color", .scalar none true "true")]), []⟩ := by
    cbv
  rw [fileTree?, fileMembers?, hdecode]
  simp only [Except.toOption, Option.bind_eq_bind, Option.bind_some, hparse]
  rfl

theorem ofVariable?_example :
    ofVariable? ("APP_SERVER__PORT", "9100")
      = some (.nested .environment (.scalar .environment (.unsigned 9100)) ["server", "port"]) ∧
    ofVariable? ("App_Auth__Reject_With_Unauthorized", "true")
      = some (.nested .environment (.scalar .environment (.bool true))
          ["auth", "reject_with_unauthorized"]) ∧
    ofVariable? ("app_server", "\x7bport = 9200, shutdown_timeout_secs = 3\x7d")
      = some (.dict .environment [("server", .dict .environment [
          ("port", .scalar .environment (.unsigned 9200)),
          ("shutdown_timeout_secs", .scalar .environment (.unsigned 3))])]) ∧
    ofVariable? ("APP_SERVER__COLOR", "blue")
      = some (.nested .environment (.scalar .environment (.text "blue")) ["server", "color"]) := by
  refine ⟨?_, ?_, ?_, ?_⟩ <;> cbv

theorem filterMap_exampleVariables : exampleVariables.filterMap ofVariable? = [
    .nested .environment (.scalar .environment (.unsigned 9100)) ["server", "port"],
    .nested .environment (.scalar .environment (.bool true)) ["auth", "reject_with_unauthorized"],
    .dict .environment [("server", .dict .environment [
      ("port", .scalar .environment (.unsigned 9200)),
      ("shutdown_timeout_secs", .scalar .environment (.unsigned 3))])],
    .nested .environment (.scalar .environment (.text "blue")) ["server", "color"]] := by
  obtain ⟨hport, hauth, hserver, hcolor⟩ := ofVariable?_example
  simp only [exampleVariables, List.filterMap, hport, hauth, hserver, hcolor]

theorem layeredSources_example :
    LayeredSources (some exampleFile) exampleTree exampleVariables where
  file_tree := fileTree?_exampleFile
  file_sections := by decide
  variable_sections := by
    rw [filterMap_exampleVariables]
    decide

/-- What is loaded. -/
def exampleSettings : Settings where
  server := ⟨"127.0.0.1", 9200, 3⟩
  auth := ⟨true⟩

theorem load_example : load (some exampleFile) exampleVariables = .ok exampleSettings := by
  rw [load, layers?, fileTree?_exampleFile, environmentTree, filterMap_exampleVariables]
  rfl

/-- The variables in another order; of the two that define the port, the same one comes last. -/
def reorderedVariables : Environment := [
  ("APP_SERVER__COLOR", "blue"),
  ("APP_SERVER__PORT", "9100"),
  ("app_server", "\x7bport = 9200, shutdown_timeout_secs = 3\x7d"),
  ("App_Auth__Reject_With_Unauthorized", "true")]

theorem filter_reorderedVariables : ∀ p ∈ settingKeys,
    reorderedVariables.filter (fun v => (reached? p v).isSome)
      = exampleVariables.filter (fun v => (reached? p v).isSome) := by
  obtain ⟨hport, hauth, hserver, hcolor⟩ := ofVariable?_example
  simp only [reorderedVariables, exampleVariables, List.filter, reached?, hport, hauth, hserver,
    hcolor]
  decide

theorem layeredSources_withoutColor :
    LayeredSources (some exampleFile) exampleTree (exampleVariables.take 3) where
  file_tree := fileTree?_exampleFile
  file_sections := by decide
  variable_sections := by
    intro u hu
    refine layeredSources_example.variable_sections u ?_
    exact ((List.take_sublist 3 _).filterMap ofVariable?).subset hu

theorem filterMap_withoutColor : ∀ p ∈ settingKeys,
    (exampleVariables.take 3).filterMap (reached? p) = exampleVariables.filterMap (reached? p) := by
  obtain ⟨-, -, -, hcolor⟩ := ofVariable?_example
  intro p hp
  have hnone : reached? p ("APP_SERVER__COLOR", "blue") = none := by
    rw [reached?, hcolor]
    simp only [settingKeys, List.mem_cons, List.not_mem_nil, or_false] at hp
    rcases hp with rfl | rfl | rfl | rfl | rfl | rfl | rfl | rfl | rfl <;> rfl
  simp only [exampleVariables, List.take, List.filterMap, hnone]

/-- The port is that of the later variable, the host that of the file, and the number of connections
the built-in one. Neither leaving out the variable that defines nothing nor the other order changes
what is loaded. -/
theorem load_layered_example :
    LayeredSources (some exampleFile) exampleTree exampleVariables ∧
      load (some exampleFile) exampleVariables = .ok exampleSettings ∧
      settled? exampleTree exampleVariables ("server", "port") = some (.number 9200) ∧
      settled? exampleTree exampleVariables ("server", "host") = some (.text "127.0.0.1") ∧
      settled? exampleTree exampleVariables ("database", "max_connections") = some (.number 10) ∧
      defined? ("auth", "reject_with_unauthorized") ("App_Auth__Reject_With_Unauthorized", "true")
        = some (Tree.ofVariable "true") ∧
      load (some exampleFile) (exampleVariables.take 3) = .ok exampleSettings ∧
      load (some exampleFile) reorderedVariables = .ok exampleSettings := by
  obtain ⟨hvalues, hnames, helsewhere, horder⟩ := load_layered layeredSources_example
  have hsettled := hvalues exampleSettings load_example
  refine ⟨layeredSources_example, load_example, ?_, ?_, ?_, ?_, ?_, ?_⟩
  · exact hsettled (("server", "port"), .number 9200) (by decide)
  · exact hsettled (("server", "host"), .text "127.0.0.1") (by decide)
  · exact hsettled (("database", "max_connections"), .number 10) (by decide)
  · exact (hnames ("auth", "reject_with_unauthorized") (by decide)
      ("App_Auth__Reject_With_Unauthorized", "true")).1 rfl
  · rw [helsewhere _ _ _ layeredSources_withoutColor (fun _ _ => rfl) filterMap_withoutColor]
    exact load_example
  · rw [horder _ (by decide) filter_reorderedVariables]
    exact load_example

end LoginService.Settings

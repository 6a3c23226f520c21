import LoginService.Proofs.Settings.Layers

/-!
# The place of one setting

Whatever the sources hold elsewhere, a setting is at a place of its own in the merged tree. A tree
that is laid over another leaves this place alone unless it sets the setting, something inside it,
or its whole section to something else than a dictionary (`Tree.Spares`); and a scalar that it has
there is what is seen there. So one more variable, which sets a setting that is there already,
changes nothing else (`agreeBut_override`).
-/

namespace LoginService.Settings

/-! ## Tidy trees over each other -/

theorem keysOrdered_merge {below above : Tree} (hbelow : below.KeysOrdered)
    (habove : above.KeysOrdered) : (below.merge above).KeysOrdered := by
  cases above with
  | scalar source s => exact keysOrdered_scalar source s
  | list source items => exact keysOrdered_list source items
  | dict source members =>
    cases below with
    | dict source' old =>
      exact keysOrdered_dict (ordered_mergeMembers (hbelow source' old rfl) members)
    | scalar source' s => exact habove
    | list source' items => exact habove

namespace Tidy

variable {below above : Tree}

theorem merge (hbelow : Tidy below) (habove : Tidy above) : Tidy (below.merge above) where
  root := isDict_merge hbelow.root habove.root
  values key u hu := by
    rw [get?_one_merge hbelow.root habove.root] at hu
    cases ha : above.get? [key] with
    | none =>
      rw [ha, overlay_none] at hu
      exact hbelow.values key u hu
    | some a =>
      have haordered := habove.values key a ha
      rw [ha] at hu
      cases hb : below.get? [key] with
      | none =>
        rw [hb] at hu
        cases hu
        exact haordered
      | some b =>
        rw [hb] at hu
        cases hu
        exact keysOrdered_merge (hbelow.values key b hb) haordered

theorem foldl_merge (trees : List Tree) (hbelow : Tidy below) (htrees : ∀ t ∈ trees, Tidy t) :
    Tidy (trees.foldl Tree.merge below) := by
  induction trees generalizing below with
  | nil => exact hbelow
  | cons t trees ih =>
    exact ih (hbelow.merge (htrees t List.mem_cons_self))
      fun u hu => htrees u (List.mem_cons_of_mem t hu)

/-- What is at a key of a value of a tidy tree is there because the value is a dictionary. -/
theorem isDict_of_get? {t w u : Tree} (h : Tidy t) {name key : String} (hw : t.get? [name] = some w)
    (hu : w.get? [key] = some u) : w.IsDict := by
  cases w with
  | dict source members => exact ⟨source, members, rfl, h.values name _ hw source members rfl⟩
  | scalar source s => cases hu
  | list source items => cases hu

end Tidy

/-! ## Trees that leave a setting alone -/

/-- A tree sets neither a setting nor anything inside it, nor its section to anything else than a
dictionary. -/
def Tree.Spares (setting : String × String) (t : Tree) : Prop :=
  ∀ w, t.get? [setting.1] = some w →
    (∃ source members, w = .dict source members) ∧ w.get? [setting.2] = none

instance (setting : String × String) (t : Tree) : Decidable (t.Spares setting) :=
  decidable_of_iff (∀ w ∈ t.get? [setting.1],
      (∃ source members, w = .dict source members) ∧ (w.get? [setting.2]).isNone = true) <| by
    simp only [Tree.Spares, Option.mem_def, Option.isNone_iff_eq_none]

section
variable {below above : Tree} {setting : String × String}

/-- A tree that is no dictionary holds nothing. -/
theorem get?_cons_of_not_dict {t : Tree} (h : ¬ ∃ source members, t = .dict source members)
    (key : String) (path : List String) : t.get? (key :: path) = none := by
  cases t with
  | dict source members => exact absurd ⟨source, members, rfl⟩ h
  | scalar source s => rfl
  | list source items => rfl

theorem merge_of_not_dict {t : Tree} (h : ¬ ∃ source members, t = .dict source members)
    (above : Tree) : t.merge above = above := by
  cases above with
  | scalar source s => rfl
  | list source items => rfl
  | dict source members =>
    cases t with
    | dict source' old => exact absurd ⟨source', old, rfl⟩ h
    | scalar source' s => rfl
    | list source' items => rfl

/-- What a value holds that is laid over another one, if it is a dictionary. -/
theorem get?_merge_dict {b w : Tree} (hb : b.KeysOrdered) (hw : w.IsDict) (key : String) :
    (b.merge w).get? [key] = overlay (b.get? [key]) (w.get? [key]) := by
  by_cases h : ∃ source members, b = .dict source members
  · obtain ⟨source, members, rfl⟩ := h
    exact get?_one_merge ⟨source, members, rfl, hb source members rfl⟩ hw key
  · rw [merge_of_not_dict h, get?_cons_of_not_dict h]
    cases w.get? [key] <;> rfl

theorem get?_two_merge_of_isDict (hbelow : Tidy below) (habove : Tidy above) {w : Tree}
    (hw : above.get? [setting.1] = some w) (hdict : w.IsDict) :
    (below.merge above).get? [setting.1, setting.2]
      = overlay (below.get? [setting.1, setting.2]) (w.get? [setting.2]) := by
  rw [get?_two, get?_two, get?_one_merge hbelow.root habove.root, hw]
  cases hb : below.get? [setting.1] with
  | none =>
    show w.get? [setting.2] = overlay none (w.get? [setting.2])
    cases w.get? [setting.2] <;> rfl
  | some b => exact get?_merge_dict (hbelow.values _ b hb) hdict setting.2

/-- What is laid over a setting and leaves it alone does not change it. -/
theorem get?_merge_of_spares (hbelow : Tidy below) (habove : Tidy above)
    (h : above.Spares setting) : (below.merge above).get? [setting.1, setting.2]
      = below.get? [setting.1, setting.2] := by
  cases hw : above.get? [setting.1] with
  | none =>
    rw [get?_two, get?_two, get?_one_merge hbelow.root habove.root, hw, overlay_none]
  | some w =>
    obtain ⟨⟨source, members, rfl⟩, hnone⟩ := h w hw
    have hdict : (Tree.dict source members).IsDict :=
      ⟨source, members, rfl, habove.values _ _ hw source members rfl⟩
    rw [get?_two_merge_of_isDict hbelow habove hw hdict, hnone, overlay_none]

/-- A scalar that is laid over a setting is what is seen of it. -/
theorem get?_merge_of_scalar (hbelow : Tidy below) (habove : Tidy above) {source : Source}
    {s : Scalar} (h : above.get? [setting.1, setting.2] = some (.scalar source s)) :
    (below.merge above).get? [setting.1, setting.2] = some (.scalar source s) := by
  rw [get?_two] at h
  obtain ⟨w, hw, hs⟩ := Option.bind_eq_some_iff.mp h
  rw [get?_two_merge_of_isDict hbelow habove hw (habove.isDict_of_get? hw hs), hs]
  cases below.get? [setting.1, setting.2] <;> rfl

theorem spares_merge (hbelow : Tidy below) (habove : Tidy above) (hb : below.Spares setting)
    (ha : above.Spares setting) : (below.merge above).Spares setting := by
  intro w hw
  have hget := get?_merge_of_spares hbelow habove ha
  rw [get?_two, hw, get?_two] at hget
  rw [get?_one_merge hbelow.root habove.root] at hw
  cases hbw : below.get? [setting.1] with
  | none =>
    rw [hbw] at hw hget
    cases haw : above.get? [setting.1] with
    | none =>
      rw [haw] at hw
      cases hw
    | some a =>
      rw [haw] at hw
      cases hw
      exact ha w haw
  | some b =>
    obtain ⟨⟨source, members, rfl⟩, hnone⟩ := hb b hbw
    rw [hbw] at hw hget
    refine ⟨?_, hget.trans hnone⟩
    cases haw : above.get? [setting.1] with
    | none =>
      rw [haw] at hw
      cases hw
      exact ⟨source, members, rfl⟩
    | some a =>
      obtain ⟨⟨source', members', rfl⟩, -⟩ := ha a haw
      rw [haw] at hw
      cases hw
      exact ⟨source', _, rfl⟩

end

/-! ## Variables that leave a setting alone -/

/-- What a variable sets leaves a setting alone. -/
def Spared (setting v : String × String) : Prop := ∀ u ∈ ofVariable? v, u.Spares setting

theorem tidy_environmentTree (env : Environment) : Tidy (environmentTree env) := by
  refine Tidy.foldl_merge _ (tidy_of_members List.Pairwise.nil nofun) ?_
  intro u hu
  obtain ⟨v, -, hv⟩ := List.mem_filterMap.mp hu
  exact tidy_of_variable hv

theorem environmentTree_append (env env' : Environment) : environmentTree (env ++ env')
    = (env'.filterMap ofVariable?).foldl Tree.merge (environmentTree env) := by
  rw [environmentTree, List.filterMap_append, List.foldl_append, environmentTree]

section
variable {setting : String × String} {env : Environment}

theorem spares_environmentTree (h : ∀ v ∈ env, Spared setting v) :
    (environmentTree env).Spares setting := by
  induction env using List.reverseRecOn with
  | nil => exact nofun
  | append_singleton env v ih =>
    have henv := ih fun w hw => h w (List.mem_append_left _ hw)
    have hv := h v (List.mem_append_right _ List.mem_cons_self)
    rw [environmentTree_append]
    cases hu : ofVariable? v with
    | none =>
      rw [List.filterMap_cons_none hu]
      exact henv
    | some u =>
      rw [List.filterMap_cons_some hu]
      exact spares_merge (tidy_environmentTree env) (tidy_of_variable hu) henv (hv u hu)

/-- Variables that leave a setting alone do not change what those before them make of it. -/
theorem get?_environmentTree_append {later : Environment} (h : ∀ v ∈ later, Spared setting v) :
    (environmentTree (env ++ later)).get? [setting.1, setting.2]
      = (environmentTree env).get? [setting.1, setting.2] := by
  induction later using List.reverseRecOn with
  | nil => rw [List.append_nil]
  | append_singleton later v ih =>
    rw [← ih fun w hw => h w (List.mem_append_left _ hw), ← List.append_assoc,
      environmentTree_append]
    have hv := h v (List.mem_append_right _ List.mem_cons_self)
    cases hu : ofVariable? v with
    | none =>
      rw [List.filterMap_cons_none hu]
      rfl
    | some u =>
      rw [List.filterMap_cons_some hu]
      exact get?_merge_of_spares (tidy_environmentTree _) (tidy_of_variable hu) (hv u hu)

/-- What the last variable sets that does not leave a setting alone, if it is a scalar. -/
theorem get?_environmentTree_of_variable {earlier later : Environment} {v : String × String}
    {source : Source} {s : Scalar} (hv : reached? setting v = some (.scalar source s))
    (hlater : ∀ w ∈ later, Spared setting w) :
    (environmentTree (earlier ++ v :: later)).get? [setting.1, setting.2]
      = some (.scalar source s) := by
  obtain ⟨u, hu, hget⟩ := Option.bind_eq_some_iff.mp hv
  rw [List.append_cons, get?_environmentTree_append hlater, environmentTree_append,
    List.filterMap_cons_some hu]
  exact get?_merge_of_scalar (tidy_environmentTree earlier) (tidy_of_variable hu) hget

end

/-! ## One more variable -/

/-- Two trees that hold the same but for one setting, which both have. -/
structure AgreeBut (setting : String × String) (t t' : Tree) : Prop where
  root : t.IsDict
  root' : t'.IsDict
  elsewhere : ∀ name, name ≠ setting.1 → t'.get? [name] = t.get? [name]
  inside : ∃ w w', t.get? [setting.1] = some w ∧ t'.get? [setting.1] = some w' ∧ w.IsDict ∧
    w'.IsDict ∧ ∀ key, key ≠ setting.2 → w'.get? [key] = w.get? [key]

/-- What one path sets. -/
theorem get?_nested_two {setting : String × String} (source : Source) (value : Tree)
    (name : String) : (Tree.nested source value [setting.1, setting.2]).get? [name]
      = if setting.1 = name then some (.dict source [(setting.2, value)]) else none :=
  get?_nested_cons source value setting.1 name [setting.2] []

theorem isDict_singleton (source : Source) (key : String) (value : Tree) :
    (Tree.dict source [(key, value)]).IsDict :=
  ⟨source, _, rfl, List.pairwise_singleton _ _⟩

theorem get?_singleton_ne {source : Source} {key k : String} {value : Tree} (h : k ≠ key) :
    (Tree.dict source [(key, value)]).get? [k] = none := by
  rw [Tree.get?, Members.get?_cons_ne h, Members.get?_nil, Option.bind_none]

theorem isDict_merge_of_isDict {b w : Tree} (hb : b.KeysOrdered) (hw : w.IsDict) :
    (b.merge w).IsDict := by
  by_cases h : ∃ source members, b = .dict source members
  · obtain ⟨source, members, rfl⟩ := h
    exact isDict_merge ⟨source, members, rfl, hb source members rfl⟩ hw
  · rw [merge_of_not_dict h]
    exact hw

/-- A dictionary that is laid over the upper one of two values, of which a dictionary is made, adds
its members and changes nothing else. -/
theorem overlay_added {below above : Option Tree} {w added : Tree} {key : String}
    (hbelow : ∀ u, below = some u → u.KeysOrdered) (habove : ∀ u, above = some u → u.KeysOrdered)
    (hadded : added.IsDict) (hnone : ∀ k, k ≠ key → added.get? [k] = none)
    (h : overlay below above = some w) (hw : w.IsDict) :
    ∃ w', overlay below (overlay above (some added)) = some w' ∧ w'.IsDict ∧
      ∀ k, k ≠ key → w'.get? [k] = w.get? [k] := by
  cases above with
  | none =>
    rw [overlay_none] at h
    subst h
    refine ⟨w.merge added, rfl, isDict_merge hw hadded, ?_⟩
    intro k hk
    rw [get?_one_merge hw hadded, hnone k hk, overlay_none]
  | some e =>
    have he := habove e rfl
    cases below with
    | none =>
      cases h
      refine ⟨w.merge added, rfl, isDict_merge hw hadded, ?_⟩
      intro k hk
      rw [get?_one_merge hw hadded, hnone k hk, overlay_none]
    | some d =>
      have hd := hbelow d rfl
      have hmerged : d.merge e = w := Option.some.inj h
      have hedict : e.IsDict := by
        cases e with
        | dict source members => exact ⟨source, members, rfl, he source members rfl⟩
        | scalar source s => exact (show Tree.scalar source s = w from hmerged) ▸ hw
        | list source items => exact (show Tree.list source items = w from hmerged) ▸ hw
      have hlaid := isDict_merge hedict hadded
      refine ⟨d.merge (e.merge added), rfl, isDict_merge_of_isDict hd hlaid, ?_⟩
      intro k hk
      rw [← hmerged, get?_merge_dict hd hlaid, get?_one_merge hedict hadded, hnone k hk,
        overlay_none, get?_merge_dict hd hedict]

/-- **A setting that is laid over the upper one of two trees changes nothing else** of what the two
make, if these have the setting already. -/
theorem agreeBut_nested {below above : Tree} {setting : String × String} {source : Source}
    {x y : Tree} (hbelow : Tidy below) (habove : Tidy above) (hy : y.KeysOrdered)
    (hx : (below.merge above).get? [setting.1, setting.2] = some x) :
    AgreeBut setting (below.merge above)
      (below.merge (above.merge (.nested source y [setting.1, setting.2]))) := by
  have hnested : Tidy (.nested source y [setting.1, setting.2]) := by
    refine tidy_of_members (List.pairwise_singleton _ _) ?_
    intro key u hu
    have hmem := Members.mem_of_get? hu
    rw [List.mem_singleton] at hmem
    cases hmem
    exact keysOrdered_nested hy source [setting.2]
  have hlaid := habove.merge hnested
  have hmerged := hbelow.merge habove
  refine ⟨hmerged.root, (hbelow.merge hlaid).root, ?_, ?_⟩
  · intro name hname
    rw [get?_one_merge hbelow.root hlaid.root, get?_one_merge habove.root hnested.root,
      get?_nested_two, if_neg (Ne.symm hname), overlay_none,
      get?_one_merge hbelow.root habove.root]
  · rw [get?_two] at hx
    obtain ⟨w, hw, hwx⟩ := Option.bind_eq_some_iff.mp hx
    have hdict := hmerged.isDict_of_get? hw hwx
    have hoverlay := hw
    rw [get?_one_merge hbelow.root habove.root] at hoverlay
    obtain ⟨w', hw', hdict', hkeys⟩ := overlay_added (hbelow.values _) (habove.values _)
      (isDict_singleton source setting.2 y) (fun k hk => get?_singleton_ne hk) hoverlay hdict
    refine ⟨w, w', hw, ?_, hdict, hdict', hkeys⟩
    rw [get?_one_merge hbelow.root hlaid.root, get?_one_merge habove.root hnested.root,
      get?_nested_two, if_pos rfl]
    exact hw'

/-! ## The merged tree -/

section
variable {file : Option File} {t : Tree} {env : Environment} {setting v : String × String}

theorem load_of_fileTree (ht : fileTree? file = some t) (env : Environment) :
    load file env = (ofTree (merged t env)).mapError .refused := by
  rw [load, layers?, ht]
  rfl

theorem ofVariable?_of_path (hpath : variablePath? v.1 = some [setting.1, setting.2]) :
    ofVariable? v = some (.nested .environment (Tree.ofVariable v.2) [setting.1, setting.2]) := by
  rw [ofVariable?, hpath]
  rfl

theorem reached?_of_path (hpath : variablePath? v.1 = some [setting.1, setting.2]) :
    reached? setting v = some (Tree.ofVariable v.2) := by
  rw [reached?, ofVariable?_of_path hpath, Option.bind_some, get?_nested_cons, if_pos rfl,
    get?_nested_cons, if_pos rfl]
  rfl

/-- What one more variable sets is laid over what the others set. -/
theorem environmentTree_concat (hpath : variablePath? v.1 = some [setting.1, setting.2])
    (env : Environment) : environmentTree (env ++ [v]) = (environmentTree env).merge
      (.nested .environment (Tree.ofVariable v.2) [setting.1, setting.2]) := by
  rw [environmentTree_append, List.filterMap_cons_some (ofVariable?_of_path hpath)]
  rfl

/-- One more variable that sets a setting which is there already changes nothing else. -/
theorem agreeBut_override {x : Tree} (ht : fileTree? file = some t)
    (hpath : variablePath? v.1 = some [setting.1, setting.2])
    (hx : (merged t env).get? [setting.1, setting.2] = some x) :
    AgreeBut setting (merged t env) (merged t (env ++ [v])) := by
  rw [merged, merged, environmentTree_concat hpath]
  exact agreeBut_nested (tidy_builtIn.merge (tidy_of_file ht)) (tidy_environmentTree env)
    (keysOrdered_ofVariable v.2) hx

/-- A setting that the file gives and the variables leave alone. -/
theorem get?_merged_of_file {source : Source} {s : Scalar} (ht : fileTree? file = some t)
    (hget : t.get? [setting.1, setting.2] = some (.scalar source s))
    (henv : ∀ v ∈ env, Spared setting v) :
    (merged t env).get? [setting.1, setting.2] = some (.scalar source s) := by
  have hfile := tidy_of_file ht
  rw [merged, get?_merge_of_spares (tidy_builtIn.merge hfile) (tidy_environmentTree env)
    (spares_environmentTree henv)]
  exact get?_merge_of_scalar tidy_builtIn hfile hget

/-- A setting that a variable gives and the later ones leave alone. -/
theorem get?_merged_of_variable {earlier later : Environment} {source : Source} {s : Scalar}
    (ht : fileTree? file = some t) (hv : reached? setting v = some (.scalar source s))
    (hlater : ∀ w ∈ later, Spared setting w) :
    (merged t (earlier ++ v :: later)).get? [setting.1, setting.2] = some (.scalar source s) :=
  get?_merge_of_scalar (tidy_builtIn.merge (tidy_of_file ht)) (tidy_environmentTree _)
    (get?_environmentTree_of_variable hv hlater)

end

end LoginService.Settings

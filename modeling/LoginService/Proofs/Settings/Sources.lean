import LoginService.Proofs.Settings.Tree
import LoginService.Proofs.Text.Ascii
import LoginService.Settings.Load

/-!
# The trees that sources give

Every dictionary that a file or a variable gives has its keys in order, because it is built by
inserting one member after another: what a source sets is `Tidy`. So a source that sets whole
sections to dictionaries only is a `Layer`. The name of a variable counts up to letter case.
-/

namespace LoginService.Settings

open Text Yaml

/-! ## Sections -/

/-- The names of the sections. -/
def sectionNames : List String := ["app", "server", "database", "auth"]

/-- Whatever a tree sets a whole section to is a dictionary. -/
def SectionsAreDicts (t : Tree) : Prop :=
  ∀ name ∈ sectionNames, ∀ u, t.get? [name] = some u → ∃ source members, u = .dict source members

instance (u : Tree) : Decidable (∃ source members, u = .dict source members) :=
  match u with
  | .dict source members => isTrue ⟨source, members, rfl⟩
  | .scalar .. | .list .. => isFalse nofun

instance (t : Tree) : Decidable (SectionsAreDicts t) :=
  inferInstanceAs (Decidable (∀ name ∈ sectionNames, ∀ u ∈ t.get? [name],
    ∃ source members, u = .dict source members))

/-- A tree has its keys in order if it is a dictionary. -/
def Tree.KeysOrdered (t : Tree) : Prop :=
  ∀ source members, t = .dict source members → Members.Ordered members

theorem keysOrdered_scalar (source : Source) (s : Scalar) : (Tree.scalar source s).KeysOrdered :=
  nofun

theorem keysOrdered_list (source : Source) (items : List Tree) :
    (Tree.list source items).KeysOrdered :=
  nofun

theorem keysOrdered_dict {source : Source} {members : Members} (h : members.Ordered) :
    (Tree.dict source members).KeysOrdered := by
  intro source' members' heq
  cases heq
  exact h

/-- A tree of settings whose dictionaries have their keys in order, whatever else it holds. -/
structure Tidy (t : Tree) : Prop where
  root : t.IsDict
  values : ∀ key u, t.get? [key] = some u → u.KeysOrdered

theorem tidy_of_members {source : Source} {members : Members} (hordered : members.Ordered)
    (hvalues : ∀ key u, members.get? key = some u → u.KeysOrdered) :
    Tidy (.dict source members) where
  root := ⟨source, members, rfl, hordered⟩
  values key u hu := hvalues key u (by simpa only [Tree.get?, Option.bind_fun_some] using hu)

/-- A tidy tree that has no other values than dictionaries at the names of sections is a layer. -/
theorem Tidy.layer {t : Tree} (h : Tidy t) (hsections : SectionsAreDicts t) :
    Layer sectionNames t where
  root := h.root
  section_isDict name hname u hu := by
    obtain ⟨source, members, rfl⟩ := hsections name hname u hu
    exact ⟨source, members, rfl, h.values name _ hu source members rfl⟩

/-! ## Variables -/

theorem keysOrdered_readValue {fuel : Nat} {cs rest : List Char} {t : Tree}
    (h : readValue? fuel cs = some (t, rest)) : t.KeysOrdered := by
  cases fuel with
  | zero => cases h
  | succ fuel =>
    unfold readValue? at h
    obtain ⟨⟨t', rest'⟩, hread, heq⟩ := Option.map_eq_some_iff.mp h
    cases heq
    split at hread
    · cases hread
      exact keysOrdered_scalar _ _
    · cases hread
      exact keysOrdered_scalar _ _
    · obtain ⟨⟨items, rest''⟩, -, heq⟩ := Option.map_eq_some_iff.mp hread
      cases heq
      exact keysOrdered_list _ _
    · obtain ⟨⟨members, rest''⟩, -, heq⟩ := Option.map_eq_some_iff.mp hread
      cases heq
      exact keysOrdered_dict (Members.ordered_ofList members)
    · obtain ⟨⟨s, rest''⟩, -, heq⟩ := Option.map_eq_some_iff.mp hread
      cases heq
      exact keysOrdered_scalar _ _
    · cases hread
      exact keysOrdered_scalar _ _
    · cases hread
    · cases hread
      exact keysOrdered_scalar _ _

theorem keysOrdered_ofVariable (s : String) : (Tree.ofVariable s).KeysOrdered := by
  unfold Tree.ofVariable
  split
  · next h => exact keysOrdered_readValue h
  · exact keysOrdered_scalar _ _

theorem keysOrdered_nested {value : Tree} (h : value.KeysOrdered) (source : Source)
    (path : List String) : (Tree.nested source value path).KeysOrdered := by
  cases path with
  | nil => exact h
  | cons key path => exact keysOrdered_dict (List.pairwise_singleton _ _)

theorem variablePath?_ne_nil {name : String} {path : List String}
    (h : variablePath? name = some path) : path ≠ [] := by
  unfold variablePath? at h
  split at h
  · cases h
  · dsimp only at h
    split at h
    · cases h
    · cases h
      intro hnil
      exact splitOnChar_ne_nil _ _ (List.map_eq_nil_iff.mp hnil)

/-- What a variable sets is tidy. -/
theorem tidy_of_variable {v : String × String} {t : Tree} (h : ofVariable? v = some t) :
    Tidy t := by
  obtain ⟨path, hpath, rfl⟩ := Option.map_eq_some_iff.mp h
  cases path with
  | nil => exact absurd rfl (variablePath?_ne_nil hpath)
  | cons key path =>
    refine tidy_of_members (List.pairwise_singleton _ _) ?_
    intro key' u hu
    have hmem := Members.mem_of_get? hu
    rw [List.mem_singleton] at hmem
    cases hmem
    exact keysOrdered_nested (keysOrdered_ofVariable v.2) .environment path

/-! ### Letter case -/

theorem replaceUnderscores_map (cs : List Char) :
    replaceUnderscores (cs.map lowerChar) = (replaceUnderscores cs).map lowerChar := by
  have hunderscore : ∀ c, lowerChar c = '_' ↔ c = '_' := fun c => lowerChar_eq_iff (by decide)
  induction cs using replaceUnderscores.induct with
  | case1 rest ih =>
    show replaceUnderscores ('_' :: '_' :: rest.map lowerChar) = _
    rw [replaceUnderscores, ih]
    rfl
  | case2 c rest hpair ih =>
    have hpair' : ∀ rest', lowerChar c = '_' → rest.map lowerChar = '_' :: rest' → False := by
      intro rest' hc hrest
      obtain ⟨d, rest'', rfl, hd, -⟩ := List.map_eq_cons_iff.mp hrest
      exact hpair rest'' ((hunderscore c).mp hc) (by rw [(hunderscore d).mp hd])
    rw [List.map_cons, replaceUnderscores.eq_2 _ _ hpair, replaceUnderscores.eq_2 _ _ hpair', ih]
    rfl
  | case3 => rfl

theorem dropPrefix?_map (start cs : List Char) :
    dropPrefix? start (cs.map lowerChar) = (dropPrefix? start cs).map (List.map lowerChar) := by
  unfold dropPrefix?
  rw [← List.map_take, map_lowerChar_map, ← List.map_drop]
  split <;> rfl

/-- **Names of variables count up to letter case.** -/
theorem variablePath?_lower (name : String) : variablePath? (lower name) = variablePath? name := by
  unfold variablePath? lower
  rw [String.toList_ofList, trimChars_map, dropPrefix?_map]
  cases dropPrefix? variablePrefix.toList (trimChars name.toList) with
  | none => rfl
  | some rest =>
    have hempty : (fun key : List Char => (key.map lowerChar).isEmpty) = List.isEmpty := by
      funext key
      exact List.isEmpty_map
    simp only [Option.map_some]
    rw [replaceUnderscores_map, trimChars_map, splitOnChar_map (by decide)]
    simp only [List.any_map, Function.comp_def, hempty, List.map_map, lowerChar_lowerChar]

/-! ## Files -/

theorem keysOrdered_wrapTag {t : Tree} (h : t.KeysOrdered) (source : Source) (tag : Option String) :
    (wrapTag source tag t).KeysOrdered := by
  unfold wrapTag
  split
  · exact keysOrdered_dict (List.pairwise_singleton _ _)
  · exact h

theorem keysOrdered_treeOf {source : Source} {anchored : List (Nat × Node)}
    {depth jumps jumps' : Nat} {node : Node} {t : Tree}
    (h : treeOf? source anchored depth node jumps = some (t, jumps')) : t.KeysOrdered := by
  unfold treeOf? at h
  split at h
  · cases h
  · cases h
  · obtain ⟨t', hscalar, heq⟩ := Option.map_eq_some_iff.mp h
    cases heq
    obtain ⟨s, -, rfl⟩ := Option.map_eq_some_iff.mp hscalar
    exact keysOrdered_wrapTag (keysOrdered_scalar _ _) _ _
  · split at h
    · cases h
    · obtain ⟨⟨items, jumps''⟩, -, heq⟩ := Option.map_eq_some_iff.mp h
      cases heq
      exact keysOrdered_wrapTag (keysOrdered_list _ _) _ _
  · split at h
    · cases h
    · obtain ⟨⟨members, jumps''⟩, -, heq⟩ := Option.map_eq_some_iff.mp h
      cases heq
      exact keysOrdered_wrapTag (keysOrdered_dict (Members.ordered_ofList members)) _ _

/-- Whatever is read of a list is read of one of its elements. -/
theorem exists_read_of_mem_readAll {α β : Type} {read : α → Nat → Option (β × Nat)}
    {as : List α} {bs : List β} {jumps jumps' : Nat} (h : readAll read as jumps = some (bs, jumps'))
    {b : β} (hb : b ∈ bs) : ∃ a i j, read a i = some (b, j) := by
  induction as generalizing bs jumps with
  | nil =>
    cases h
    cases hb
  | cons a as ih =>
    unfold readAll at h
    obtain ⟨⟨c, i⟩, hread, h⟩ := Option.bind_eq_some_iff.mp h
    obtain ⟨⟨cs, j⟩, hrest, h⟩ := Option.bind_eq_some_iff.mp h
    cases h
    rcases List.mem_cons.mp hb with rfl | hin
    · exact ⟨a, jumps, i, hread⟩
    · exact ih hrest hin

theorem keysOrdered_of_readMembers {source : Source} {anchored : List (Nat × Node)}
    {depth jumps jumps' : Nat} {nodes : List (Node × Node)} {members : List (String × Tree)}
    (h : readAll (readMember anchored (treeOf? source anchored depth)) nodes jumps
      = some (members, jumps')) {key : String} {t : Tree}
    (hget : Members.get? (Members.ofList members) key = some t) : t.KeysOrdered := by
  obtain ⟨node, i, j, hread⟩ := exists_read_of_mem_readAll h (Members.mem_of_get?_ofList hget)
  unfold readMember at hread
  obtain ⟨⟨text, i'⟩, -, hread⟩ := Option.bind_eq_some_iff.mp hread
  obtain ⟨⟨value, j'⟩, hvalue, hread⟩ := Option.bind_eq_some_iff.mp hread
  cases hread
  exact keysOrdered_treeOf hvalue

/-- What a document gives is in order, and so is every dictionary in it that is a section. -/
theorem ordered_documentMembers {source : Source} {d : Document} {members : Members}
    (h : documentMembers? source d = some members) :
    members.Ordered ∧ ∀ key u, members.get? key = some u → u.KeysOrdered := by
  unfold documentMembers? at h
  split at h
  · cases h
    exact ⟨List.Pairwise.nil, nofun⟩
  · cases h
    exact ⟨List.Pairwise.nil, nofun⟩
  · obtain ⟨⟨members', jumps⟩, hread, heq⟩ := Option.map_eq_some_iff.mp h
    cases heq
    exact ⟨Members.ordered_ofList members', fun _ _ hget => keysOrdered_of_readMembers hread hget⟩
  · cases h

/-- What a file sets is tidy. -/
theorem tidy_of_file {file : Option File} {t : Tree} (h : fileTree? file = some t) : Tidy t := by
  cases file with
  | none =>
    cases h
    exact tidy_of_members List.Pairwise.nil nofun
  | some file =>
    obtain ⟨members, hmembers, rfl⟩ := Option.map_eq_some_iff.mp h
    obtain ⟨text, -, hmembers⟩ := Option.bind_eq_some_iff.mp hmembers
    obtain ⟨d, -, hmembers⟩ := Option.bind_eq_some_iff.mp hmembers
    obtain ⟨hordered, hvalues⟩ := ordered_documentMembers hmembers
    exact tidy_of_members hordered hvalues

/-! ## Built-in settings -/

theorem sectionsAreDicts_builtIn : SectionsAreDicts (toTree {}) := by
  intro name hname u hu
  simp only [sectionNames, List.mem_cons, List.not_mem_nil, or_false] at hname
  rcases hname with rfl | rfl | rfl | rfl
  all_goals
    cases hu
    exact ⟨_, _, rfl⟩

/-- The built-in settings are tidy. -/
theorem tidy_builtIn : Tidy (toTree {}) := by
  refine tidy_of_members (by decide) ?_
  intro key u hu
  have hmem := Members.mem_of_get? hu
  simp only [List.mem_cons, Prod.mk.injEq, List.not_mem_nil, or_false] at hmem
  rcases hmem with ⟨-, rfl⟩ | ⟨-, rfl⟩ | ⟨-, rfl⟩ | ⟨-, rfl⟩
  all_goals exact keysOrdered_dict (by decide)

/-- The built-in settings are a layer. -/
theorem layer_builtIn : Layer sectionNames (toTree {}) :=
  tidy_builtIn.layer sectionsAreDicts_builtIn

end LoginService.Settings

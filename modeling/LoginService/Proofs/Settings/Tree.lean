import LoginService.Settings.Tree

/-!
# Laying trees of settings over each other

A dictionary whose keys are in order is known by what it holds at each key. What a merged dictionary
holds at a key is what the upper one holds there, laid over what the lower one does (`overlay`). A
tree of settings is a dictionary of sections, each of them a dictionary again: for such trees, which
`Layer` describes, the same holds at every path to a setting, and at such a path any number of
layers may be merged one after another.
-/

namespace LoginService.Settings

/-! ## Members in the order of their keys -/

namespace Members

/-- The keys ascend, so that none occurs twice. -/
def Ordered (m : Members) : Prop := m.Pairwise fun a b => a.1 < b.1

instance (m : Members) : Decidable (Ordered m) :=
  inferInstanceAs (Decidable (m.Pairwise fun a b => a.1 < b.1))

theorem get?_nil (key : String) : get? [] key = none := rfl

theorem get?_cons_self (key : String) (value : Tree) (rest : Members) :
    get? ((key, value) :: rest) key = some value := by
  unfold get?
  rw [List.lookup_cons, beq_self_eq_true]

theorem get?_cons_ne {key k : String} (h : key ≠ k) (value : Tree) (rest : Members) :
    get? ((k, value) :: rest) key = get? rest key := by
  unfold get?
  rw [List.lookup_cons, beq_false_of_ne h]

theorem mem_of_get? {m : Members} {key : String} {value : Tree}
    (h : get? m key = some value) : (key, value) ∈ m := by
  induction m with
  | nil => cases h
  | cons member rest ih =>
    obtain ⟨k, v⟩ := member
    by_cases hk : key = k
    · subst hk
      rw [get?_cons_self] at h
      cases h
      exact List.mem_cons_self
    · rw [get?_cons_ne hk] at h
      exact List.mem_cons_of_mem _ (ih h)

/-- No key of an ordered list is the one in front of it. -/
theorem Ordered.get?_rest {key : String} {value : Tree} {rest : Members}
    (h : Ordered ((key, value) :: rest)) : get? rest key = none := by
  cases hget : get? rest key with
  | none => rfl
  | some v =>
    have hlt : key < key := (List.pairwise_cons.mp h).1 (key, v) (mem_of_get? hget)
    exact absurd hlt (String.lt_irrefl key)

theorem Ordered.get?_of_mem {m : Members} (h : Ordered m) {key : String} {value : Tree}
    (hmem : (key, value) ∈ m) : get? m key = some value := by
  induction m with
  | nil => cases hmem
  | cons member rest ih =>
    obtain ⟨k, v⟩ := member
    obtain ⟨hhead, hrest⟩ := List.pairwise_cons.mp h
    rcases List.mem_cons.mp hmem with heq | hin
    · cases heq
      exact get?_cons_self key value rest
    · have hne : key ≠ k := by
        rintro rfl
        exact String.lt_irrefl key (hhead (key, value) hin)
      rw [get?_cons_ne hne]
      exact ih hrest hin

/-- Members in order are known by what is among them. -/
theorem Ordered.eq_of_mem_iff {m m' : Members} (h : Ordered m) (h' : Ordered m')
    (hmem : ∀ member, member ∈ m ↔ member ∈ m') : m = m' := by
  have hnodup : ∀ l : Members, Ordered l → l.Nodup := by
    intro l hl
    refine hl.imp ?_
    rintro a b hlt rfl
    exact String.lt_irrefl a.1 hlt
  refine List.Perm.eq_of_pairwise ?_ h h' ?_
  · intro a b _ _ hab hba
    exact absurd hba (String.lt_asymm hab)
  · exact (List.perm_ext_iff_of_nodup (hnodup m h) (hnodup m' h')).mpr hmem

theorem Ordered.mem_iff {m : Members} (h : Ordered m) {member : String × Tree} :
    member ∈ m ↔ get? m member.1 = some member.2 :=
  ⟨h.get?_of_mem, mem_of_get?⟩

/-- Ordered members around one of them, with another value in its place. -/
theorem Ordered.replace {before after : Members} {key : String} {value : Tree}
    (h : Ordered (before ++ (key, value) :: after)) (other : Tree) :
    Ordered (before ++ (key, other) :: after) := by
  unfold Ordered at h ⊢
  rw [← List.pairwise_map (f := Prod.fst) (R := (· < ·))] at h ⊢
  simpa only [List.map_append, List.map_cons] using h

/-- Two ordered lists of members that hold the same but for one key, which both have, are the same
list but for the value of that key. -/
theorem Ordered.exists_around {m m' : Members} {key : String} {value value' : Tree}
    (h : Ordered m) (h' : Ordered m') (hget : get? m key = some value)
    (hget' : get? m' key = some value') (helse : ∀ k, k ≠ key → get? m' k = get? m k) :
    ∃ before after, m = before ++ (key, value) :: after ∧
      m' = before ++ (key, value') :: after ∧ ∀ member ∈ after, member.1 ≠ key := by
  obtain ⟨before, after, rfl⟩ := List.append_of_mem (mem_of_get? hget)
  have hreplaced := h.replace value'
  obtain ⟨hbefore, hrest, hcross⟩ := List.pairwise_append.mp hreplaced
  have hafter : ∀ member ∈ after, member.1 ≠ key := by
    rintro member hmem rfl
    exact String.lt_irrefl _ ((List.pairwise_cons.mp hrest).1 member hmem)
  have hahead : ∀ member ∈ before, member.1 ≠ key := by
    rintro member hmem rfl
    exact String.lt_irrefl _ (hcross member hmem (member.1, value') List.mem_cons_self)
  refine ⟨before, after, rfl, h'.eq_of_mem_iff hreplaced ?_, hafter⟩
  rintro ⟨k, v⟩
  rw [h'.mem_iff]
  dsimp only
  by_cases hk : k = key
  · subst hk
    rw [hget', List.mem_append, List.mem_cons]
    constructor
    · rintro ⟨⟩
      exact Or.inr (Or.inl rfl)
    · rintro (hmem | heq | hmem)
      · exact absurd rfl (hahead _ hmem)
      · cases heq
        rfl
      · exact absurd rfl (hafter _ hmem)
  · have hmem : (k, v) ∈ before ++ (key, value) :: after ↔ _ := h.mem_iff
    rw [helse k hk, ← hmem, List.mem_append, List.mem_append, List.mem_cons, List.mem_cons]
    simp only [Prod.mk.injEq, hk, false_and, false_or]

/-! ### Changing one member -/

variable {key other : String} {f : Option Tree → Tree} {m : Members}

theorem mem_change {member : String × Tree} (h : member ∈ change key f m) :
    member.1 = key ∨ member ∈ m := by
  induction m with
  | nil =>
    rw [change, List.mem_singleton] at h
    exact Or.inl (congrArg Prod.fst h)
  | cons head rest ih =>
    obtain ⟨k, v⟩ := head
    unfold change at h
    split at h
    · next hk =>
      rcases List.mem_cons.mp h with rfl | h
      · exact Or.inl hk.symm
      · exact Or.inr (List.mem_cons_of_mem _ h)
    · split at h
      · rcases List.mem_cons.mp h with rfl | h
        · exact Or.inl rfl
        · exact Or.inr h
      · rcases List.mem_cons.mp h with rfl | h
        · exact Or.inr List.mem_cons_self
        · rcases ih h with hkey | hmem
          · exact Or.inl hkey
          · exact Or.inr (List.mem_cons_of_mem _ hmem)

theorem Ordered.change (h : Ordered m) : Ordered (change key f m) := by
  induction m with
  | nil => exact List.pairwise_singleton _ _
  | cons head rest ih =>
    obtain ⟨k, v⟩ := head
    obtain ⟨hhead, hrest⟩ := List.pairwise_cons.mp h
    unfold Members.change
    by_cases hk : key = k
    · rw [if_pos hk]
      exact List.pairwise_cons.mpr ⟨hhead, hrest⟩
    · rw [if_neg hk]
      by_cases hlt : key < k
      · rw [if_pos hlt]
        refine List.pairwise_cons.mpr ⟨?_, h⟩
        intro b hb
        rcases List.mem_cons.mp hb with rfl | hb
        · exact hlt
        · exact String.lt_trans hlt (hhead b hb)
      · rw [if_neg hlt]
        have hgt : k < key := by
          apply String.not_le.mp
          intro hle
          exact hk (String.le_antisymm hle (String.not_lt.mp hlt))
        refine List.pairwise_cons.mpr ⟨?_, ih hrest⟩
        intro b hb
        rcases mem_change hb with hkey | hmem
        · rw [hkey]
          exact hgt
        · exact hhead b hmem

theorem Ordered.get?_change_self (h : Ordered m) :
    get? (Members.change key f m) key = some (f (get? m key)) := by
  induction m with
  | nil => exact get?_cons_self key _ []
  | cons head rest ih =>
    obtain ⟨k, v⟩ := head
    obtain ⟨hhead, hrest⟩ := List.pairwise_cons.mp h
    unfold Members.change
    by_cases hk : key = k
    · subst hk
      rw [if_pos rfl, get?_cons_self, get?_cons_self]
    · rw [if_neg hk, get?_cons_ne hk]
      by_cases hlt : key < k
      · -- the key comes before all others, so it is not among them
        have hnone : get? rest key = none := by
          cases hget : get? rest key with
          | none => rfl
          | some w =>
            have hgt : k < key := hhead (key, w) (mem_of_get? hget)
            exact absurd hgt (String.lt_asymm hlt)
        rw [if_pos hlt, get?_cons_self, hnone]
      · rw [if_neg hlt, get?_cons_ne hk]
        exact ih hrest

theorem get?_change_ne (h : other ≠ key) : get? (change key f m) other = get? m other := by
  induction m with
  | nil => exact get?_cons_ne h _ []
  | cons head rest ih =>
    obtain ⟨k, v⟩ := head
    unfold change
    by_cases hk : key = k
    · subst hk
      rw [if_pos rfl, get?_cons_ne h, get?_cons_ne h]
    · rw [if_neg hk]
      by_cases hlt : key < k
      · rw [if_pos hlt, get?_cons_ne h]
      · rw [if_neg hlt]
        by_cases ho : other = k
        · subst ho
          rw [get?_cons_self, get?_cons_self]
        · rw [get?_cons_ne ho, get?_cons_ne ho]
          exact ih

/-! ### Members in any order -/

theorem ordered_foldl_insert (members : List (String × Tree)) (h : Ordered m) :
    Ordered (members.foldl (fun m member => insert m member.1 member.2) m) := by
  induction members generalizing m with
  | nil => exact h
  | cons member rest ih => exact ih h.change

theorem ordered_ofList (members : List (String × Tree)) : Ordered (ofList members) :=
  ordered_foldl_insert members List.Pairwise.nil

theorem get?_insert_cases {value v : Tree} (h : get? (insert m key value) other = some v)
    (hm : Ordered m) : (other = key ∧ v = value) ∨ get? m other = some v := by
  unfold insert at h
  by_cases ho : other = key
  · subst ho
    rw [hm.get?_change_self] at h
    exact Or.inl ⟨rfl, (Option.some.inj h).symm⟩
  · rw [get?_change_ne ho] at h
    exact Or.inr h

theorem mem_of_get?_foldl_insert {members : List (String × Tree)} {v : Tree} (hm : Ordered m)
    (h : get? (members.foldl (fun m member => insert m member.1 member.2) m) other = some v) :
    (other, v) ∈ members ∨ get? m other = some v := by
  induction members generalizing m with
  | nil => exact Or.inr h
  | cons member rest ih =>
    rcases ih hm.change h with hrest | hinsert
    · exact Or.inl (List.mem_cons_of_mem _ hrest)
    · rcases get?_insert_cases hinsert hm with ⟨rfl, rfl⟩ | hold
      · exact Or.inl List.mem_cons_self
      · exact Or.inr hold

/-- What a dictionary holds is one of the members it was made of. -/
theorem mem_of_get?_ofList {members : List (String × Tree)} {v : Tree}
    (h : get? (ofList members) key = some v) : (key, v) ∈ members := by
  rcases mem_of_get?_foldl_insert List.Pairwise.nil h with hmem | hnil
  · exact hmem
  · cases hnil

end Members

/-! ## One value laid over another -/

/-- What is seen where one value may be laid over another. -/
def overlay : Option Tree → Option Tree → Option Tree
  | below, none => below
  | none, some above => some above
  | some below, some above => some (below.merge above)

theorem overlay_none (below : Option Tree) : overlay below none = below := by
  cases below <;> rfl

/-- **What a merged dictionary holds.** -/
theorem get?_mergeMembers {old members : Members} (hold : old.Ordered) (hmembers : members.Ordered)
    (key : String) :
    Members.get? (Tree.mergeMembers old members) key
      = overlay (old.get? key) (members.get? key) := by
  induction members generalizing old with
  | nil => exact (overlay_none _).symm
  | cons member rest ih =>
    obtain ⟨k, v⟩ := member
    have hrest : Members.Ordered rest := (List.pairwise_cons.mp hmembers).2
    rw [Tree.mergeMembers, ih hold.change hrest]
    by_cases hk : key = k
    · subst hk
      rw [hmembers.get?_rest, overlay_none, hold.get?_change_self, Members.get?_cons_self]
      cases old.get? key <;> rfl
    · rw [Members.get?_change_ne hk, Members.get?_cons_ne hk]

theorem ordered_mergeMembers {old : Members} (hold : old.Ordered)
    (members : List (String × Tree)) : Members.Ordered (Tree.mergeMembers old members) := by
  induction members generalizing old with
  | nil => exact hold
  | cons member rest ih =>
    obtain ⟨k, v⟩ := member
    rw [Tree.mergeMembers]
    exact ih hold.change

/-! ## Trees of sections -/

/-- A tree that is a dictionary with its keys in order. -/
def Tree.IsDict (t : Tree) : Prop :=
  ∃ source members, t = .dict source members ∧ Members.Ordered members

theorem isDict_merge {below above : Tree} (hbelow : below.IsDict) (habove : above.IsDict) :
    (below.merge above).IsDict := by
  obtain ⟨source, old, rfl, hold⟩ := hbelow
  obtain ⟨source', members, rfl, -⟩ := habove
  exact ⟨source', Tree.mergeMembers old members, rfl, ordered_mergeMembers hold members⟩

theorem get?_one_merge {below above : Tree} (hbelow : below.IsDict) (habove : above.IsDict)
    (key : String) :
    (below.merge above).get? [key] = overlay (below.get? [key]) (above.get? [key]) := by
  obtain ⟨source, old, rfl, hold⟩ := hbelow
  obtain ⟨source', members, rfl, hmembers⟩ := habove
  have hget : ∀ (source : Source) (m : Members), (Tree.dict source m).get? [key] = m.get? key := by
    intro source m
    simp only [Tree.get?, Option.bind_fun_some]
  rw [hget, hget, Tree.merge, hget]
  exact get?_mergeMembers hold hmembers key

/-- A tree of settings: a dictionary in order which has, at the names of sections, such
dictionaries or nothing. -/
structure Layer (sections : List String) (t : Tree) : Prop where
  root : t.IsDict
  section_isDict : ∀ name ∈ sections, ∀ u, t.get? [name] = some u → u.IsDict

theorem get?_two (t : Tree) (name key : String) :
    t.get? [name, key] = (t.get? [name]).bind (Tree.get? [key]) := by
  cases t with
  | dict source members =>
    simp only [Tree.get?, Option.bind_fun_some]
  | scalar source s => rfl
  | list source items => rfl

namespace Layer

variable {sections : List String} {below above : Tree}

theorem merge (hbelow : Layer sections below) (habove : Layer sections above) :
    Layer sections (below.merge above) where
  root := isDict_merge hbelow.root habove.root
  section_isDict name hname u hu := by
    rw [get?_one_merge hbelow.root habove.root] at hu
    cases ha : above.get? [name] with
    | none =>
      rw [ha, overlay_none] at hu
      exact hbelow.section_isDict name hname u hu
    | some a =>
      have hdict := habove.section_isDict name hname a ha
      rw [ha] at hu
      cases hb : below.get? [name] with
      | none =>
        rw [hb] at hu
        cases hu
        exact hdict
      | some b =>
        rw [hb] at hu
        cases hu
        exact isDict_merge (hbelow.section_isDict name hname b hb) hdict

/-- **What a merged tree holds at the path of a setting.** -/
theorem get?_merge (hbelow : Layer sections below) (habove : Layer sections above)
    {name : String} (hname : name ∈ sections) (key : String) :
    (below.merge above).get? [name, key]
      = overlay (below.get? [name, key]) (above.get? [name, key]) := by
  rw [get?_two, get?_two, get?_two, get?_one_merge hbelow.root habove.root]
  cases ha : above.get? [name] with
  | none => rw [overlay_none, Option.bind_none, overlay_none]
  | some a =>
    have hdict := habove.section_isDict name hname a ha
    cases hb : below.get? [name] with
    | none =>
      show Tree.get? [key] a = overlay none (Tree.get? [key] a)
      cases Tree.get? [key] a <;> rfl
    | some b => exact get?_one_merge (hbelow.section_isDict name hname b hb) hdict key

theorem foldl_merge (trees : List Tree) (hbelow : Layer sections below)
    (htrees : ∀ t ∈ trees, Layer sections t) : Layer sections (trees.foldl Tree.merge below) := by
  induction trees generalizing below with
  | nil => exact hbelow
  | cons t trees ih =>
    exact ih (hbelow.merge (htrees t List.mem_cons_self))
      fun u hu => htrees u (List.mem_cons_of_mem t hu)

/-- **What any number of trees hold at the path of a setting** is what they hold there each, laid
over each other in turn. -/
theorem get?_foldl_merge (trees : List Tree) (hbelow : Layer sections below)
    (htrees : ∀ t ∈ trees, Layer sections t) {name : String} (hname : name ∈ sections)
    (key : String) :
    (trees.foldl Tree.merge below).get? [name, key]
      = (trees.map (Tree.get? [name, key])).foldl overlay (below.get? [name, key]) := by
  induction trees generalizing below with
  | nil => rfl
  | cons t trees ih =>
    have ht := htrees t List.mem_cons_self
    rw [List.foldl_cons, List.map_cons, List.foldl_cons, ← hbelow.get?_merge ht hname]
    exact ih (hbelow.merge ht) fun u hu => htrees u (List.mem_cons_of_mem t hu)

end Layer

end LoginService.Settings

import LoginService.Proofs.Login.Keys
import Mathlib.Data.List.Induction

/-!
# What folding makes of a map

Members are sorted into two maps, and the exact ones are put over the others in the end. As long as
keys are visited in the order of their bytes this comes to one pass in which a later key overwrites
an earlier one (`renamed`): no spelling of a field name is visited after the name itself, so there
is never anything that an exact member would have to be kept from (`getElem?_foldVisited`). From the
one pass it is read off which keys are left, and that there is nothing left to fold. In any other
order the two maps do differ from the one, and an exact member still wins
(`getElem?_foldVisited_of_exact`).
-/

namespace LoginService.Login

open Json
open Text (sameIgnoringCase)
open Text.Utf8 (encode encode_lt_encode)

/-! ## Visiting keys in the order of their bytes -/

/-- Members with distinct keys, in the order of the bytes of their keys. -/
def ByBytes (members : List (String × Value)) : Prop :=
  members.Pairwise fun a b => encode a.1.toList < encode b.1.toList

theorem byBytes_toList (m : Members) : ByBytes m.toList := by
  have hsorted : m.toList.Pairwise fun a b => compare a.1 b.1 = .lt :=
    Std.TreeMap.ordered_keys_toList
  refine hsorted.imp ?_
  intro a b hab
  exact encode_lt_encode.2 (String.lt_iff.1 (compareOfLessAndEq_eq_lt.1 hab))

/-- Members with their keys renamed in one pass: a later one overwrites those before it. -/
def renamed (members : List (String × Value)) : Members :=
  members.foldl (fun m member => m.insert (canonicalKey member.1) member.2) ∅

theorem renamed_concat (members : List (String × Value)) (member : String × Value) :
    renamed (members ++ [member]) = (renamed members).insert (canonicalKey member.1) member.2 := by
  rw [renamed, List.foldl_append, List.foldl_cons, List.foldl_nil, ← renamed]

/-- **One step.** A visit does to both maps together what the one pass does, unless the exact member
that it would be put under has been visited before. -/
theorem getElem?_join_visit {f : Folding} {k : String} (h : f.exact[canonicalKey k]? = none)
    (v : Value) (key : String) :
    (f.visit k v).join[key]? = if canonicalKey k = key then some v else f.join[key]? := by
  rw [getElem?_join, getElem?_join, getElem?_exact_visit, getElem?_folded_visit]
  by_cases hk : k ∈ fieldNames
  · -- among the exact members, which are put over all others
    by_cases hkey : k = key
    · subst hkey
      simp [canonicalKey_of_mem hk, hk]
    · simp [canonicalKey_of_mem hk, hk, hkey]
  · by_cases hkey : canonicalKey k = key
    · -- among the others, with no exact member to be put over it
      rw [hkey] at h
      simp [hk, hkey, h]
    · simp [hk, hkey]

/-- **A whole pass.** Members that are visited in the order of their bytes are folded like in the
one pass. -/
theorem getElem?_foldVisited {visited : List (String × Value)} (h : ByBytes visited)
    (key : String) : (foldVisited visited)[key]? = (renamed visited)[key]? := by
  induction visited using List.reverseRecOn with
  | nil => rfl
  | append_singleton visited member ih =>
    obtain ⟨hvisited, -, hlast⟩ := List.pairwise_append.1 h
    have hfree : (visited.foldl (fun (f : Folding) m => f.visit m.1 m.2)
        {}).exact[canonicalKey member.1]? = none := by
      rcases last_exact (canonicalKey member.1) visited with ⟨v, hl, -⟩ | ⟨-, hnone⟩
      · have hlt := hlast _ (mem_of_last hl) member (List.mem_singleton_self member)
        exact absurd (String.lt_iff.2 (encode_lt_encode.1 hlt)) (not_canonicalKey_lt member.1)
      · exact hnone
    rw [foldVisited, List.foldl_append, List.foldl_cons, List.foldl_nil, getElem?_join_visit hfree,
      renamed_concat, getElem?_insert]
    exact ite_congr rfl (fun _ => rfl) fun _ => ih hvisited

/-! ## Which keys are left -/

theorem last_renamed (key : String) (members : List (String × Value)) :
    (∃ k v, Last (fun k => canonicalKey k = key) members k v ∧ (renamed members)[key]? = some v) ∨
      ((∀ m ∈ members, canonicalKey m.1 ≠ key) ∧ (renamed members)[key]? = none) := by
  have hstep (m : Members) (k : String) (v : Value) := getElem?_insert m (canonicalKey k) key v
  rcases last_of_foldl (fun (m : Members) k v => m.insert (canonicalKey k) v) (fun m => m[key]?)
    hstep members ∅ with hsome | ⟨hnone, hget⟩
  · exact Or.inl hsome
  · exact Or.inr ⟨hnone, hget.trans Std.TreeMap.getElem?_emptyc⟩

/-- A key is kept with its value if no other one is renamed to it. -/
theorem getElem?_renamed_toList {m : Members} {key : String}
    (h : ∀ k ∈ m, canonicalKey k = key ↔ k = key) : (renamed m.toList)[key]? = m[key]? := by
  have hmem : ∀ {k v}, (k, v) ∈ m.toList → m[k]? = some v :=
    Std.TreeMap.mem_toList_iff_getElem?_eq_some.1
  rcases last_renamed key m.toList with ⟨k, v, hl, hget⟩ | ⟨hnone, hget⟩
  · have hk := hmem (mem_of_last hl)
    obtain rfl := (h k (Std.TreeMap.mem_iff_isSome_getElem?.2 (by rw [hk]; rfl))).1 hl.1
    rw [hget, hk]
  · rw [hget, eq_comm, Option.eq_none_iff_forall_ne_some]
    intro v hv
    have hkey := (h key (Std.TreeMap.mem_iff_isSome_getElem?.2 (by rw [hv]; rfl))).2 rfl
    exact hnone (key, v) (Std.TreeMap.mem_toList_iff_getElem?_eq_some.2 hv) hkey

theorem getElem?_foldKeys (m : Members) (key : String) :
    (foldKeys m)[key]? = (renamed m.toList)[key]? :=
  getElem?_foldVisited (byBytes_toList m) key

/-- A key is left exactly if some key is renamed to it. -/
theorem mem_foldKeys_iff {m : Members} {key : String} :
    key ∈ foldKeys m ↔ ∃ k ∈ m, canonicalKey k = key := by
  rw [Std.TreeMap.mem_iff_isSome_getElem?, getElem?_foldKeys]
  rcases last_renamed key m.toList with ⟨k, v, hl, hget⟩ | ⟨hnone, hget⟩
  · have hk := Std.TreeMap.mem_toList_iff_getElem?_eq_some.1 (mem_of_last hl)
    rw [hget]
    exact iff_of_true rfl ⟨k, Std.TreeMap.mem_iff_isSome_getElem?.2 (by rw [hk]; rfl), hl.1⟩
  · rw [hget]
    refine iff_of_false (by simp) ?_
    rintro ⟨k, hk, hkey⟩
    obtain ⟨v, hv⟩ := Option.isSome_iff_exists.1 (Std.TreeMap.mem_iff_isSome_getElem?.1 hk)
    exact hnone (k, v) (Std.TreeMap.mem_toList_iff_getElem?_eq_some.2 hv) hkey

/-- Nothing is left to rename. -/
theorem canonicalKey_of_mem_foldKeys {m : Members} {key : String} (h : key ∈ foldKeys m) :
    canonicalKey key = key := by
  obtain ⟨k, -, rfl⟩ := mem_foldKeys_iff.1 h
  exact canonicalKey_canonicalKey k

theorem fieldName?_eq_none {key : String} :
    fieldName? key = none ↔ ∀ name ∈ fieldNames, sameIgnoringCase key name = false := by
  simp only [fieldName?, List.find?_eq_none, Bool.not_eq_true]

/-- What folding owes to the members of an object. -/
structure Folds (members folded : Members) : Prop where
  /-- Of the spellings of a field name only the exact one is left. -/
  exact : ∀ key ∈ folded, ∀ name ∈ fieldNames, sameIgnoringCase key name = true → key = name
  /-- It is there if and only if some spelling of the name was. -/
  spelled : ∀ name ∈ fieldNames, name ∈ folded ↔ ∃ key ∈ members, sameIgnoringCase key name = true
  /-- All other keys are kept with their values, and none is added. -/
  other : ∀ key, (∀ name ∈ fieldNames, sameIgnoringCase key name = false) →
    folded[key]? = members[key]?

theorem folds_foldKeys (m : Members) : Folds m (foldKeys m) := by
  constructor
  case exact =>
    intro key hkey name hname hsame
    exact (canonicalKey_of_mem_foldKeys hkey).symm.trans ((canonicalKey_eq_iff hname).2 hsame)
  case spelled =>
    intro name hname
    rw [mem_foldKeys_iff]
    simp only [canonicalKey_eq_iff hname]
  case other =>
    intro key hkey
    rw [getElem?_foldKeys]
    apply getElem?_renamed_toList
    intro k _
    exact canonicalKey_eq_other (fieldName?_eq_none.2 hkey)

/-- Folding a second time changes nothing. -/
theorem getElem?_foldKeys_foldKeys (m : Members) (key : String) :
    (foldKeys (foldKeys m))[key]? = (foldKeys m)[key]? := by
  rw [getElem?_foldKeys]
  apply getElem?_renamed_toList
  intro k hk
  rw [canonicalKey_of_mem_foldKeys hk]

/-! ## Visiting keys in any order -/

/-- An exact member wins, whenever it is visited. -/
theorem getElem?_foldVisited_of_exact {name : String} (h : name ∈ fieldNames) {m : Members}
    {visited : List (String × Value)} (hperm : visited.Perm m.toList) {v : Value}
    (hv : m[name]? = some v) : (foldVisited visited)[name]? = some v := by
  rw [foldVisited, getElem?_join]
  rcases last_exact name visited with ⟨v', hl, hget⟩ | ⟨hnone, -⟩
  · have hv' := Std.TreeMap.mem_toList_iff_getElem?_eq_some.1 (hperm.mem_iff.1 (mem_of_last hl))
    rw [hget, Option.some_or, ← hv', hv]
  · have hmem := hperm.mem_iff.2 (Std.TreeMap.mem_toList_iff_getElem?_eq_some.2 hv)
    exact absurd ⟨rfl, h⟩ (hnone (name, v) hmem)

-- in the one pass a spelling that is visited later overwrites the name itself
example :
    (foldVisited [("loginname", .text "alice"), ("LoginName", .text "mallory")])["loginname"]?
        = some (.text "alice") ∧
      (renamed [("loginname", .text "alice"), ("LoginName", .text "mallory")])["loginname"]?
        = some (.text "mallory") := ⟨rfl, rfl⟩

/-- **Folding keys.** Folding leaves no spelling of a field name but the exact one, this one if
there was any, and every other key as it was. The keys of a map are visited in the order of their
bytes, so folding them in two maps is one pass in which later keys overwrite earlier ones. Folding
twice is folding once. And in whatever order the members are visited, a field name that occurs
exactly as it is keeps its value. -/
theorem foldKeys_canonical (members : Members) :
    Folds members (foldKeys members) ∧
      (ByBytes members.toList ∧ (foldKeys members).Equiv (renamed members.toList)) ∧
      (foldKeys (foldKeys members)).Equiv (foldKeys members) ∧
      ∀ visited, visited.Perm members.toList → ∀ name ∈ fieldNames, ∀ v,
        members[name]? = some v → (foldVisited visited)[name]? = some v := by
  refine ⟨folds_foldKeys members, ⟨byBytes_toList members, ?_⟩, ?_, ?_⟩
  · exact .of_forall_constGet?_eq (getElem?_foldKeys members)
  · exact .of_forall_constGet?_eq (getElem?_foldKeys_foldKeys members)
  · intro visited hperm name hname v hv
    exact getElem?_foldVisited_of_exact hname hperm hv

/-- Members that spell each field more than once, one of them exactly. -/
def variedMembers : Members :=
  .ofList [("LoginName", .text "mallory"), ("loginname", .text "alice"), ("extra", .null),
    ("Password", .text "secret"), ("PASSWORD", .text "guess")]

theorem foldKeys_canonical_varied :
    variedMembers.toList.reverse.Perm variedMembers.toList ∧ "loginname" ∈ fieldNames ∧
      variedMembers["loginname"]? = some (.text "alice") ∧
      (foldVisited variedMembers.toList.reverse)["loginname"]? = some (.text "alice") ∧
      (foldKeys variedMembers)["extra"]? = some .null := by
  obtain ⟨hfolds, -, -, hexact⟩ := foldKeys_canonical variedMembers
  have hperm : variedMembers.toList.reverse.Perm variedMembers.toList := List.reverse_perm _
  have hname : "loginname" ∈ fieldNames := by decide
  have halice : variedMembers["loginname"]? = some (.text "alice") := rfl
  have hextra : (foldKeys variedMembers)["extra"]? = variedMembers["extra"]? :=
    hfolds.other "extra" (by decide)
  exact ⟨hperm, hname, halice, hexact _ hperm _ hname _ halice, hextra⟩

end LoginService.Login

import LoginService.Login.Keys
import LoginService.Proofs.Text.Ascii
import LoginService.Proofs.Text.Utf8

/-!
# Which member a field takes

Two maps and a final merge decide which member of an object gives the value of a field. `Selects`
says it in one step: the exact spelling if it occurs, else the spelling that is greatest by its
bytes, and of equal keys the last one; `selects_foldKeys` proves that the maps come to this.
-/

namespace LoginService.Login

open Json
open Text (sameIgnoringCase lowerChar not_map_lowerChar_lt)
open Text.Utf8 (encode encode_injective encode_lt_encode)

/-! ## The last member with a property -/

/-- A key and its value are those of the last member whose key has the property. -/
def Last (p : String → Prop) (members : List (String × Value)) (key : String) (value : Value) :
    Prop :=
  p key ∧ ∃ before after, members = before ++ (key, value) :: after ∧ ∀ m ∈ after, ¬ p m.1

theorem mem_of_last {p : String → Prop} {members : List (String × Value)} {key : String}
    {value : Value} (h : Last p members key value) : (key, value) ∈ members := by
  obtain ⟨-, before, after, rfl, -⟩ := h
  simp

/-- There is at most one last member with a property. -/
theorem last_unique {p : String → Prop} {members : List (String × Value)} {k k' : String}
    {v v' : Value} (h : Last p members k v) (h' : Last p members k' v') : k = k' ∧ v = v' := by
  obtain ⟨hk, before, after, rfl, ha⟩ := h
  obtain ⟨hk', before', after', he, ha'⟩ := h'
  rcases List.append_eq_append_iff.1 he with ⟨xs, rfl, hx⟩ | ⟨xs, rfl, hx⟩
  · cases xs with
    | nil =>
      cases hx
      exact ⟨rfl, rfl⟩
    | cons x xs =>
      cases hx
      exact absurd hk' (ha (k', v') (by simp))
  · cases xs with
    | nil =>
      cases hx
      exact ⟨rfl, rfl⟩
    | cons x xs =>
      cases hx
      exact absurd hk (ha' (k, v) (by simp))

/-- Members are visited in order, and those with a property leave their value at one place of the
state. In the end the last of them stands there, or what stood there before. -/
theorem last_of_foldl {σ : Type} (step : σ → String → Value → σ) (get : σ → Option Value)
    {p : String → Prop} [DecidablePred p]
    (hstep : ∀ s k v, get (step s k v) = if p k then some v else get s)
    (members : List (String × Value)) (s : σ) :
    (∃ k v, Last p members k v ∧
        get (members.foldl (fun s m => step s m.1 m.2) s) = some v) ∨
      ((∀ m ∈ members, ¬ p m.1) ∧
        get (members.foldl (fun s m => step s m.1 m.2) s) = get s) := by
  induction members generalizing s with
  | nil => exact Or.inr ⟨by simp, rfl⟩
  | cons m rest ih =>
    obtain ⟨key, value⟩ := m
    rcases ih (step s key value) with ⟨k, v, ⟨hk, before, after, rfl, ha⟩, hget⟩ | ⟨hnone, hget⟩
    · exact Or.inl ⟨k, v, ⟨hk, (key, value) :: before, after, rfl, ha⟩, hget⟩
    · rw [hstep] at hget
      by_cases hp : p key
      · rw [if_pos hp] at hget
        exact Or.inl ⟨key, value, ⟨hp, [], rest, rfl, hnone⟩, hget⟩
      · rw [if_neg hp] at hget
        refine Or.inr ⟨?_, hget⟩
        intro m hm
        rcases List.mem_cons.1 hm with rfl | hm
        · exact hp
        · exact hnone m hm

/-! ## Maps of members -/

theorem getElem?_insert (m : Members) (k key : String) (v : Value) :
    (m.insert k v)[key]? = if k = key then some v else m[key]? := by
  rw [Std.TreeMap.getElem?_insert]
  simp only [Std.LawfulEqOrd.compare_eq_iff_eq]

theorem last_of_insert (key : String) (members : List (String × Value)) (m : Members) :
    (∃ v, Last (· = key) members key v ∧
        (members.foldl (fun m member => m.insert member.1 member.2) m)[key]? = some v) ∨
      ((∀ member ∈ members, member.1 ≠ key) ∧
        (members.foldl (fun m member => m.insert member.1 member.2) m)[key]? = m[key]?) := by
  have hstep (m : Members) (k : String) (v : Value) := getElem?_insert m k key v
  rcases last_of_foldl (fun m k v => m.insert k v) (fun m => m[key]?) hstep members m with
    ⟨k, v, hl, hget⟩ | h
  · obtain rfl := hl.1
    exact Or.inl ⟨v, hl, hget⟩
  · exact Or.inr h

/-- A map of members holds the last value of each key. -/
theorem last_of_ofList (key : String) (members : List (String × Value)) :
    (∃ v, Last (· = key) members key v ∧ (Members.ofList members)[key]? = some v) ∨
      ((∀ member ∈ members, member.1 ≠ key) ∧ (Members.ofList members)[key]? = none) := by
  rcases last_of_insert key members ∅ with h | ⟨hnone, hget⟩
  · exact Or.inl h
  · exact Or.inr ⟨hnone, hget.trans Std.TreeMap.getElem?_emptyc⟩

/-! ## Field names -/

theorem mem_fieldNames {name : String} (h : name ∈ fieldNames) :
    name = "loginname" ∨ name = "password" := by
  simpa [fieldNames] using h

theorem sameIgnoringCase_self (name : String) : sameIgnoringCase name name = true := by
  simp [sameIgnoringCase]

/-- A key spells at most one field name. -/
theorem fieldName?_eq_some {key name : String} (h : name ∈ fieldNames) :
    fieldName? key = some name ↔ sameIgnoringCase key name = true := by
  have hdiff : sameIgnoringCase key "password" = true →
      sameIgnoringCase key "loginname" = false := by
    intro hp
    have hmap : key.toList.map lowerChar = "password".toList.map lowerChar := by
      simpa [sameIgnoringCase] using hp
    rw [sameIgnoringCase, hmap]
    decide
  unfold fieldName? fieldNames
  rw [List.find?_cons, List.find?_cons, List.find?_nil]
  rcases mem_fieldNames h with rfl | rfl
  · cases hl : sameIgnoringCase key "loginname" with
    | true => simp
    | false => cases hp : sameIgnoringCase key "password" <;> simp
  · cases hp : sameIgnoringCase key "password" with
    | true => simp [hdiff hp]
    | false => cases hl : sameIgnoringCase key "loginname" <;> simp

theorem mem_fieldNames_iff {key : String} : key ∈ fieldNames ↔ fieldName? key = some key := by
  constructor
  · intro h
    exact (fieldName?_eq_some h).2 (sameIgnoringCase_self key)
  · intro h
    exact List.mem_of_find?_eq_some h

/-! ## Keys after folding -/

/-- The key of a member after folding: a field name stands for all its spellings, and any other key
for itself. -/
def canonicalKey (key : String) : String :=
  (fieldName? key).getD key

theorem canonicalKey_cases (key : String) :
    canonicalKey key ∈ fieldNames ∨ canonicalKey key = key := by
  unfold canonicalKey
  cases h : fieldName? key with
  | none => exact Or.inr rfl
  | some name => exact Or.inl (List.mem_of_find?_eq_some h)

theorem canonicalKey_of_mem {key : String} (h : key ∈ fieldNames) : canonicalKey key = key := by
  rw [canonicalKey, mem_fieldNames_iff.1 h, Option.getD_some]

theorem canonicalKey_canonicalKey (key : String) :
    canonicalKey (canonicalKey key) = canonicalKey key := by
  rcases canonicalKey_cases key with h | h
  · exact canonicalKey_of_mem h
  · rw [h, h]

theorem canonicalKey_eq_iff {key name : String} (h : name ∈ fieldNames) :
    canonicalKey key = name ↔ sameIgnoringCase key name = true := by
  rw [← fieldName?_eq_some h, canonicalKey]
  cases hk : fieldName? key with
  | some other => exact Option.some_inj.symm
  | none =>
    refine iff_of_false ?_ nofun
    intro hkey
    rw [mem_fieldNames_iff, ← hkey, Option.getD_none, hk] at h
    cases h

/-- A key that spells no field name is the key after folding of no other one. -/
theorem canonicalKey_eq_other {key k : String} (h : fieldName? key = none) :
    canonicalKey k = key ↔ k = key := by
  constructor
  · rintro rfl
    rcases canonicalKey_cases k with hmem | hself
    · rw [mem_fieldNames_iff, h] at hmem
      cases hmem
    · exact hself.symm
  · rintro rfl
    rw [canonicalKey, h, Option.getD_none]

/-- No spelling of a field name comes after the name itself. -/
theorem not_canonicalKey_lt (key : String) : ¬ canonicalKey key < key := by
  have hlower : ∀ name ∈ fieldNames, name.toList.map lowerChar = name.toList := by decide
  rcases canonicalKey_cases key with h | h
  · have hsame := (canonicalKey_eq_iff h).1 rfl
    rw [sameIgnoringCase, beq_iff_eq, hlower _ h] at hsame
    rw [String.lt_iff, ← hsame]
    exact not_map_lowerChar_lt key.toList
  · rw [h]
    exact String.lt_irrefl key

/-! ## Folding -/

/-- The value that a field takes from the members of an object: that of its exact name if it
occurs, else that of the greatest key, by its bytes, that spells the name in another letter case,
and nothing if there is none. Of equal keys the last one counts. -/
inductive Selects (name : String) (members : List (String × Value)) : Option Value → Prop
  | exact {v : Value} : Last (· = name) members name v → Selects name members (some v)
  | folded {key : String} {v : Value} : (∀ m ∈ members, m.1 ≠ name) →
      sameIgnoringCase key name = true →
      (∀ m ∈ members, sameIgnoringCase m.1 name = true →
        encode m.1.toList ≤ encode key.toList) →
      Last (· = key) members key v → Selects name members (some v)
  | absent : (∀ m ∈ members, sameIgnoringCase m.1 name = false) → Selects name members none

/-- A visit leaves a value among the exact members if the key is a field name. -/
theorem getElem?_exact_visit (f : Folding) (k : String) (v : Value) (key : String) :
    (f.visit k v).exact[key]? = if k = key ∧ k ∈ fieldNames then some v else f.exact[key]? := by
  simp only [Folding.visit, mem_fieldNames_iff]
  cases hk : fieldName? k with
  | none => simp
  | some name =>
    by_cases he : k = name
    · simp [he, getElem?_insert]
    · simp [he, Ne.symm he]

/-- A visit leaves a value among the others, under the key after folding, if it is no field name. -/
theorem getElem?_folded_visit (f : Folding) (k : String) (v : Value) (key : String) :
    (f.visit k v).folded[key]? =
      if canonicalKey k = key ∧ k ∉ fieldNames then some v else f.folded[key]? := by
  simp only [Folding.visit, mem_fieldNames_iff, canonicalKey]
  cases hk : fieldName? k with
  | none => simp [getElem?_insert]
  | some name =>
    by_cases he : k = name
    · simp [he]
    · simp [he, Ne.symm he, getElem?_insert]

/-- Among the exact members is the last value of each field name. -/
theorem last_exact (key : String) (members : List (String × Value)) :
    (∃ v, Last (fun k => k = key ∧ k ∈ fieldNames) members key v ∧
        (members.foldl (fun (f : Folding) m => f.visit m.1 m.2) {}).exact[key]? = some v) ∨
      ((∀ m ∈ members, ¬ (m.1 = key ∧ m.1 ∈ fieldNames)) ∧
        (members.foldl (fun (f : Folding) m => f.visit m.1 m.2) {}).exact[key]? = none) := by
  have hstep (f : Folding) (k : String) (v : Value) := getElem?_exact_visit f k v key
  rcases last_of_foldl Folding.visit (fun f => f.exact[key]?) hstep members {} with
    ⟨k, v, hl, hget⟩ | ⟨hnone, hget⟩
  · obtain rfl := hl.1.1
    exact Or.inl ⟨v, hl, hget⟩
  · exact Or.inr ⟨hnone, hget.trans Std.TreeMap.getElem?_emptyc⟩

/-- Among the others is the last value whose key is folded to the given one. -/
theorem last_folded (key : String) (members : List (String × Value)) :
    (∃ k v, Last (fun k => canonicalKey k = key ∧ k ∉ fieldNames) members k v ∧
        (members.foldl (fun (f : Folding) m => f.visit m.1 m.2) {}).folded[key]? = some v) ∨
      ((∀ m ∈ members, ¬ (canonicalKey m.1 = key ∧ m.1 ∉ fieldNames)) ∧
        (members.foldl (fun (f : Folding) m => f.visit m.1 m.2) {}).folded[key]? = none) := by
  have hstep (f : Folding) (k : String) (v : Value) := getElem?_folded_visit f k v key
  rcases last_of_foldl Folding.visit (fun f => f.folded[key]?) hstep members {} with
    hsome | ⟨hnone, hget⟩
  · exact Or.inl hsome
  · exact Or.inr ⟨hnone, hget.trans Std.TreeMap.getElem?_emptyc⟩

/-- The exact members are put over the others. -/
theorem getElem?_join (f : Folding) (name : String) :
    f.join[name]? = f.exact[name]?.or f.folded[name]? := by
  unfold Folding.join
  rw [Std.TreeMap.foldl_eq_foldl_toList]
  rcases last_of_insert name f.exact.toList f.folded with ⟨v, hl, hget⟩ | ⟨hnone, hget⟩
  · rw [hget, Std.TreeMap.mem_toList_iff_getElem?_eq_some.1 (mem_of_last hl), Option.some_or]
  · have hexact : f.exact[name]? = none := by
      rw [Option.eq_none_iff_forall_ne_some]
      intro v hv
      exact hnone (name, v) (Std.TreeMap.mem_toList_iff_getElem?_eq_some.2 hv) rfl
    rw [hget, hexact, Option.none_or]

/-- The keys of a map are visited in ascending order: the last one with a property is greatest. -/
theorem le_of_last_toList {p : String → Prop} {m : Members} {k : String} {v : Value}
    (h : Last p m.toList k v) {k' : String} {v' : Value} (hm : m[k']? = some v') (hp : p k') :
    ¬ k < k' := by
  obtain ⟨-, before, after, he, ha⟩ := h
  have hsorted : m.toList.Pairwise fun a b => compare a.1 b.1 = .lt :=
    Std.TreeMap.ordered_keys_toList
  have hmem := Std.TreeMap.mem_toList_iff_getElem?_eq_some.2 hm
  rw [he] at hsorted hmem
  intro hlt
  rcases List.mem_append.1 hmem with hb | hb
  · have hlt' := (List.pairwise_append.1 hsorted).2.2 _ hb _ (List.mem_cons_self ..)
    exact String.lt_asymm hlt (compareOfLessAndEq_eq_lt.1 hlt')
  · rcases List.mem_cons.1 hb with hb | hb
    · cases hb
      exact String.lt_irrefl _ hlt
    · exact ha _ hb hp

theorem mem_toList_ofList {members : List (String × Value)} {key : String} {v : Value} :
    (key, v) ∈ (Members.ofList members).toList ↔ Last (· = key) members key v := by
  rw [Std.TreeMap.mem_toList_iff_getElem?_eq_some]
  rcases last_of_ofList key members with ⟨v', hl, hget⟩ | ⟨hnone, hget⟩
  · rw [hget, Option.some.injEq]
    constructor
    · rintro rfl
      exact hl
    · exact fun h => (last_unique hl h).2
  · rw [hget]
    exact iff_of_false (by simp) fun h => hnone _ (mem_of_last h) rfl

theorem exists_mem_toList_ofList {members : List (String × Value)} {m : String × Value}
    (h : m ∈ members) : ∃ v, (m.1, v) ∈ (Members.ofList members).toList := by
  rcases last_of_ofList m.1 members with ⟨v, hl, -⟩ | ⟨hnone, -⟩
  · exact ⟨v, mem_toList_ofList.2 hl⟩
  · exact absurd rfl (hnone m h)

/-- Folding gives each field the value that it is to take. -/
theorem selects_foldKeys {name : String} (h : name ∈ fieldNames)
    (members : List (String × Value)) :
    Selects name members (foldKeys (Members.ofList members))[name]? := by
  rw [foldKeys, foldVisited, getElem?_join]
  rcases last_exact name (Members.ofList members).toList with ⟨v, hl, hget⟩ | ⟨hnone, hget⟩
  · rw [hget, Option.some_or]
    exact Selects.exact (mem_toList_ofList.1 (mem_of_last hl))
  have hexact : ∀ m ∈ members, m.1 ≠ name := by
    rintro m hm rfl
    obtain ⟨v, hv⟩ := exists_mem_toList_ofList hm
    exact hnone (m.1, v) hv ⟨rfl, h⟩
  -- a key that varies the name is no field name itself, which would be folded to itself
  have hvaries : ∀ m ∈ members, sameIgnoringCase m.1 name = true →
      canonicalKey m.1 = name ∧ m.1 ∉ fieldNames := by
    intro m hm hsame
    have hkey := (canonicalKey_eq_iff h).2 hsame
    exact ⟨hkey, fun hmem => hexact m hm ((canonicalKey_of_mem hmem).symm.trans hkey)⟩
  rw [hget, Option.none_or]
  rcases last_folded name (Members.ofList members).toList with ⟨k, v, hl, hget⟩ | ⟨hvar, hget⟩
  · rw [hget]
    refine Selects.folded hexact ((canonicalKey_eq_iff h).1 hl.1.1) ?_
      (mem_toList_ofList.1 (mem_of_last hl))
    intro m hm hsame hlt
    obtain ⟨v', hv'⟩ := exists_mem_toList_ofList hm
    exact le_of_last_toList hl (Std.TreeMap.mem_toList_iff_getElem?_eq_some.1 hv')
      (hvaries m hm hsame) (encode_lt_encode.1 hlt)
  · rw [hget]
    refine Selects.absent fun m hm => Bool.eq_false_iff.2 fun hsame => ?_
    obtain ⟨v', hv'⟩ := exists_mem_toList_ofList hm
    exact hvar _ hv' (hvaries m hm hsame)

/-- The exact name is taken wherever it occurs, whatever else occurs. -/
theorem selects_exact {name : String} {members : List (String × Value)} {o : Option Value}
    (h : Selects name members o) {m : String × Value} (hm : m ∈ members) (he : m.1 = name) :
    ∃ v, o = some v ∧ Last (· = name) members name v := by
  cases h with
  | exact hl => exact ⟨_, rfl, hl⟩
  | folded hnone _ _ _ => exact absurd he (hnone m hm)
  | absent hnone =>
    have := hnone m hm
    rw [he, sameIgnoringCase_self] at this
    exact absurd this (by simp)

/-- A field takes one value: of two greatest keys each is at most the other. -/
theorem selects_unique {name : String} {members : List (String × Value)} {o o' : Option Value}
    (h : Selects name members o) (h' : Selects name members o') : o = o' := by
  cases h with
  | exact hl =>
    obtain ⟨v, rfl, hl'⟩ := selects_exact h' (mem_of_last hl) rfl
    exact congrArg some (last_unique hl hl').2
  | @folded key v hnone hsame hmax hl =>
    cases h' with
    | exact hl' => exact absurd rfl (hnone _ (mem_of_last hl'))
    | @folded key' v' _ hsame' hmax' hl' =>
      have hle := hmax _ (mem_of_last hl') hsame'
      have hge := hmax' _ (mem_of_last hl) hsame
      have hkey : key = key' := String.toList_inj.1 (encode_injective (List.le_antisymm hge hle))
      subst hkey
      exact congrArg some (last_unique hl hl').2
    | absent hnone' =>
      rw [hnone' _ (mem_of_last hl)] at hsame
      cases hsame
  | absent hnone =>
    cases h' with
    | exact hl' => exact absurd (hnone _ (mem_of_last hl')) (by simp [sameIgnoringCase_self])
    | folded _ hsame' _ hl' =>
      rw [hnone _ (mem_of_last hl')] at hsame'
      cases hsame'
    | absent _ => rfl

end LoginService.Login

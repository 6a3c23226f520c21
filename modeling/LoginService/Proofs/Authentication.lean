import LoginService.Authentication
import LoginService.Proofs.Store

/-!
# Which account a credential names

If several accounts have a credential, the one with the lowest id wins, and of those the first.
A table in memory sorts what it gives, but the sort is stable and changes nothing about the winner:
over a table it is the record that was inserted first among those with the lowest matching id.
-/

namespace LoginService

/-! ## The first account with the lowest id -/

/-- An account has the lowest id of all, and no account before it has the same one. -/
structure Lowest (users : List LoginUser) (u : LoginUser) : Prop where
  le : ∀ v ∈ users, u.id ≤ v.id
  first : users.find? (fun v => v.id == u.id) = some u

namespace Lowest

variable {users : List LoginUser} {u v : LoginUser}

theorem mem (h : Lowest users u) : u ∈ users :=
  List.mem_of_find?_eq_some h.first

/-- Two accounts cannot both be the first of the lowest id. -/
theorem unique (hu : Lowest users u) (hv : Lowest users v) : u = v := by
  have same : u.id = v.id := Int64.le_antisymm (hu.le v hv.mem) (hv.le u hu.mem)
  have found := hu.first
  rw [same, hv.first] at found
  exact (Option.some.inj found).symm

/-- An account goes in front of those behind it if its id is at most that of their winner. -/
theorem cons_self (h : Lowest users v) (le : u.id ≤ v.id) : Lowest (u :: users) u where
  le w hw := by
    rcases List.mem_cons.mp hw with rfl | hw
    · exact Int64.le_refl w.id
    · exact Int64.le_trans le (h.le w hw)
  first := by simp only [List.find?_cons, beq_self_eq_true]

/-- The winner of a list stays the winner if an account with a greater id is put in front. -/
theorem cons (h : Lowest users v) (lt : v.id < u.id) : Lowest (u :: users) v where
  le w hw := by
    rcases List.mem_cons.mp hw with rfl | hw
    · exact Int64.le_of_lt lt
    · exact h.le w hw
  first := by
    have other : (u.id == v.id) = false := beq_false_of_ne (Int64.ne_of_lt lt).symm
    simp only [List.find?_cons, other, h.first]

end Lowest

theorem lowestId?_eq_none {users : List LoginUser} : lowestId? users = none ↔ users = [] := by
  constructor
  · intro none
    cases users with
    | nil => rfl
    | cons u rest =>
      rw [lowestId?] at none
      split at none
      · cases none
      · split at none <;> cases none
  · rintro rfl
    rfl

theorem lowest_of_lowestId? {users : List LoginUser} {u : LoginUser}
    (h : lowestId? users = some u) : Lowest users u := by
  induction users generalizing u with
  | nil => cases h
  | cons v rest ih =>
    rw [lowestId?] at h
    cases hrest : lowestId? rest with
    | none =>
      rw [hrest] at h
      cases h
      cases lowestId?_eq_none.mp hrest
      refine ⟨fun w hw => ?_, by simp only [List.find?_cons, beq_self_eq_true]⟩
      rw [List.mem_singleton.mp hw]
      exact Int64.le_refl v.id
    | some w =>
      rw [hrest] at h
      by_cases le : v.id ≤ w.id
      · simp only [le, if_true, Option.some.injEq] at h
        subst h
        exact (ih hrest).cons_self le
      · simp only [le, if_false, Option.some.injEq] at h
        subst h
        exact (ih hrest).cons (Int64.not_le.mp le)

/-- The first account with the lowest id is found, and nothing else is. -/
theorem lowestId?_eq_some {users : List LoginUser} {u : LoginUser} :
    lowestId? users = some u ↔ Lowest users u := by
  refine ⟨lowest_of_lowestId?, fun h => ?_⟩
  cases hl : lowestId? users with
  | none =>
    have member := h.mem
    rw [lowestId?_eq_none.mp hl] at member
    cases member
  | some v => exact congrArg some ((lowest_of_lowestId? hl).unique h)

/-! ## The check of a credential -/

section
variable {store : Store} {c : Credential}

theorem authenticate_of_ok {users : List LoginUser} (h : (store.lookup c).result = .ok users) :
    authenticate store c =
      ⟨.ok (.ofUsers users), (store.lookup c).store,
        (store.lookup c).events ++ severalAccounts c users, (store.lookup c).statements⟩ := by
  simp only [authenticate, h]

theorem authenticate_of_error {e : StoreError} (h : (store.lookup c).result = .error e) :
    authenticate store c =
      ⟨.error e, (store.lookup c).store, (store.lookup c).events,
        (store.lookup c).statements⟩ := by
  simp only [authenticate, h]

end

/-! ## The winner over a table -/

/-- A record of a table has a credential and the lowest id among those that have it; those
inserted before it have greater ids. -/
def Wins (records : List UserRecord) (c : Credential) (r : UserRecord) : Prop :=
  ∃ before after, records = before ++ r :: after
    ∧ (r.logname = c.loginName ∧ r.logpassword = c.password)
    ∧ (∀ o ∈ before, o.logname = c.loginName ∧ o.logpassword = c.password → r.id < o.id)
    ∧ ∀ o ∈ after, o.logname = c.loginName ∧ o.logpassword = c.password → r.id ≤ o.id

variable {records : List UserRecord} {c : Credential}

theorem wins_of_lowest {u : LoginUser} (h : Lowest (matching records c) u) :
    ∃ r, Wins records c r ∧ r.toUser = u := by
  have found := h.first
  rw [find?_matching] at found
  obtain ⟨r, hr, rfl⟩ := Option.map_eq_some_iff.mp found
  obtain ⟨ok, before, after, split, none⟩ := List.find?_eq_some_iff_append.mp hr
  simp only [Bool.and_eq_true] at ok
  have le : ∀ o ∈ records, o.logname = c.loginName ∧ o.logpassword = c.password → r.id ≤ o.id := by
    intro o ho texts
    exact h.le o.toUser (mem_matching.mpr ⟨o, ho, UserRecord.accepts_iff.mpr texts, rfl⟩)
  refine ⟨r, ⟨before, after, split, UserRecord.accepts_iff.mp ok.1, fun o ho texts => ?_,
    fun o ho texts => ?_⟩, rfl⟩
  · have fails := none o ho
    simp only [UserRecord.accepts_iff.mpr texts, Bool.true_and, Bool.not_eq_true',
      beq_eq_false_iff_ne] at fails
    exact Int64.lt_of_le_of_ne (le o (split ▸ List.mem_append_left _ ho) texts) (Ne.symm fails)
  · exact le o (split ▸ List.mem_append_right _ (List.mem_cons_of_mem _ ho)) texts

theorem lowest_of_wins {r : UserRecord} (h : Wins records c r) :
    Lowest (matching records c) r.toUser := by
  obtain ⟨before, after, rfl, texts, earlier, later⟩ := h
  constructor
  · intro v hv
    obtain ⟨o, ho, ok, rfl⟩ := mem_matching.mp hv
    have same := UserRecord.accepts_iff.mp ok
    rcases List.mem_append.mp ho with ho | ho
    · exact Int64.le_of_lt (earlier o ho same)
    · rcases List.mem_cons.mp ho with rfl | ho
      · exact Int64.le_refl o.id
      · exact later o ho same
  · rw [find?_matching]
    refine congrArg (Option.map UserRecord.toUser) (List.find?_eq_some_iff_append.mpr
      ⟨?_, before, after, rfl, fun o ho => ?_⟩)
    · simp only [UserRecord.accepts_iff.mpr texts, UserRecord.toUser, beq_self_eq_true,
        Bool.and_self]
    · cases ok : o.accepts c with
      | false => rfl
      | true =>
        have other := Int64.ne_of_lt (earlier o ho (UserRecord.accepts_iff.mp ok))
        simp only [UserRecord.toUser, Bool.true_and, Bool.not_eq_true']
        exact beq_false_of_ne (Ne.symm other)

/-- A credential that some record has is won by a record. -/
theorem exists_wins {r : UserRecord} (mem : r ∈ records)
    (texts : r.logname = c.loginName ∧ r.logpassword = c.password) :
    ∃ w, Wins records c w := by
  cases h : lowestId? (matching records c) with
  | none =>
    have member := mem_matching.mpr ⟨r, mem, UserRecord.accepts_iff.mpr texts, rfl⟩
    rw [lowestId?_eq_none.mp h] at member
    cases member
  | some u =>
    obtain ⟨w, wins, -⟩ := wins_of_lowest (lowest_of_lowestId? h)
    exact ⟨w, wins⟩

end LoginService

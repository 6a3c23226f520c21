import LoginService.Store

/-!
# The accounts that a lookup gives

A table in memory answers a lookup with the accounts that have the credential, sorted by their
ids. The sort is stable, so among accounts of one id the order of insertion survives, and taking
the accounts of one id before or after the sort gives the same list. `Lists` says what a lookup owes
without saying how it is found; there is only one such list.
-/

namespace LoginService

/-! ## Sorting by id -/

/-- Whether one account may stand before another. -/
def LoginUser.before (a b : LoginUser) : Bool := a.id ≤ b.id

theorem LoginUser.before_trans (a b c : LoginUser) (hab : a.before b = true)
    (hbc : b.before c = true) : a.before c = true := by
  simp only [LoginUser.before, decide_eq_true_eq] at *
  exact Int64.le_trans hab hbc

theorem LoginUser.before_total (a b : LoginUser) : (a.before b || b.before a) = true := by
  simp only [LoginUser.before, Bool.or_eq_true, decide_eq_true_eq]
  exact Int64.le_total a.id b.id

theorem sortById_perm (users : List LoginUser) : (sortById users).Perm users :=
  List.mergeSort_perm users _

@[simp] theorem mem_sortById {users : List LoginUser} {u : LoginUser} :
    u ∈ sortById users ↔ u ∈ users :=
  (sortById_perm users).mem_iff

/-- **The sort is stable**: the accounts of one id keep the order they had. -/
theorem filter_sortById (users : List LoginUser) (id : Int64) :
    (sortById users).filter (fun u => u.id == id) = users.filter (fun u => u.id == id) := by
  have ordered : (users.filter (fun u => u.id == id)).Pairwise (fun a b => a.before b = true) := by
    refine List.pairwise_filter.mpr (List.pairwise_of_forall fun a b ha hb => ?_)
    have same : a.id = b.id := (beq_iff_eq.mp ha).trans (beq_iff_eq.mp hb).symm
    simp only [LoginUser.before, same, decide_eq_true_eq]
    exact Int64.le_refl b.id
  -- the accounts of one id are in order already, so they survive the sort as they stand
  have kept : (users.filter (fun u => u.id == id)).Sublist (sortById users) :=
    List.sublist_mergeSort LoginUser.before_trans LoginUser.before_total ordered
      List.filter_sublist
  have inside := kept.filter (fun u => u.id == id)
  rw [List.filter_filter] at inside
  simp only [Bool.and_self] at inside
  exact (inside.eq_of_length ((sortById_perm users).filter _).length_eq.symm).symm

/-! ## Matching accounts -/

theorem UserRecord.accepts_iff {r : UserRecord} {c : Credential} :
    r.accepts c = true ↔ r.logname = c.loginName ∧ r.logpassword = c.password := by
  simp only [UserRecord.accepts, Bool.and_eq_true, beq_iff_eq]

/-- The accounts given for a credential are those whose two texts are equal to it. -/
theorem mem_matching {records : List UserRecord} {c : Credential} {u : LoginUser} :
    u ∈ matching records c ↔ ∃ r ∈ records, r.accepts c = true ∧ r.toUser = u := by
  simp only [matching, mem_sortById, List.mem_map, List.mem_filter, and_assoc]

theorem matching_eq_nil {records : List UserRecord} {c : Credential} :
    matching records c = [] ↔ ∀ r ∈ records, ¬ r.accepts c = true := by
  rw [List.eq_nil_iff_forall_not_mem]
  constructor
  · intro none r hr ok
    exact none r.toUser (mem_matching.mpr ⟨r, hr, ok, rfl⟩)
  · intro none u hu
    obtain ⟨r, hr, ok, -⟩ := mem_matching.mp hu
    exact none r hr ok

/-- The first account of one id among those given is the first record of that id and credential. -/
theorem find?_matching (records : List UserRecord) (c : Credential) (id : Int64) :
    (matching records c).find? (fun u => u.id == id)
      = (records.find? (fun r => r.accepts c && r.id == id)).map UserRecord.toUser := by
  have sorted := congrArg List.head?
    (filter_sortById ((records.filter (fun r => r.accepts c)).map UserRecord.toUser) id)
  rw [List.head?_filter, List.head?_filter] at sorted
  rw [matching, sorted, List.find?_map, List.find?_filter]
  congr 2
  funext r
  exact (Bool.eq_iff_iff.mpr (decide_eq_true_iff.trans Bool.and_eq_true_iff.symm))

/-! ## All that a lookup gives -/

/-- Accounts list the records with a credential: the projections of those records and of no others,
each as often as it occurs among them, ascending by id, those of one id in the order of the
records. -/
structure Lists (records : List UserRecord) (c : Credential) (users : List LoginUser) : Prop where
  perm : users.Perm ((records.filter fun r =>
    r.logname = c.loginName ∧ r.logpassword = c.password).map UserRecord.toUser)
  ascending : users.Pairwise fun a b => a.id ≤ b.id
  stable : ∀ id : Int64, (users.filter fun u => u.id == id)
    = ((records.filter fun r =>
        r.logname = c.loginName ∧ r.logpassword = c.password).filter fun r => r.id == id).map
          UserRecord.toUser

namespace Lists

variable {records : List UserRecord} {c : Credential} {users users' : List LoginUser}

theorem head_le {u v : LoginUser} {rest : List LoginUser}
    (h : (u :: rest).Pairwise fun a b => a.id ≤ b.id) (hv : v ∈ u :: rest) : u.id ≤ v.id := by
  rcases List.mem_cons.mp hv with rfl | hrest
  · exact Int64.le_refl v.id
  · exact (List.pairwise_cons.mp h).1 v hrest

theorem mem_iff_of_filter
    (hparts : ∀ id : Int64,
      (users.filter fun u => u.id == id) = users'.filter fun u => u.id == id) (u : LoginUser) :
    u ∈ users ↔ u ∈ users' := by
  have hu := congrArg (u ∈ ·) (hparts u.id)
  simpa using hu

/-- A list in the order of ids is known from the parts of it that have one id. -/
theorem eq_of_filter (h : users.Pairwise fun a b => a.id ≤ b.id)
    (h' : users'.Pairwise fun a b => a.id ≤ b.id)
    (hparts : ∀ id : Int64,
      (users.filter fun u => u.id == id) = users'.filter fun u => u.id == id) :
    users = users' := by
  induction users generalizing users' with
  | nil =>
    have hnone : users' = [] := by
      rw [List.eq_nil_iff_forall_not_mem]
      intro v hv
      exact absurd ((mem_iff_of_filter hparts v).mpr hv) List.not_mem_nil
    exact hnone.symm
  | cons u rest ih =>
    cases users' with
    | nil => exact absurd ((mem_iff_of_filter hparts u).mp List.mem_cons_self) List.not_mem_nil
    | cons v rest' =>
      have hmem := mem_iff_of_filter hparts
      -- each of the two heads is in the other list, so they have one id
      have huv : u.id ≤ v.id := head_le h ((hmem v).mpr List.mem_cons_self)
      have hvu : v.id ≤ u.id := head_le h' ((hmem u).mp List.mem_cons_self)
      have hid : v.id = u.id := Int64.le_antisymm hvu huv
      have hheads := hparts u.id
      simp only [List.filter_cons, hid, beq_self_eq_true, if_true, List.cons.injEq] at hheads
      obtain ⟨rfl, hrests⟩ := hheads
      have hrest : ∀ id : Int64,
          (rest.filter fun w => w.id == id) = rest'.filter fun w => w.id == id := by
        intro id
        by_cases hu : u.id = id
        · rw [← hu]
          exact hrests
        · have htails := hparts id
          simpa only [List.filter_cons, beq_false_of_ne hu, Bool.false_eq_true, if_false]
            using htails
      rw [ih h.of_cons h'.of_cons hrest]

/-- Records with a credential are listed in one way only. -/
theorem unique (h : Lists records c users) (h' : Lists records c users') : users = users' :=
  eq_of_filter h.ascending h'.ascending fun id => (h.stable id).trans (h'.stable id).symm

end Lists

theorem accepts_eq_decide (r : UserRecord) (c : Credential) :
    r.accepts c = decide (r.logname = c.loginName ∧ r.logpassword = c.password) := by
  rw [Bool.eq_iff_iff, decide_eq_true_iff]
  exact UserRecord.accepts_iff

theorem sortById_ascending (users : List LoginUser) :
    (sortById users).Pairwise fun a b => a.id ≤ b.id := by
  have hsorted := List.pairwise_mergeSort LoginUser.before_trans LoginUser.before_total users
  exact hsorted.imp fun h => of_decide_eq_true h

/-- What a table finds for a credential lists its records. -/
theorem lists_matching (records : List UserRecord) (c : Credential) :
    Lists records c (matching records c) := by
  have hfilter : (records.filter fun r => r.accepts c)
      = records.filter fun r => r.logname = c.loginName ∧ r.logpassword = c.password := by
    simp only [accepts_eq_decide]
  refine ⟨?_, sortById_ascending _, ?_⟩
  · rw [← hfilter]
    exact sortById_perm _
  · intro id
    have hstable := filter_sortById ((records.filter fun r => r.accepts c).map UserRecord.toUser) id
    rw [List.filter_map, hfilter] at hstable
    rw [matching, hfilter]
    exact hstable

end LoginService

/-!
# One member in place of another

A record that is read member by member is made of a state in the end. Where the value of a key goes
into the state apart from all others, and shows in the record at one place (`IsComponent`), the
record that is read with another value differs from the first one at that place only, and there is
none if the other value is refused (`IsComponent.read_replace`).
-/

namespace LoginService

variable {σ V α β : Type}

/-- Members are read one by one with `step`, and the record is made with `build`. Of the value of a
key counts what `value` makes of it; this is `put` into the state, and `set` makes the record with
another one in its place. -/
structure IsComponent (step : σ → String × V → Option σ) (build : σ → Option α) (key : String)
    (value : V → Option β) (put : β → σ → σ) (set : β → α → α) : Prop where
  /-- Where a state takes the key, what matters of its value is what is made of it. -/
  at_key : ∀ s, (∀ v, step s (key, v) = none) ∨
    ∀ v, step s (key, v) = (value v).map fun b => put b s
  apart : ∀ s b m, m.1 ≠ key → step (put b s) m = (step s m).map (put b)
  built : ∀ s b a, build (put b s) = some a → ∀ b', build (put b' s) = some (set b' a)

namespace IsComponent

variable {step : σ → String × V → Option σ} {build : σ → Option α} {key : String}
  {value : V → Option β} {put : β → σ → σ} {set : β → α → α}
  (h : IsComponent step build key value put set)
  {before after ms : List (String × V)} {s : σ} {b : β} {v : V} {a : α}
include h

/-- Members of other keys are read alike whatever has been put into the state. -/
theorem foldlM_put (hms : ∀ m ∈ ms, m.1 ≠ key) (s : σ) (b : β) :
    ms.foldlM step (put b s) = (ms.foldlM step s).map (put b) := by
  induction ms generalizing s with
  | nil => rfl
  | cons m ms ih =>
    rw [List.foldlM_cons, List.foldlM_cons, h.apart s b m (hms m List.mem_cons_self)]
    cases step s m with
    | none => rfl
    | some t => exact ih (fun m' hm' => hms m' (List.mem_cons_of_mem m hm')) t

/-- Where a key that has been read is refused, it does not occur again. -/
theorem ne_of_foldlM (hrepeated : ∀ s b v, step (put b s) (key, v) = none)
    (hfold : (ms.foldlM step (put b s)).isSome) : ∀ m ∈ ms, m.1 ≠ key := by
  induction ms generalizing s with
  | nil => exact nofun
  | cons m ms ih =>
    rw [List.foldlM_cons] at hfold
    have hm : m.1 ≠ key := by
      rintro rfl
      rw [hrepeated s b m.2] at hfold
      cases hfold
    rw [h.apart s b m hm] at hfold
    cases ht : step s m with
    | none =>
      rw [ht] at hfold
      cases hfold
    | some t =>
      rw [ht] at hfold
      exact List.forall_mem_cons.mpr ⟨hm, ih hfold⟩

/-- What was read up to a member, of which something was made in the end. -/
theorem exists_of_read
    (hread : ((before ++ (key, v) :: after).foldlM step s).bind build = some a) :
    ∃ t b, before.foldlM step s = some t ∧ value v = some b ∧
      (∀ w, step t (key, w) = (value w).map fun b => put b t) ∧
      (after.foldlM step (put b t)).bind build = some a := by
  rw [List.foldlM_append] at hread
  cases ht : before.foldlM step s with
  | none =>
    rw [ht] at hread
    cases hread
  | some t =>
    rw [ht] at hread
    replace hread :
        ((step t (key, v)).bind fun t => after.foldlM step t).bind build = some a := hread
    rcases h.at_key t with hnone | hsome
    · rw [hnone v] at hread
      cases hread
    · rw [hsome v] at hread
      cases hb : value v with
      | none =>
        rw [hb] at hread
        cases hread
      | some b =>
        rw [hb] at hread
        exact ⟨t, b, rfl, rfl, hsome, hread⟩

/-- If members are read as a record, no key that is refused when repeated occurs twice. -/
theorem ne_of_read (hrepeated : ∀ s b v, step (put b s) (key, v) = none)
    (hread : ((before ++ (key, v) :: after).foldlM step s).bind build = some a) :
    ∀ m ∈ after, m.1 ≠ key := by
  obtain ⟨t, b, -, -, -, hread⟩ := h.exists_of_read hread
  obtain ⟨u, hu, -⟩ := Option.bind_eq_some_iff.mp hread
  exact h.ne_of_foldlM hrepeated (Option.isSome_of_mem hu)

/-- **What is read with another value at one place.** -/
theorem read_replace (hafter : ∀ m ∈ after, m.1 ≠ key)
    (hread : ((before ++ (key, v) :: after).foldlM step s).bind build = some a) :
    ∃ b, value v = some b ∧ set b a = a ∧
      ∀ w, ((before ++ (key, w) :: after).foldlM step s).bind build
        = (value w).map fun b => set b a := by
  obtain ⟨t, b, ht, hb, hsome, hread⟩ := h.exists_of_read hread
  obtain ⟨u, hu, hbuild⟩ := Option.bind_eq_some_iff.mp hread
  rw [h.foldlM_put hafter] at hu
  obtain ⟨d, hd, rfl⟩ := Option.map_eq_some_iff.mp hu
  have hset := h.built d b a hbuild
  refine ⟨b, hb, Option.some.inj ((hset b).symm.trans hbuild), ?_⟩
  intro w
  rw [List.foldlM_append, ht]
  show ((step t (key, w)).bind fun t => after.foldlM step t).bind build = _
  rw [hsome w]
  cases value w with
  | none => rfl
  | some b' =>
    show (after.foldlM step (put b' t)).bind build = some (set b' a)
    rw [h.foldlM_put hafter, hd]
    exact hset b'

end IsComponent

end LoginService

import LoginService.Drain

/-!
# How long a server is drained

A server that drains is looked at whenever it is woken. Until the signal comes, a look is one at the
server and one at the signal, in either order; from then on it is one at the server and one at the
end of the window, in this order. `Draining.poll` is such a look and `polled` a sequence of them.

`drain` gives the result at once, from the instants at which things happen. `drain_eq_some` says
which result that is: the output of the server if it is ready by the end of the window after the
signal, and nothing otherwise, at that end. Looking leads to the same result in any order, as long
as no instant is slept through at which something happens. Neither says anything about which of two
things that happen at once is looked at first, and the result does not depend on it.
-/

namespace LoginService

variable {α : Type} {server : Option (Ready α)} {shutdown : Option Nat} {window : Nat}

/-! ## The result of draining -/

/-- What comes of draining a server. -/
inductive Drains (server : Option (Ready α)) (shutdown : Option Nat) (window : Nat) :
    Drained α → Prop
  /-- The server is ready, and if there is a signal then by the end of the window after it. -/
  | finished {i : Nat} {v : α} : server = some ⟨i, v⟩ →
      (∀ t, shutdown = some t → i ≤ t + window) → Drains server shutdown window ⟨some v, i⟩
  /-- The window after the signal ends and the server is not ready by then. -/
  | expired {t : Nat} : shutdown = some t → (∀ r, server = some r → t + window < r.instant) →
      Drains server shutdown window ⟨none, t + window⟩

theorem Drains.unique {d d' : Drained α} (h : Drains server shutdown window d)
    (h' : Drains server shutdown window d') : d = d' := by
  cases h with
  | finished hs ht =>
    cases h' with
    | finished hs' _ =>
      cases hs.symm.trans hs'
      rfl
    | expired ht' hlate => exact absurd (ht _ ht') (Nat.not_le.mpr (hlate _ hs))
  | expired ht hlate =>
    cases h' with
    | finished hs' ht' => exact absurd (ht' _ ht) (Nat.not_le.mpr (hlate _ hs'))
    | expired ht' _ =>
      cases ht.symm.trans ht'
      rfl

/-- A longer window changes nothing about a server that was ready in time. -/
theorem Drains.of_le {window' : Nat} (hle : window ≤ window') {v : α} {i : Nat}
    (h : Drains server shutdown window ⟨some v, i⟩) :
    Drains server shutdown window' ⟨some v, i⟩ := by
  cases h with
  | finished hs ht =>
    refine .finished hs ?_
    intro t hshutdown
    exact Nat.le_trans (ht t hshutdown) (Nat.add_le_add_left hle t)

/-- A server that is not ready before the signal is given the window. -/
theorem drains_awaitWithin {t : Nat} (hshutdown : shutdown = some t)
    (hserver : ∀ r, server = some r → t ≤ r.instant) :
    Drains server shutdown window (awaitWithin server t window) := by
  unfold awaitWithin
  cases server with
  | none => exact .expired hshutdown nofun
  | some r =>
    have hle : t ≤ r.instant := hserver r rfl
    by_cases hin : r.instant ≤ t + window
    · simp only [if_pos hin, Nat.max_eq_right hle]
      refine .finished rfl ?_
      rintro t' rfl
      cases hshutdown
      exact hin
    · simp only [if_neg hin]
      refine .expired hshutdown ?_
      rintro r' ⟨⟩
      exact Nat.not_le.mp hin

/-- A server that is ready when the signal comes, or before, has its output. -/
theorem drains_ready {r : Ready α} (hserver : server = some r)
    (hshutdown : ∀ t, shutdown = some t → r.instant ≤ t) :
    Drains server shutdown window ⟨some r.value, r.instant⟩ := by
  refine .finished hserver ?_
  intro t ht
  exact Nat.le_add_right_of_le (hshutdown t ht)

/-- The server ends the race only if it is ready, and not after the signal. -/
theorem race_serverDone {order : RaceOrder} {r : Ready α}
    (h : race order server shutdown = some (.serverDone r)) :
    server = some r ∧ ∀ t, shutdown = some t → r.instant ≤ t := by
  unfold race at h
  grind

/-- The signal ends the race only if it comes, and not after the server is ready. -/
theorem race_shutdownAt {order : RaceOrder} {t : Nat}
    (h : race order server shutdown = some (.shutdownAt t)) :
    shutdown = some t ∧ ∀ r, server = some r → t ≤ r.instant := by
  unfold race at h
  grind

theorem drains_drain {order : RaceOrder} {d : Drained α}
    (h : drain order server shutdown window = some d) : Drains server shutdown window d := by
  obtain ⟨raceEnd, hrace, rfl⟩ := Option.map_eq_some_iff.mp h
  cases raceEnd with
  | serverDone r =>
    obtain ⟨hserver, hshutdown⟩ := race_serverDone hrace
    exact drains_ready hserver hshutdown
  | shutdownAt t =>
    obtain ⟨hshutdown, hserver⟩ := race_shutdownAt hrace
    exact drains_awaitWithin hshutdown hserver

/-- Draining goes on forever if and only if neither the server nor the signal ever comes. -/
theorem drain_eq_none {order : RaceOrder} :
    drain order server shutdown window = none ↔ server = none ∧ shutdown = none := by
  unfold drain race
  grind

/-- **The result of draining**, whatever is looked at first. -/
theorem drain_eq_some {order : RaceOrder} {d : Drained α} :
    drain order server shutdown window = some d ↔ Drains server shutdown window d := by
  refine ⟨drains_drain, ?_⟩
  intro h
  cases hd : drain order server shutdown window with
  | none =>
    obtain ⟨hserver, hshutdown⟩ := drain_eq_none.mp hd
    cases h with
    | finished hs _ => cases hserver.symm.trans hs
    | expired ht _ => cases hshutdown.symm.trans ht
  | some d' => rw [(drains_drain hd).unique h]

/-! ## Looking at the server -/

/-- The state of a server that is drained. -/
inductive Draining (α : Type) where
  /-- Neither the server nor the signal has been seen. -/
  | racing
  /-- The signal has been seen. -/
  | waiting (deadline : Nat)
  | ended (d : Drained α)

/-- What the server gives when it is looked at. -/
def output? (server : Option (Ready α)) (now : Nat) : Option α :=
  server.bind fun r => if r.instant ≤ now then some r.value else none

/-- Whether the signal is there when it is looked for. -/
def signalled (shutdown : Option Nat) (now : Nat) : Bool :=
  shutdown.any (· ≤ now)

namespace Draining

/-- Look at the server, and if it is not ready at the deadline. -/
def await (server : Option (Ready α)) (deadline now : Nat) : Draining α :=
  match output? server now with
  | some v => .ended ⟨some v, now⟩
  | none => if deadline ≤ now then .ended ⟨none, now⟩ else .waiting deadline

/-- One look. When the signal is seen, the window begins and the server is looked at again. -/
def poll (server : Option (Ready α)) (shutdown : Option Nat) (window now : Nat)
    (order : RaceOrder) : Draining α → Draining α
  | .racing =>
    match order with
    | .serverFirst =>
      match output? server now with
      | some v => .ended ⟨some v, now⟩
      | none => if signalled shutdown now then await server (now + window) now else .racing
    | .shutdownFirst =>
      if signalled shutdown now then await server (now + window) now
      else
        match output? server now with
        | some v => .ended ⟨some v, now⟩
        | none => .racing
  | .waiting deadline => await server deadline now
  | .ended d => .ended d

/-- The state in which draining stays: ended, or racing forever. -/
def ofResult : Option (Drained α) → Draining α
  | some d => .ended d
  | none => .racing

end Draining

/-- Look at the server at some instants, each time in an order of its own. -/
def polled (server : Option (Ready α)) (shutdown : Option Nat) (window : Nat)
    (wakes : List (Nat × RaceOrder)) (state : Draining α) : Draining α :=
  wakes.foldl (fun state wake => state.poll server shutdown window wake.1 wake.2) state

/-- Something happens at an instant. -/
inductive Due (server : Option (Ready α)) (shutdown : Option Nat) (window : Nat) : Nat → Prop
  | ready {r : Ready α} : server = some r → Due server shutdown window r.instant
  | signal {t : Nat} : shutdown = some t → Due server shutdown window t
  | deadline {t : Nat} : shutdown = some t → Due server shutdown window (t + window)

/-- The looks from an instant on are ordered in time, and there is one whenever something happens.
There may be more of them, also several at one instant. -/
structure Prompt (server : Option (Ready α)) (shutdown : Option Nat) (window start : Nat)
    (wakes : List (Nat × RaceOrder)) : Prop where
  ordered : wakes.Pairwise fun a b => a.1 ≤ b.1
  -- a state in which all before the start is seen may be that after a look just before it
  late : ∀ wake ∈ wakes, start ≤ wake.1 + 1
  complete : ∀ i, Due server shutdown window i → start ≤ i → ∃ order, (i, order) ∈ wakes

/-- A state in which all is seen that happens before an instant. -/
inductive Settled (server : Option (Ready α)) (shutdown : Option Nat) (window now : Nat) :
    Draining α → Prop
  | racing : (∀ r, server = some r → now ≤ r.instant) → (∀ t, shutdown = some t → now ≤ t) →
      Settled server shutdown window now .racing
  | waiting {t : Nat} : shutdown = some t → (∀ r, server = some r → now ≤ r.instant) →
      now ≤ t + window → Settled server shutdown window now (.waiting (t + window))
  | ended {d : Drained α} : Drains server shutdown window d →
      Settled server shutdown window now (.ended d)

/-- A server that is not ready before an instant gives nothing there, or is ready just then. -/
theorem output?_cases {now : Nat} (h : ∀ r, server = some r → now ≤ r.instant) :
    (output? server now = none ∧ ∀ r, server = some r → now < r.instant) ∨
      ∃ v, output? server now = some v ∧ server = some ⟨now, v⟩ := by
  cases server with
  | none => exact .inl ⟨rfl, nofun⟩
  | some r =>
    rcases Nat.eq_or_lt_of_le (h r rfl) with heq | hlt
    · refine .inr ⟨r.value, ?_, ?_⟩
      · simp only [output?, Option.bind_some, heq, Nat.le_refl, if_true]
      · rw [heq]
    · refine .inl ⟨?_, ?_⟩
      · simp only [output?, Option.bind_some, if_neg (Nat.not_le.mpr hlt)]
      · rintro _ ⟨⟩
        exact hlt

theorem signalled_eq_true {now : Nat} :
    signalled shutdown now = true ↔ ∃ t, shutdown = some t ∧ t ≤ now := by
  cases shutdown <;> simp [signalled]

/-- **One look within the window** sees what happens at its instant. -/
theorem settled_await {t now : Nat} (hshutdown : shutdown = some t)
    (hserver : ∀ r, server = some r → now ≤ r.instant) (hdeadline : now ≤ t + window) :
    Settled server shutdown window (now + 1) (Draining.await server (t + window) now) := by
  unfold Draining.await
  rcases output?_cases hserver with ⟨hnone, hlate⟩ | ⟨v, hsome, hready⟩
  · simp only [hnone]
    by_cases hover : t + window ≤ now
    · have hnow : now = t + window := Nat.le_antisymm hdeadline hover
      rw [if_pos hover]
      subst hnow
      exact .ended (.expired hshutdown hlate)
    · rw [if_neg hover]
      exact .waiting hshutdown hlate (Nat.not_le.mp hover)
  · simp only [hsome]
    refine .ended (.finished hready ?_)
    rintro t' rfl
    cases hshutdown
    exact hdeadline

/-- **One look** sees what happens at its instant, in whatever order it goes. -/
theorem settled_poll {state : Draining α} {start now : Nat} (order : RaceOrder)
    (h : Settled server shutdown window start state)
    (hdue : ∀ i, Due server shutdown window i → start ≤ i → now ≤ i) :
    Settled server shutdown window (now + 1) (state.poll server shutdown window now order) := by
  have hserver : (∀ r, server = some r → start ≤ r.instant) →
      ∀ r, server = some r → now ≤ r.instant :=
    fun hstart r hr => hdue _ (.ready hr) (hstart r hr)
  cases h with
  | ended hd => exact .ended hd
  | @waiting t hshutdown hready hdeadline =>
    exact settled_await hshutdown (hserver hready) (hdue _ (.deadline hshutdown) hdeadline)
  | racing hready hsignal =>
    -- the server finishes just now, in either order: the window is not over before it begins
    have hfinished : ∀ v, server = some ⟨now, v⟩ →
        Settled server shutdown window (now + 1) (.ended ⟨some v, now⟩) := by
      intro v hv
      exact .ended (drains_ready hv fun t ht => hdue _ (.signal ht) (hsignal t ht))
    by_cases hseen : signalled shutdown now = true
    · obtain ⟨t, hshutdown, ht⟩ := signalled_eq_true.mp hseen
      have hnow : now = t := Nat.le_antisymm (hdue _ (.signal hshutdown) (hsignal t hshutdown)) ht
      have hawait : Settled server shutdown window (now + 1)
          (Draining.await server (now + window) now) := by
        subst hnow
        exact settled_await hshutdown (hserver hready) (Nat.le_add_right now window)
      cases order with
      | serverFirst =>
        rcases output?_cases (hserver hready) with ⟨hnone, -⟩ | ⟨v, hsome, hv⟩
        · simpa only [Draining.poll, hnone, hseen, if_true] using hawait
        · simpa only [Draining.poll, hsome] using hfinished v hv
      | shutdownFirst => simpa only [Draining.poll, hseen, if_true] using hawait
    · have hracing : ∀ t, shutdown = some t → now < t := by
        intro t ht
        refine Nat.not_le.mp ?_
        intro hle
        exact hseen (signalled_eq_true.mpr ⟨t, ht, hle⟩)
      rcases output?_cases (hserver hready) with ⟨hnone, hlate⟩ | ⟨v, hsome, hv⟩
      · have hkept : Settled server shutdown window (now + 1) .racing := .racing hlate hracing
        cases order <;> simpa only [Draining.poll, hnone, if_neg hseen] using hkept
      · cases order <;> simpa only [Draining.poll, hsome, if_neg hseen] using hfinished v hv

/-- A state in which all is seen is the one that draining ends in. -/
theorem Settled.eq_ofResult {state : Draining α} {now : Nat}
    (h : Settled server shutdown window now state)
    (hdue : ∀ i, Due server shutdown window i → i < now) (order : RaceOrder) :
    state = .ofResult (drain order server shutdown window) := by
  cases h with
  | racing hready hsignal =>
    have hserver : server = none := by
      refine Option.eq_none_iff_forall_ne_some.mpr ?_
      intro r hr
      exact absurd (hready r hr) (Nat.not_le.mpr (hdue _ (.ready hr)))
    have hshutdown : shutdown = none := by
      refine Option.eq_none_iff_forall_ne_some.mpr ?_
      intro t ht
      exact absurd (hsignal t ht) (Nat.not_le.mpr (hdue _ (.signal ht)))
    rw [drain_eq_none.mpr ⟨hserver, hshutdown⟩]
    rfl
  | waiting hshutdown _ hdeadline =>
    exact absurd hdeadline (Nat.not_le.mpr (hdue _ (.deadline hshutdown)))
  | ended hd =>
    rw [drain_eq_some.mpr hd]
    rfl

/-- **Looking leads to the result.** Looks that miss nothing, in any orders, leave a server that
drains in the state that its result tells. -/
theorem polled_eq_ofResult (order : RaceOrder) {wakes : List (Nat × RaceOrder)}
    {state : Draining α} {start : Nat} (h : Settled server shutdown window start state)
    (hprompt : Prompt server shutdown window start wakes) :
    polled server shutdown window wakes state
      = .ofResult (drain order server shutdown window) := by
  induction wakes generalizing start state with
  | nil =>
    refine h.eq_ofResult ?_ order
    intro i hi
    refine Nat.not_le.mp ?_
    intro hle
    obtain ⟨_, hmem⟩ := hprompt.complete i hi hle
    cases hmem
  | cons wake wakes ih =>
    obtain ⟨hfirst, hordered⟩ := List.pairwise_cons.mp hprompt.ordered
    have hdue : ∀ i, Due server shutdown window i → start ≤ i → wake.1 ≤ i := by
      intro i hi hstart
      obtain ⟨choice, hmem⟩ := hprompt.complete i hi hstart
      rcases List.mem_cons.mp hmem with heq | hmem
      · exact Nat.le_of_eq (congrArg Prod.fst heq.symm)
      · exact hfirst _ hmem
    refine ih (settled_poll wake.2 h hdue) ⟨hordered, ?_, ?_⟩
    · intro later hlater
      exact Nat.succ_le_succ (hfirst later hlater)
    · intro i hi hafter
      have hlate : start ≤ wake.1 + 1 := hprompt.late wake List.mem_cons_self
      obtain ⟨choice, hmem⟩ := hprompt.complete i hi (Nat.le_trans hlate hafter)
      rcases List.mem_cons.mp hmem with heq | hmem
      · rw [← heq] at hafter
        exact absurd hafter (Nat.not_succ_le_self i)
      · exact ⟨choice, hmem⟩

/-- Before anything is seen nothing has happened. -/
theorem settled_zero : Settled server shutdown window 0 .racing :=
  .racing (fun _ _ => Nat.zero_le _) fun _ _ => Nat.zero_le _

/-! ## Bounds -/

/-- **Bounded draining.** For any server that is ready at some instant or never, any signal that
comes at some instant or never, and any window:

* the output of the server comes of it, when the server is ready, if and only if it is ready, and if
  there is a signal then by the end of the window after it;
* nothing comes of it, at the end of the window, if and only if there is a signal and the server is
  not ready by the end of the window after it;
* there is no end if and only if neither the server nor the signal ever comes;
* looking at the server in any orders, as long as nothing is slept through, leads there;
* what is looked at first does not matter;
* with a longer window an output stays what it is. -/
theorem drain_bounded {α : Type} (server : Option (Ready α)) (shutdown : Option Nat)
    (window : Nat) (order : RaceOrder) :
    (∀ v i, drain order server shutdown window = some ⟨some v, i⟩ ↔
      server = some ⟨i, v⟩ ∧ ∀ t, shutdown = some t → i ≤ t + window) ∧
    (∀ i, drain order server shutdown window = some ⟨none, i⟩ ↔
      ∃ t, shutdown = some t ∧ i = t + window ∧
        ∀ r, server = some r → t + window < r.instant) ∧
    (drain order server shutdown window = none ↔ server = none ∧ shutdown = none) ∧
    (∀ wakes, Prompt server shutdown window 0 wakes →
      polled server shutdown window wakes .racing
        = .ofResult (drain order server shutdown window)) ∧
    (∀ order', drain order' server shutdown window = drain order server shutdown window) ∧
    (∀ window' v i, window ≤ window' →
      drain order server shutdown window = some ⟨some v, i⟩ →
      drain order server shutdown window' = some ⟨some v, i⟩) := by
  refine ⟨?_, ?_, drain_eq_none, ?_, ?_, ?_⟩
  · intro v i
    rw [drain_eq_some]
    constructor
    · rintro ⟨hs, ht⟩
      exact ⟨hs, ht⟩
    · rintro ⟨hs, ht⟩
      exact .finished hs ht
  · intro i
    rw [drain_eq_some]
    constructor
    · rintro ⟨⟩
      exact ⟨_, ‹_›, rfl, ‹_›⟩
    · rintro ⟨t, ht, rfl, hlate⟩
      exact .expired ht hlate
  · intro wakes hprompt
    exact polled_eq_ofResult order settled_zero hprompt
  · intro order'
    refine Option.ext ?_
    intro d
    rw [drain_eq_some, drain_eq_some]
  · intro window' v i hle h
    exact drain_eq_some.mpr ((drains_drain h).of_le hle)

/-- Looks at a server that is ready when the window of 10 after a signal at 20 ends: one too early,
one that sees the signal, two within the window and two at its end. -/
def lastMomentWakes : List (Nat × RaceOrder) := [
  (4, .serverFirst), (20, .shutdownFirst), (20, .serverFirst), (27, .shutdownFirst),
  (30, .serverFirst), (30, .shutdownFirst)]

theorem prompt_lastMomentWakes :
    Prompt (some ⟨30, "drained"⟩) (some 20) 10 0 lastMomentWakes where
  ordered := by decide
  late := by decide
  complete := by
    rintro i (⟨⟨⟩⟩ | ⟨⟨⟩⟩ | ⟨⟨⟩⟩) -
    · exact ⟨.serverFirst, by decide⟩
    · exact ⟨.shutdownFirst, by decide⟩
    · exact ⟨.serverFirst, by decide⟩

theorem drain_bounded_lastMoment :
    drain .shutdownFirst (some ⟨30, "drained"⟩) (some 20) 10 = some ⟨some "drained", 30⟩ ∧
    Prompt (some ⟨30, "drained"⟩) (some 20) 10 0 lastMomentWakes ∧
    polled (some ⟨30, "drained"⟩) (some 20) 10 lastMomentWakes .racing
      = .ended ⟨some "drained", 30⟩ ∧
    10 ≤ 18446744073709551615 * 1000 ∧
    drain .shutdownFirst (some ⟨30, "drained"⟩) (some 20) (18446744073709551615 * 1000)
      = some ⟨some "drained", 30⟩ := by
  obtain ⟨houtput, -, -, hpolled, -, hlonger⟩ :=
    drain_bounded (some ⟨30, "drained"⟩) (some 20) 10 .shutdownFirst
  have hdrain : drain .shutdownFirst (some ⟨30, "drained"⟩) (some 20) 10
      = some ⟨some "drained", 30⟩ := by
    refine (houtput "drained" 30).mpr ⟨rfl, ?_⟩
    rintro _ ⟨⟩
    decide
  have hle : 10 ≤ 18446744073709551615 * 1000 := by decide
  have hended := hpolled lastMomentWakes prompt_lastMomentWakes
  rw [hdrain] at hended
  exact ⟨hdrain, prompt_lastMomentWakes, hended, hle, hlonger _ _ _ hle hdrain⟩

end LoginService

import LoginService.Proofs.Drain
import LoginService.Proofs.Lifecycle.Startup

/-!
# How a process ends

A process that listens ends in one way only, however serving ends: the server has finished or is
given up, and at the same instant the pool begins to be closed, for the first and last time.
`Orderly` says so of a whole life, with what is logged, how the process ends, and how long after the
signal. `live_orderly` adds what becomes of a process that does not come to listen.
-/

namespace LoginService

/-! ## Serving -/

namespace Serving

variable {s : Serving} {settings : ServerSettings} {d : Drained (Except String Unit)}

/-- The window after the signal ends, and the server is not ready by then. -/
def GivenUp (s : Serving) (window : Nat) : Prop :=
  ∃ r, s.signal = some r ∧ ∀ q, s.server = some q → r.instant + window < q.instant

/-- What draining the server comes to, said of the signal. -/
theorem drains_of_drained {window : Nat} (h : s.drained window = some d) :
    (∃ i v, d = ⟨some v, i⟩ ∧ s.server = some ⟨i, v⟩ ∧
        ∀ r, s.signal = some r → i ≤ r.instant + window) ∨
      ∃ r, s.signal = some r ∧ d = ⟨none, r.instant + window⟩ ∧
        ∀ q, s.server = some q → r.instant + window < q.instant := by
  cases drains_drain h with
  | @finished i v hserver hsignal =>
    refine .inl ⟨i, v, rfl, hserver, ?_⟩
    intro r hr
    refine hsignal r.instant ?_
    rw [hr]
    rfl
  | expired hsignal hserver =>
    obtain ⟨r, hr, rfl⟩ := Option.map_eq_some_iff.mp hsignal
    exact .inr ⟨r, hr, rfl, hserver⟩

/-- The server is given up exactly if nothing came of draining it. -/
theorem output_eq_none {window : Nat} (h : s.drained window = some d) :
    d.output = none ↔ s.GivenUp window := by
  rcases drains_of_drained h with ⟨i, v, rfl, hserver, hsignal⟩ | ⟨r, hr, rfl, hlate⟩
  · refine iff_of_false nofun ?_
    rintro ⟨r, hr, hlate⟩
    exact absurd (hsignal r hr) (Nat.not_le.mpr (hlate _ hserver))
  · exact iff_of_true rfl ⟨r, hr, hlate⟩

/-- Closing the pool takes no more than the window. -/
theorem instant_closePool (s : Serving) (now window : Nat) :
    now ≤ (s.closePool now window).instant ∧
      (s.closePool now window).instant ≤ now + window := by
  unfold closePool awaitWithin
  cases s.closing with
  | none => exact ⟨Nat.le_add_right now window, Nat.le_refl _⟩
  | some taken => grind

/-! ### Moments -/

/-- Signals, as moments. -/
def marks (rs : List (Ready Signal)) : List (Nat × Moment) :=
  rs.map fun r => (r.instant, .signalled)

/-- How the server ends. -/
def serverEnd (d : Drained (Except String Unit)) : Moment :=
  if d.output.isSome then .serverFinished else .serverDropped

/-- How closing the pool ends. -/
def closeEnd (c : Drained Unit) : Moment :=
  if c.output.isSome then .closed else .closeAbandoned

theorem moments_finish (s : Serving) (settings : ServerSettings)
    (d : Drained (Except String Unit)) :
    (s.finish settings d).moments =
      marks (s.signalWithin 0 d.instant) ++
        (d.instant, serverEnd d) :: (d.instant, .closeBegun) ::
          (marks (s.signalWithin (d.instant + 1) (s.closePool d.instant settings.window).instant) ++
            [((s.closePool d.instant settings.window).instant,
                closeEnd (s.closePool d.instant settings.window)),
              ((s.closePool d.instant settings.window).instant, .exited)]) := by
  simp only [finish, marks, serverEnd, closeEnd, List.append_assoc, List.cons_append,
    List.nil_append]

theorem mem_marks_signalWithin {low high : Nat} {m : Nat × Moment}
    (h : m ∈ marks (s.signalWithin low high)) :
    m.2 = .signalled ∧ low ≤ m.1 ∧ m.1 ≤ high := by
  obtain ⟨r, hr, rfl⟩ := List.mem_map.mp h
  obtain ⟨-, hwithin⟩ := List.mem_filter.mp hr
  simp only [Bool.and_eq_true, decide_eq_true_eq] at hwithin
  exact ⟨rfl, hwithin⟩

/-- There is at most one signal. -/
theorem pairwise_marks_signalWithin (s : Serving) (low high : Nat) :
    (marks (s.signalWithin low high)).Pairwise fun a b => a.1 ≤ b.1 := by
  refine List.pairwise_map.mpr (List.Pairwise.filter _ ?_)
  cases s.signal with
  | none => exact List.Pairwise.nil
  | some r => exact List.pairwise_singleton _ r

theorem serverEnd_eq_dropped : serverEnd d = .serverDropped ↔ d.output = none := by
  unfold serverEnd
  cases d.output <;> simp

theorem serverEnd_cases (d : Drained (Except String Unit)) :
    serverEnd d = .serverFinished ∨ serverEnd d = .serverDropped := by
  unfold serverEnd
  split
  · exact .inl rfl
  · exact .inr rfl

theorem serverEnd_ne_exited (d : Drained (Except String Unit)) : serverEnd d ≠ .exited := by
  unfold serverEnd
  split
  · exact nofun
  · exact nofun

theorem closeEnd_ne_exited (c : Drained Unit) : closeEnd c ≠ .exited := by
  unfold closeEnd
  split
  · exact nofun
  · exact nofun

/-- What happens besides is neither the end of the server nor the beginning of the closing. -/
def Aside (m : Nat × Moment) : Prop :=
  m.2 ≠ .serverFinished ∧ m.2 ≠ .serverDropped ∧ m.2 ≠ .closeBegun

theorem aside_closeEnd (i : Nat) (c : Drained Unit) : Aside (i, closeEnd c) := by
  unfold Aside closeEnd
  split
  · exact ⟨nofun, nofun, nofun⟩
  · exact ⟨nofun, nofun, nofun⟩

/-- **Closing is begun once**, when the server has just finished or been given up. -/
theorem exists_closeBegun (s : Serving) (settings : ServerSettings)
    (d : Drained (Except String Unit)) :
    ∃ before after, (s.finish settings d).moments
        = before ++ (d.instant, serverEnd d) :: (d.instant, .closeBegun) :: after ∧
      ∀ m ∈ before ++ after, Aside m := by
  have hmarks : ∀ low high, ∀ m ∈ marks (s.signalWithin low high), Aside m := by
    intro low high m hm
    obtain ⟨hsignalled, -⟩ := mem_marks_signalWithin hm
    simp only [Aside, hsignalled]
    decide
  refine ⟨_, _, moments_finish s settings d, ?_⟩
  refine List.forall_mem_append.mpr ⟨hmarks _ _, List.forall_mem_append.mpr ⟨hmarks _ _, ?_⟩⟩
  refine List.forall_mem_cons.mpr ⟨aside_closeEnd _ _, List.forall_mem_singleton.mpr ?_⟩
  exact ⟨nofun, nofun, nofun⟩

/-- What happens is listed in the order of time. -/
theorem pairwise_moments (s : Serving) (settings : ServerSettings)
    (d : Drained (Except String Unit)) :
    (s.finish settings d).moments.Pairwise fun a b => a.1 ≤ b.1 := by
  obtain ⟨hclosed, -⟩ := instant_closePool s d.instant settings.window
  have hlast : ∀ m ∈ marks (s.signalWithin (d.instant + 1)
        (s.closePool d.instant settings.window).instant) ++
      [((s.closePool d.instant settings.window).instant,
          closeEnd (s.closePool d.instant settings.window)),
        ((s.closePool d.instant settings.window).instant, .exited)], d.instant ≤ m.1 := by
    refine List.forall_mem_append.mpr ⟨?_, ?_⟩
    · intro m hm
      exact Nat.le_of_succ_le (mem_marks_signalWithin hm).2.1
    · exact List.forall_mem_cons.mpr ⟨hclosed, List.forall_mem_singleton.mpr hclosed⟩
  rw [moments_finish]
  refine List.pairwise_append.mpr ⟨pairwise_marks_signalWithin s _ _, ?_, ?_⟩
  · refine List.pairwise_cons.mpr ⟨?_, List.pairwise_cons.mpr ⟨hlast, ?_⟩⟩
    · exact List.forall_mem_cons.mpr ⟨Nat.le_refl _, hlast⟩
    · refine List.pairwise_append.mpr ⟨pairwise_marks_signalWithin s _ _, ?_, ?_⟩
      · exact List.pairwise_pair.mpr (Nat.le_refl _)
      · intro a ha
        obtain ⟨-, -, hle⟩ := mem_marks_signalWithin ha
        exact List.forall_mem_cons.mpr ⟨hle, List.forall_mem_singleton.mpr hle⟩
  · intro a ha
    obtain ⟨-, -, hle⟩ := mem_marks_signalWithin ha
    refine List.forall_mem_cons.mpr ⟨hle, List.forall_mem_cons.mpr ⟨hle, ?_⟩⟩
    intro b hb
    exact Nat.le_trans hle (hlast b hb)

/-- **The exit comes last**, and from the end of the server at most the window passes until then. -/
theorem exists_exit (s : Serving) (settings : ServerSettings)
    (d : Drained (Except String Unit)) :
    ∃ before x, (s.finish settings d).moments = before ++ [(x, .exited)] ∧
      (∀ m ∈ before, m.2 ≠ .exited) ∧ x ≤ d.instant + settings.window := by
  have hmarks : ∀ low high, ∀ m ∈ marks (s.signalWithin low high), m.2 ≠ .exited := by
    intro low high m hm
    rw [(mem_marks_signalWithin hm).1]
    decide
  refine ⟨marks (s.signalWithin 0 d.instant) ++
      (d.instant, serverEnd d) :: (d.instant, .closeBegun) ::
        (marks (s.signalWithin (d.instant + 1) (s.closePool d.instant settings.window).instant) ++
          [((s.closePool d.instant settings.window).instant,
            closeEnd (s.closePool d.instant settings.window))]), _, ?_, ?_,
    (instant_closePool s d.instant settings.window).2⟩
  · rw [moments_finish]
    simp only [List.append_assoc, List.cons_append, List.nil_append]
  · refine List.forall_mem_append.mpr ⟨hmarks _ _, ?_⟩
    refine List.forall_mem_cons.mpr ⟨serverEnd_ne_exited d, List.forall_mem_cons.mpr ⟨nofun, ?_⟩⟩
    refine List.forall_mem_append.mpr ⟨hmarks _ _, List.forall_mem_singleton.mpr ?_⟩
    exact closeEnd_ne_exited _

/-! ### The log and the result -/

theorem events_finish (s : Serving) (settings : ServerSettings)
    (d : Drained (Except String Unit)) :
    ∃ before after, (s.finish settings d).events
        = before ++ (if d.output.isSome then [] else [expiredEvent settings]) ++ after ∧
      expiredEvent settings ∉ before ∧ expiredEvent settings ∉ after := by
  have hsignals : ∀ low high, expiredEvent settings ∉
      (s.signalWithin low high).map fun r => r.value.event := by
    intro low high hevent
    obtain ⟨r, -, heq⟩ := List.mem_map.mp hevent
    cases congrArg Event.level heq
  refine ⟨_, _, List.append_assoc _ _ _, hsignals _ _, ?_⟩
  refine List.not_mem_append (hsignals _ _) ?_
  rw [List.mem_singleton]
  split
  · intro heq
    cases congrArg Event.level heq
  · intro heq
    cases congrArg Event.fields heq

/-- **The failure of a process that listened is that of its server.** -/
theorem result_finish (s : Serving) (settings : ServerSettings)
    (d : Drained (Except String Unit)) (e : ProcessError) :
    (s.finish settings d).result = .error e ↔
      ∃ detail, e = .serving detail ∧ d.output = some (.error detail) := by
  unfold finish
  rcases d with ⟨_ | _ | _, i⟩ <;> grind

/-- The end of the server is among the moments just as it was. -/
theorem mem_moments_finish {i : Nat} {m : Moment}
    (hm : m = .serverFinished ∨ m = .serverDropped) :
    (i, m) ∈ (s.finish settings d).moments ↔ i = d.instant ∧ m = serverEnd d := by
  obtain ⟨before, after, hmoments, haside⟩ := exists_closeBegun s settings d
  rw [hmoments]
  have hother : (i, m) ∉ before ++ after := by
    intro hmem
    obtain ⟨hfinished, hdropped, -⟩ := haside _ hmem
    exact hm.elim hfinished hdropped
  constructor
  · intro hmem
    rcases List.mem_append.mp hmem with hbefore | hmem
    · exact absurd (List.mem_append_left _ hbefore) hother
    · rcases List.mem_cons.mp hmem with heq | hmem
      · cases heq
        exact ⟨rfl, rfl⟩
      · rcases List.mem_cons.mp hmem with heq | hafter
        · cases heq
          rcases hm with h | h <;> cases h
        · exact absurd (List.mem_append_right _ hafter) hother
  · rintro ⟨rfl, rfl⟩
    exact List.mem_append_right _ List.mem_cons_self

end Serving

/-! ## The whole life -/

/-- The life of a process that has listened went well, however serving ended. -/
structure Orderly (l : Listening) (serving : Serving) (life : Life) : Prop where
  /-- All steps of starting up were taken. -/
  tried : life.tried = StartStep.all
  /-- The pool began to be closed once, when the server had just finished or been given up. -/
  closing : ∃ before i m after,
    life.moments = before ++ (i, m) :: (i, .closeBegun) :: after ∧
    (m = .serverFinished ∨ m = .serverDropped) ∧
    ∀ x ∈ before ++ after, x.2 ≠ .serverFinished ∧ x.2 ≠ .serverDropped ∧ x.2 ≠ .closeBegun
  /-- The moments are in the order of time. -/
  ordered : life.moments.Pairwise fun a b => a.1 ≤ b.1
  /-- The exit came last, and after a signal within twice the seconds that are set. -/
  exit : ∃ before x, life.moments = before ++ [(x, .exited)] ∧
    (∀ m ∈ before, m.2 ≠ .exited) ∧
    ∀ r, serving.signal = some r →
      x ≤ r.instant + 2 * (l.settings.server.shutdownTimeoutSecs.toNat * 1000)
  /-- The server was given up if and only if its window ended before it was ready. -/
  dropped : (∃ i, (i, .serverDropped) ∈ life.moments) ↔ serving.GivenUp l.settings.server.window
  /-- The process failed if and only if its server finished with an error. -/
  failure : ∀ e, life.result = .error e ↔
    ∃ detail i, e = .serving detail ∧ serving.server = some ⟨i, .error detail⟩ ∧
      (i, .serverFinished) ∈ life.moments
  /-- A process that gave its server up warned of it once, and did not fail. -/
  warned : (∃ i, (i, .serverDropped) ∈ life.moments) →
    life.result = .ok () ∧ life.events.count (expiredEvent l.settings.server) = 1
  /-- No other process gave that warning. -/
  unwarned : (∀ i, (i, .serverDropped) ∉ life.moments) →
    expiredEvent l.settings.server ∉ life.events

theorem Started.live_of_error {started : Started} {e : ProcessError}
    (h : started.result = .error e) (serving : Serving) :
    started.live serving = some
      { tried := started.tried, events := started.events, result := .error e,
        login := started.login } := by
  unfold Started.live
  rw [h]

theorem Started.live_of_ok {started : Started} {l : Listening} (h : started.result = .ok l)
    (serving : Serving) :
    started.live serving = (serving.run l.settings.server).map fun served =>
      { tried := started.tried, moments := served.moments,
        events := started.events ++ served.events, result := served.result,
        login := started.login } := by
  unfold Started.live
  rw [h]

/-- The life of a process that listens is served as draining its server goes. -/
theorem orderly_finish {started : Started} {serving : Serving} {l : Listening}
    {d : Drained (Except String Unit)} {login : Option DatabaseLogin}
    (htried : started.tried = StartStep.all)
    (hstarted : expiredEvent l.settings.server ∉ started.events)
    (hd : serving.drained l.settings.server.window = some d) :
    Orderly l serving
      { tried := started.tried
        moments := (serving.finish l.settings.server d).moments
        events := started.events ++ (serving.finish l.settings.server d).events
        result := (serving.finish l.settings.server d).result
        login := login } where
  tried := htried
  closing := by
    obtain ⟨before, after, hmoments, haside⟩ :=
      serving.exists_closeBegun l.settings.server d
    exact ⟨before, _, _, after, hmoments, Serving.serverEnd_cases d, haside⟩
  ordered := serving.pairwise_moments l.settings.server d
  exit := by
    obtain ⟨before, x, hmoments, hbefore, hx⟩ := serving.exists_exit l.settings.server d
    refine ⟨before, x, hmoments, hbefore, ?_⟩
    intro r hr
    have hdrained : d.instant ≤ r.instant + l.settings.server.window := by
      rcases Serving.drains_of_drained hd with ⟨i, v, rfl, -, hin⟩ | ⟨r', hr', rfl, -⟩
      · exact hin r hr
      · cases hr.symm.trans hr'
        exact Nat.le_refl _
    unfold ServerSettings.window at hx hdrained
    omega
  dropped := by
    rw [← Serving.output_eq_none hd, ← Serving.serverEnd_eq_dropped]
    constructor
    · rintro ⟨i, hi⟩
      exact ((Serving.mem_moments_finish (.inr rfl)).mp hi).2.symm
    · intro h
      exact ⟨d.instant, (Serving.mem_moments_finish (.inr rfl)).mpr ⟨rfl, h.symm⟩⟩
  failure e := by
    rw [Serving.result_finish]
    constructor
    · rintro ⟨detail, rfl, houtput⟩
      rcases Serving.drains_of_drained hd with ⟨i, v, rfl, hserver, -⟩ | ⟨r, -, rfl, -⟩
      · cases houtput
        exact ⟨detail, i, rfl, hserver, (Serving.mem_moments_finish (.inl rfl)).mpr ⟨rfl, rfl⟩⟩
      · cases houtput
    · rintro ⟨detail, i, rfl, hserver, hmem⟩
      obtain ⟨-, hend⟩ := (Serving.mem_moments_finish (.inl rfl)).mp hmem
      refine ⟨detail, rfl, ?_⟩
      rcases Serving.drains_of_drained hd with ⟨i', v, rfl, hserver', -⟩ | ⟨r, -, rfl, -⟩
      · cases hserver.symm.trans hserver'
        rfl
      · cases hend
  warned := by
    rintro ⟨i, hi⟩
    have hnone : d.output = none :=
      Serving.serverEnd_eq_dropped.mp ((Serving.mem_moments_finish (.inr rfl)).mp hi).2.symm
    refine ⟨?_, ?_⟩
    · cases hresult : (serving.finish l.settings.server d).result with
      | ok _ => rfl
      | error e =>
        obtain ⟨detail, -, hsome⟩ := (Serving.result_finish serving _ d e).mp hresult
        cases hnone.symm.trans hsome
    · obtain ⟨before, after, hevents, hbefore, hafter⟩ :=
        serving.events_finish l.settings.server d
      rw [hevents, hnone, List.count_append, List.count_append, List.count_append,
        List.count_eq_zero.mpr hbefore, List.count_eq_zero.mpr hafter,
        List.count_eq_zero.mpr hstarted]
      simp only [Option.isSome_none, Bool.false_eq_true, if_false, List.count_cons_self,
        List.count_nil]
  unwarned := by
    intro hmoments
    have hsome : d.output ≠ none := by
      intro hnone
      exact hmoments d.instant ((Serving.mem_moments_finish (.inr rfl)).mpr
        ⟨rfl, (Serving.serverEnd_eq_dropped.mpr hnone).symm⟩)
    obtain ⟨before, after, hevents, hbefore, hafter⟩ :=
      serving.events_finish l.settings.server d
    rw [if_pos (Option.isSome_iff_ne_none.mpr hsome), List.append_nil] at hevents
    rw [hevents]
    exact List.not_mem_append hstarted (List.not_mem_append hbefore hafter)

/-- **The life of a process.** However the steps of starting up turn out, and however serving goes:

* a step that fails ends the process with its error, and no later step is tried; no moment of a
  process that listens comes, and nothing of it is logged;
* a process listens if and only if all steps succeed, and tries to only after all others have;
* a process that listens runs forever if and only if its server never finishes and no signal comes,
  and otherwise its life is orderly. -/
theorem live_orderly (s : Startup) (path : String) (serving : Serving) :
    (∀ step e, s.Fails step e → ∃ life, (s.run path).live serving = some life ∧
      life.tried = step.upTo ∧ life.result = .error e ∧ life.moments = [] ∧
      ∀ event ∈ life.events, event.level = .info) ∧
    ((∃ step e, s.Fails step e) ∨ ∃ l, s.Listens l) ∧
    ((s.run path).hasListened = true ↔ ∃ l, s.Listens l) ∧
    (StartStep.listen ∈ (s.run path).tried →
      ∃ settings pool ip, s.settings = .ok settings ∧
        (s.connection settings.database).result = .ok pool ∧
        s.host settings.server.host = some ip) ∧
    (∀ l, s.Listens l →
      ((s.run path).live serving = none ↔ serving.server = none ∧ serving.signal = none) ∧
      ∀ life, (s.run path).live serving = some life → Orderly l serving life) := by
  refine ⟨?_, s.exists_outcome, s.hasListened_run path, Startup.succeeded_of_listen_mem, ?_⟩
  · intro step e hfails
    obtain ⟨htried, hresult, hlevel⟩ := Startup.run_of_fails hfails path
    refine ⟨_, Started.live_of_error hresult serving, htried, rfl, rfl, hlevel⟩
  · intro l hlistens
    obtain ⟨htried, hresult, hlevel⟩ := Startup.run_of_listens hlistens path
    rw [Started.live_of_ok hresult serving]
    constructor
    · rw [Option.map_eq_none_iff, Serving.run, Option.map_eq_none_iff, Serving.drained,
        drain_eq_none, Option.map_eq_none_iff]
    · intro life hlife
      obtain ⟨served, hserved, rfl⟩ := Option.map_eq_some_iff.mp hlife
      obtain ⟨d, hd, rfl⟩ := Option.map_eq_some_iff.mp hserved
      refine orderly_finish htried ?_ hd
      intro hmem
      cases hlevel _ hmem

/-- Steps of starting up that all succeed, with the settings that are built in. -/
def plainStart : Startup where
  settings := .ok {}
  connection _ := ⟨.ok { server := {} }, none⟩
  host := IpAddress.parse?
  listener _ := .ok ()

/-- The same steps, but nothing is taken for an address. -/
def hostlessStart : Startup := { plainStart with host := fun _ => none }

/-- A process that listens with the settings that are built in. -/
def plainListening : Listening := ⟨{}, { server := {} }, ⟨.v4 0 0 0 0, 8080⟩⟩

/-- A server that would fail just after its window of ten seconds, and a pool that does not
close. -/
def stuckServing : Serving where
  server := some ⟨30001, .error "broken pipe"⟩
  signal := some ⟨20000, .terminate⟩
  closing := none

theorem listens_plainStart : plainStart.Listens plainListening where
  settings := rfl
  pool := rfl
  host := by decide +kernel
  port := rfl
  listener := rfl

theorem live_orderly_stuck :
    hostlessStart.Fails .readHost .host ∧
    (∃ life, (hostlessStart.run "dev.yml").live stuckServing = some life ∧
      life.tried = [.loadSettings, .connectDatabase, .readHost] ∧ life.result = .error .host) ∧
    plainStart.Listens plainListening ∧
    StartStep.listen ∈ (plainStart.run "dev.yml").tried ∧
    ∃ life, (plainStart.run "dev.yml").live stuckServing = some life ∧
      Orderly plainListening stuckServing life ∧
      life.result = .ok () ∧ (40000, .exited) ∈ life.moments := by
  have hfails : hostlessStart.Fails .readHost .host := .readHost rfl rfl rfl
  obtain ⟨life, hlife, htried, hresult, -⟩ :=
    (live_orderly hostlessStart "dev.yml" stuckServing).1 _ _ hfails
  obtain ⟨-, -, -, hlisten, horderly⟩ := live_orderly plainStart "dev.yml" stuckServing
  have hmem : StartStep.listen ∈ (plainStart.run "dev.yml").tried := by decide +kernel
  obtain ⟨settings, pool, ip, hsettings, -⟩ := hlisten hmem
  obtain ⟨-, hlive⟩ := horderly plainListening listens_plainStart
  have hserved : ∃ life, (plainStart.run "dev.yml").live stuckServing = some life ∧
      life.result = .ok () ∧ (40000, .exited) ∈ life.moments := by
    rw [Started.live_of_ok (Startup.run_of_listens listens_plainStart "dev.yml").2.1]
    exact ⟨_, rfl, rfl, by decide⟩
  obtain ⟨life', hlife', hok, hexited⟩ := hserved
  exact ⟨hfails, ⟨life, hlife, htried, hresult⟩, listens_plainStart, hmem,
    life', hlife', hlive life' hlife', hok, hexited⟩

end LoginService

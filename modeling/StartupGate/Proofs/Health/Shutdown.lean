/-
# StartupGate.Proofs.Health.Shutdown -- a shutdown cuts the loops off

A shutdown ends each loop where it is, in a run or asleep, and touches nothing else
(`Evaluator.stop_eq`).  From then on nothing is due, so only the clock moves
(`Evaluators.passTo_shut`): what was seen when the shutdown came stays, and a run that was
under way is never published or counted (`PolledCheck.shutdown_cuts_off`).
-/
import StartupGate.Proofs.Health.Schedule

set_option autoImplicit false

namespace StartupGate

/-! ## What a shutdown does -/

namespace Evaluator

/-- A loop in which something is due ends, and keeps its signal and its starts. -/
theorem stop_eq {e : Evaluator} (alive : e.due?.isSome) (now : Millis) :
    e.stop now = { e with phase := .stopped now } := by
  obtain ⟨periods, behaviour, signal, starts, phase⟩ := e
  cases phase with
  | asleep wakes => rfl
  | checking ends healthy => rfl
  | stopped since => cases alive
  | off => cases alive

theorem stop_signal (e : Evaluator) (now : Millis) : (e.stop now).signal = e.signal := by
  obtain ⟨periods, behaviour, signal, starts, phase⟩ := e
  cases phase <;> rfl

theorem stop_starts (e : Evaluator) (now : Millis) : (e.stop now).starts = e.starts := by
  obtain ⟨periods, behaviour, signal, starts, phase⟩ := e
  cases phase <;> rfl

end Evaluator

namespace Evaluators

variable {s : Evaluators} {c t : Millis}

theorem signals_shutdown (s : Evaluators) : s.shutdown.signals = s.signals := by
  rw [signals, signals, shutdown, List.map_map]
  exact List.map_congr_left fun e _ => e.stop_signal s.now

theorem starts_shutdown (s : Evaluators) :
    s.shutdown.loops.map Evaluator.starts = s.loops.map Evaluator.starts := by
  rw [shutdown, List.map_map]
  exact List.map_congr_left fun e _ => e.stop_starts s.now

/-- Before the shutdown, time passes as if there were none. -/
theorem passTo_open (before : t < c) : passTo (some c) s t = s.runTo t :=
  if_neg (Nat.not_le.mpr before)

/-- After the shutdown, only the clock moves. -/
theorem passTo_shut (order : c ≤ t) :
    passTo (some c) s t =
      { (s.runTo c).shutdown with now := max (s.runTo c).now t } := by
  rw [passTo, if_pos order]
  exact (ended_shutdown (s.runTo c)).runTo_eq t

/-- A loop that is under way when the shutdown comes has ended then, and stays so. -/
theorem passTo_shut_getElem? (order : c ≤ t) {i : Nat} {e : Evaluator}
    (found : (s.runTo c).loops[i]? = some e) (alive : e.due?.isSome) (shows : (s.runTo c).now = c) :
    (passTo (some c) s t).loops[i]? = some { e with phase := .stopped c } := by
  rw [passTo_shut order, shutdown]
  simp only [List.getElem?_map, found, shows, Option.map_some, Evaluator.stop_eq alive]

end Evaluators

namespace PolledCheck

variable {checks : List PolledCheck} {c t : Millis}

theorem polling_runTo_now (past : ∀ p ∈ checks, ∃ k, c < p.start k) :
    ((polling checks).runTo c).now = c := by
  rcases Nat.eq_zero_or_pos c with rfl | later
  · rfl
  · rw [Evaluators.runTo_of_lt later]
    exact (Evaluators.runs_run (polling_getsPast past)).now_eq

/-- So far is the loop of a check with which nothing coincides at an instant: it has started the runs
whose start lies before, and its signal and its samples show those whose end does. -/
structure ShownBefore (p : PolledCheck) (c : Millis) (e : Evaluator) (samples : CheckSamples) :
    Prop where
  starts_eq : ∃ started, e.starts = (List.range started).map p.start ∧
    ∀ k, k < started ↔ p.start k < c
  results_eq : ∃ ended, e.signal.isHealthy = p.latest ended ∧ samples = p.counted ended ∧
    ∀ k, k < ended ↔ p.finish k < c

/-- What a loop has done by an instant it has done before, if nothing coincides with the instant. -/
theorem HasDone.shownBefore {p : PolledCheck} {started ended : Nat} {v : CountedLoop}
    (hasDone : p.HasDone c started ended v) (later : 0 < c)
    (untied : ∀ k, p.finish k ≠ c ∧ p.start (k + 1) ≠ c) : p.ShownBefore c v.loop v.samples where
  starts_eq := by
    refine ⟨started, hasDone.starts_eq, fun k => ?_⟩
    rw [hasDone.started_iff]
    cases k with
    | zero => exact ⟨fun _ => later, Nat.le_of_lt⟩
    | succ k => exact ⟨fun order => Nat.lt_of_le_of_ne order (untied k).2, Nat.le_of_lt⟩
  results_eq := by
    obtain ⟨phase, rfl⟩ := hasDone.state_eq
    refine ⟨ended, rfl, rfl, fun k => ?_⟩
    rw [hasDone.ended_iff]
    exact ⟨fun order => Nat.lt_of_le_of_ne order (untied k).1, Nat.le_of_lt⟩

theorem polling_runTo_shownBefore (past : ∀ p ∈ checks, ∃ k, c < p.start k) {i : Nat}
    {p : PolledCheck} (found : checks[i]? = some p)
    (untied : ∀ k, p.finish k ≠ c ∧ p.start (k + 1) ≠ c) :
    ∃ e samples, ((polling checks).runTo c).loops[i]? = some e ∧ e.due?.isSome ∧
      p.ShownBefore c e samples ∧
      (NamesDiffer checks → ((polling checks).runTo c).metrics.ofCheck p.name = samples) := by
  rcases Nat.eq_zero_or_pos c with rfl | later
  · -- the loops have not begun
    rw [Evaluators.runTo_of_le (Nat.le_refl 0)]
    refine ⟨p.loop, .empty, ?_, rfl, ⟨⟨0, rfl, ?_⟩, ⟨0, rfl, rfl, ?_⟩⟩, fun _ => rfl⟩
    · simp [polling, Evaluators.new, found]
    · intro k
      simp
    · intro k
      simp
  · obtain ⟨v, started, ended, foundLast, -, hasDone, counted⟩ := polling_runTo later past found
    exact ⟨v.loop, v.samples, foundLast, hasDone.alive, hasDone.shownBefore later untied, counted⟩

/-- **A shutdown cuts every loop off cleanly.**  Take any checks and a shutdown at an instant that they
get past, as every check that waits at all does (`le_start`), and that is no end of a run and no
timer.  Before it, all is as without the shutdown.  From it on, the metrics, the signals and the
starts stay what they are at that instant without the shutdown.  Every loop has ended then, whether it
was in a run or asleep; it has started exactly the runs whose start lies before the shutdown, and its
signal and its samples show exactly those whose end does: a run that was under way leaves no mark. -/
theorem shutdown_cuts_off (past : ∀ p ∈ checks, ∃ k, c < p.start k)
    (untied : ∀ p ∈ checks, ∀ k, p.finish k ≠ c ∧ p.start (k + 1) ≠ c) :
    (∀ t < c, Evaluators.passTo (some c) (polling checks) t = (polling checks).runTo t) ∧
    ∀ t, c ≤ t →
      let cut := Evaluators.passTo (some c) (polling checks) t
      let whole := (polling checks).runTo c
      cut.metrics = whole.metrics ∧ cut.signals = whole.signals ∧
      cut.loops.map Evaluator.starts = whole.loops.map Evaluator.starts ∧
      ∀ (i : Nat) (p : PolledCheck), checks[i]? = some p →
        ∃ (e : Evaluator) (samples : CheckSamples), cut.loops[i]? = some e ∧
          e.phase = .stopped c ∧ p.ShownBefore c e samples ∧
          (NamesDiffer checks → cut.metrics.ofCheck p.name = samples) := by
  refine ⟨fun t before => Evaluators.passTo_open before, fun t order => ?_⟩
  intro cut whole
  have stays : cut = { whole.shutdown with now := max whole.now t } := Evaluators.passTo_shut order
  have metrics : cut.metrics = whole.metrics := by
    rw [stays]
    rfl
  refine ⟨metrics, ?_, ?_, ?_⟩
  · rw [stays]
    exact whole.signals_shutdown
  · rw [stays]
    exact whole.starts_shutdown
  · intro i p found
    obtain ⟨e, samples, here, alive, shown, counted⟩ :=
      polling_runTo_shownBefore past found (untied p (List.mem_of_getElem? found))
    have ended : cut.loops[i]? = some { e with phase := .stopped c } :=
      Evaluators.passTo_shut_getElem? order here alive (polling_runTo_now past)
    rw [metrics]
    exact ⟨_, samples, ended, rfl, ⟨shown.starts_eq, shown.results_eq⟩, counted⟩

/-- Two checks on one clock and a shutdown at 25.  The first is asleep then and would start its fourth
run at 27; the second is in its first run, which never ends. -/
theorem shutdown_cuts_off_two :
    let asleep := every "endpoints" 10 5 (.ofList [⟨false, 2⟩, ⟨true, 0⟩])
    let inRun := every "nodeload" 7 7 (.ofList [⟨true, 30⟩])
    let cut := Evaluators.passTo (some 25) (polling [asleep, inRun]) 100
    (∃ e, cut.loops[0]? = some e ∧ e.phase = .stopped 25 ∧ e.starts = [0, 7, 17] ∧
      cut.metrics.ofCheck "endpoints" = ⟨some 2, some 1, some 1⟩) ∧
    ∃ e, cut.loops[1]? = some e ∧ e.phase = .stopped 25 ∧ e.starts = [0] ∧
      cut.metrics.ofCheck "nodeload" = .empty := by
  intro asleep inRun cut
  have past : ∀ p ∈ [asleep, inRun], ∃ k, 25 < p.start k := by
    intro p member
    simp only [List.mem_cons, List.not_mem_nil, or_false] at member
    rcases member with rfl | rfl
    · exact ⟨3, by decide⟩
    · exact ⟨1, by decide⟩
  have untied : ∀ p ∈ [asleep, inRun], ∀ k, p.finish k ≠ 25 ∧ p.start (k + 1) ≠ 25 := by
    intro p member
    simp only [List.mem_cons, List.not_mem_nil, or_false] at member
    rcases member with rfl | rfl
    · exact asleep.untied_of_asleep (k := 2) (by decide) (by decide)
    · exact inRun.untied_of_running (k := 0) (by decide) (by decide)
  have names : NamesDiffer [asleep, inRun] := by decide
  obtain ⟨-, -, -, each⟩ := (shutdown_cuts_off past untied).2 100 (by decide)
  constructor
  · obtain ⟨e, samples, found, phase, shown, counted⟩ := each 0 asleep rfl
    obtain ⟨started, starts, begun⟩ := shown.starts_eq
    obtain ⟨ended, -, same, gone⟩ := shown.results_eq
    obtain rfl : started = 3 := count_eq begun (by decide) (by decide)
    obtain rfl : ended = 3 := count_eq gone (by decide) (by decide)
    exact ⟨e, found, phase, starts.trans (by decide), (counted names).trans same⟩
  · obtain ⟨e, samples, found, phase, shown, counted⟩ := each 1 inRun rfl
    obtain ⟨started, starts, begun⟩ := shown.starts_eq
    obtain ⟨ended, -, same, gone⟩ := shown.results_eq
    obtain rfl : started = 1 := count_eq begun (by decide) (by decide)
    obtain rfl : ended = 0 := count_eq gone (by decide) (by decide)
    exact ⟨e, found, phase, starts.trans (by decide), (counted names).trans same⟩

end PolledCheck

end StartupGate

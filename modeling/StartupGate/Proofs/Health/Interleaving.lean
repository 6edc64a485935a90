/-
# StartupGate.Proofs.Health.Interleaving -- what loops show that go on in any order

The loops are tasks of their own, and the order of time is only one of the orders in which they
may go on.  Here any loop in which something is due may do it next, the clock may show anything,
and the shutdown may come at any point (`Evaluators.Reaches`).  What has been seen of such a course
are the results that were published, the latest first, each with the number of its loop.

* `Reaches.signals_eq`: the signals are the first ones, with those results published to the signal
  of the same number each.
* `Reaches.hasRun`: the results of a loop are those of its own runs, one after the other.
* `Reaches.forall_loops`: what a loop keeps when it goes on or ends, all loops keep.
* `reaches_runTo`: moving the clock, where everything happens in the order of time, is such a
  course; every loop gets past every instant (`NeverStuck`), and all courses keep that.
-/
import StartupGate.Proofs.Health.Shutdown

set_option autoImplicit false

namespace StartupGate

/-! ## One loop -/

namespace Evaluator

variable {e : Evaluator} {n : Nat} {h : Millis}

/-- A result is published to the loop's own signal, and nothing else is. -/
theorem next_signal (e : Evaluator) :
    e.next.signal = { e.signal with published := e.report?.getD e.signal.published } := by
  obtain ⟨periods, behaviour, signal, starts, phase⟩ := e
  cases phase <;> rfl

theorem next_behaviour (e : Evaluator) : e.next.behaviour = e.behaviour := by
  obtain ⟨periods, behaviour, signal, starts, phase⟩ := e
  cases phase <;> rfl

theorem stop_behaviour (e : Evaluator) (now : Millis) : (e.stop now).behaviour = e.behaviour := by
  obtain ⟨periods, behaviour, signal, starts, phase⟩ := e
  cases phase <;> rfl

/-- So many runs of the loop have ended, and all that it started has or is under way. -/
def HasRun (e : Evaluator) (n : Nat) : Prop :=
  match e.phase with
  | .asleep _ => e.starts.length = n
  | .checking _ healthy => e.starts.length = n + 1 ∧ healthy = (e.behaviour n).healthy
  | .stopped _ => n ≤ e.starts.length
  | .off => e.starts.length = n

theorem HasRun.le_starts (hasRun : e.HasRun n) : n ≤ e.starts.length := by
  obtain ⟨periods, behaviour, signal, starts, phase⟩ := e
  cases phase with
  | asleep wakes => exact Nat.le_of_eq (Eq.symm hasRun)
  | checking ends healthy => exact Nat.le_of_lt (Nat.lt_of_succ_le (Nat.le_of_eq (Eq.symm hasRun.1)))
  | stopped since => exact hasRun
  | off => exact Nat.le_of_eq (Eq.symm hasRun)

/-- A loop that goes on ends its next run, with the result of that run, or ends none. -/
theorem HasRun.next (hasRun : e.HasRun n) :
    (e.report? = none ∧ e.next.HasRun n) ∨
      (e.report? = some (e.behaviour n).healthy ∧ e.next.HasRun (n + 1)) := by
  obtain ⟨periods, behaviour, signal, starts, phase⟩ := e
  cases phase with
  | asleep wakes =>
      obtain rfl : starts.length = n := hasRun
      exact .inl ⟨rfl, by simp [HasRun, Evaluator.next, fire]⟩
  | checking ends healthy =>
      obtain ⟨started, same⟩ := hasRun
      exact .inr ⟨congrArg some same, started⟩
  | stopped since => exact .inl ⟨rfl, hasRun⟩
  | off => exact .inl ⟨rfl, hasRun⟩

theorem HasRun.stop (hasRun : e.HasRun n) (now : Millis) : (e.stop now).HasRun n := by
  have within := hasRun.le_starts
  obtain ⟨periods, behaviour, signal, starts, phase⟩ := e
  cases phase with
  | asleep wakes => exact within
  | checking ends healthy => exact within
  | stopped since => exact within
  | off => exact hasRun

/-- What a loop does next comes no earlier. -/
theorem due?_next {t u : Millis} (due : e.due? = some t) (later : e.next.due? = some u) :
    t ≤ u := by
  obtain ⟨periods, behaviour, signal, starts, phase⟩ := e
  cases phase with
  | asleep wakes =>
      cases due
      cases later
      exact Nat.le_add_right _ _
  | checking ends healthy =>
      cases due
      cases later
      exact Nat.le_add_right _ _
  | stopped since => cases due
  | off => cases due

theorem next_of_ended (ended : e.due? = none) : e.next = e := by
  obtain ⟨periods, behaviour, signal, starts, phase⟩ := e
  cases phase with
  | asleep wakes => cases ended
  | checking ends healthy => cases ended
  | stopped since => rfl
  | off => rfl

theorem Quiet.next (quiet : e.Quiet h) : e.next.Quiet h := by
  cases due : e.due? with
  | none => exact (next_of_ended due).symm ▸ quiet
  | some t => exact fun u later => Nat.lt_of_lt_of_le (quiet t due) (due?_next due later)

theorem GetsPast.next (past : e.GetsPast h) : e.next.GetsPast h := by
  obtain ⟨n, quiet⟩ := past
  cases n with
  | zero => exact ⟨0, Quiet.next quiet⟩
  | succ n => exact ⟨n, quiet⟩

theorem GetsPast.stop (past : e.GetsPast h) (now : Millis) : (e.stop now).GetsPast h := by
  obtain ⟨periods, behaviour, signal, starts, phase⟩ := e
  cases phase with
  | asleep wakes => exact ⟨0, quiet_of_ended rfl h⟩
  | checking ends healthy => exact ⟨0, quiet_of_ended rfl h⟩
  | stopped since => exact past
  | off => exact past

end Evaluator

/-! ## All loops, in any order -/

/-- The signals after a result was published to one of them, if one was. -/
def publishResult (signals : List Signal) : Option (Nat × Bool) → List Signal
  | none => signals
  | some (i, healthy) => (publishAt signals i healthy).2

namespace Evaluators

variable {s s' last : Evaluators} {result : Option (Nat × Bool)} {published : List (Nat × Bool)}

/-- One thing that may happen, and the result that is published then, with the number of its loop. -/
inductive Happens : Evaluators → Option (Nat × Bool) → Evaluators → Prop where
  /-- A loop does what is due in it, whatever else is due. -/
  | due {s : Evaluators} {i : Nat} {e : Evaluator} {t : Millis} : s.loops[i]? = some e →
      e.due? = some t → Happens s (e.report?.map fun healthy => (i, healthy)) (s.fireNext t i)
  | clock {s : Evaluators} (now : Millis) : Happens s none { s with now }
  | shutdown {s : Evaluators} : Happens s none s.shutdown

/-- Where the loops may get to, and the results that are published on the way, the latest first. -/
inductive Reaches (s : Evaluators) : List (Nat × Bool) → Evaluators → Prop where
  | start : Reaches s [] s
  | step {published : List (Nat × Bool)} {s' s'' : Evaluators} {result : Option (Nat × Bool)} :
      Reaches s published s' → Happens s' result s'' → Reaches s (result.toList ++ published) s''

theorem Happens.reaches (happens : Happens s result s') : Reaches s result.toList s' := by
  have whole := Reaches.step .start happens
  rwa [List.append_nil] at whole

theorem Reaches.trans {more : List (Nat × Bool)} (first : Reaches s published s')
    (second : Reaches s' more last) : Reaches s (more ++ published) last := by
  induction second with
  | start => exact first
  | step _ happens ih =>
      rw [List.append_assoc]
      exact ih.step happens

/-- **What happens publishes at most one result**, to the signal of its loop. -/
theorem Happens.signals_eq (happens : Happens s result s') :
    s'.signals = publishResult s.signals result := by
  cases happens with
  | clock now => rfl
  | shutdown => exact signals_shutdown s
  | @due i e t found due =>
      have shown : s.signals[i]? = some e.signal := by simp [signals, found]
      obtain ⟨inside, own⟩ := List.getElem?_eq_some_iff.mp shown
      have fired : (s.fireNext t i).signals = s.signals.set i e.next.signal := by
        rw [fireNext_eq found]
        refine List.ext_getElem? fun j => ?_
        simp only [signals, List.getElem?_map, List.getElem?_modify, List.getElem?_set]
        by_cases here : i = j
        · subst here
          obtain ⟨within, same⟩ := List.getElem?_eq_some_iff.mp found
          simp [within, same]
        · simp [here]
      rw [fired, Evaluator.next_signal]
      generalize e.report? = report
      cases report with
      | none => exact (congrArg (s.signals.set i) own.symm).trans (List.set_getElem_self inside)
      | some healthy =>
          simp only [Option.map_some, publishResult, publishAt, shown, Signal.set, Option.getD_some]

/-- **The signals are the first ones, with every result published to the signal of its loop.** -/
theorem Reaches.signals_eq (reaches : Reaches s published last) :
    last.signals =
      published.foldr (fun (i, healthy) shown => (publishAt shown i healthy).2) s.signals := by
  induction reaches with
  | start => rfl
  | @step published s' s'' result _ happens ih =>
      rw [happens.signals_eq, ih]
      cases result <;> rfl

/-- What happens leaves every loop there is, with its behaviour. -/
theorem Happens.getElem? (happens : Happens s result s') {i n : Nat} {e : Evaluator}
    (found : s.loops[i]? = some e) (hasRun : e.HasRun n) :
    ∃ e', s'.loops[i]? = some e' ∧ e'.behaviour = e.behaviour ∧
      ((result.toList.filter (·.1 = i) = [] ∧ e'.HasRun n) ∨
        (result.toList.filter (·.1 = i) = [(i, (e.behaviour n).healthy)] ∧ e'.HasRun (n + 1))) := by
  cases happens with
  | clock now => exact ⟨e, found, rfl, .inl ⟨rfl, hasRun⟩⟩
  | shutdown =>
      refine ⟨e.stop s.now, ?_, e.stop_behaviour s.now, .inl ⟨rfl, hasRun.stop s.now⟩⟩
      simp [Evaluators.shutdown, found]
  | @due j x t here due =>
      rw [fireNext_eq here]
      by_cases own : j = i
      · subst own
        obtain rfl : x = e := Option.some.inj (here.symm.trans found)
        refine ⟨x.next, by simp [found], x.next_behaviour, ?_⟩
        rcases hasRun.next with ⟨report, same⟩ | ⟨report, more⟩
        · exact .inl ⟨by simp [report], same⟩
        · exact .inr ⟨by simp [report], more⟩
      · refine ⟨e, by simp [own, found], rfl, .inl ⟨?_, hasRun⟩⟩
        cases x.report? <;> simp [own]

/-- **The published results of a loop are those of its own runs**, one after the other. -/
theorem Reaches.hasRun (reaches : Reaches s published last) {i : Nat} {e : Evaluator}
    (found : s.loops[i]? = some e) (fresh : e.HasRun 0) :
    ∃ e' n, last.loops[i]? = some e' ∧ e'.behaviour = e.behaviour ∧ e'.HasRun n ∧
      published.filter (·.1 = i) =
        ((List.range n).map fun k => (i, (e.behaviour k).healthy)).reverse := by
  induction reaches with
  | start => exact ⟨e, 0, found, rfl, fresh, rfl⟩
  | step _ happens ih =>
      obtain ⟨e', n, here, behaviour, hasRun, results⟩ := ih
      obtain ⟨e'', there, same, either⟩ := happens.getElem? here hasRun
      rcases either with ⟨nothing, still⟩ | ⟨result, more⟩
      · refine ⟨e'', n, there, same.trans behaviour, still, ?_⟩
        rw [List.filter_append, nothing, results, List.nil_append]
      · refine ⟨e'', n + 1, there, same.trans behaviour, more, ?_⟩
        rw [List.filter_append, result, results, behaviour, List.range_succ, List.map_append,
          List.reverse_append]
        rfl

/-- A loop that has ended, or that there never was, stays as it is. -/
theorem Reaches.ended (reaches : Reaches s published last) {i : Nat} {e : Evaluator}
    (found : s.loops[i]? = some e) (ended : e.due? = none) : last.loops[i]? = some e := by
  induction reaches with
  | start => exact found
  | @step published s' s'' result _ happens ih =>
      cases happens with
      | clock now => exact ih
      | shutdown => simp [Evaluators.shutdown, ih, Evaluator.stop_of_ended ended]
      | @due j x t here due =>
          rw [fireNext_eq here]
          by_cases own : j = i
          · subst own
            simp [ih, Evaluator.next_of_ended ended]
          · simp [own, ih]

/-! ## What each loop keeps for itself -/

section Kept

variable {p : Evaluator → Prop} (next : ∀ e, p e → p e.next) (stop : ∀ e now, p e → p (e.stop now))

include next stop

/-- What a loop keeps when it goes on or ends, all loops keep, whatever happens. -/
theorem Happens.forall_loops (happens : Happens s result s') (all : ∀ e ∈ s.loops, p e) :
    ∀ e ∈ s'.loops, p e := by
  cases happens with
  | clock now => exact all
  | shutdown =>
      intro x member
      obtain ⟨e, inside, rfl⟩ := List.mem_map.mp member
      exact stop e s.now (all e inside)
  | @due i e t found due =>
      intro x member
      rw [fireNext_eq found] at member
      obtain ⟨j, here⟩ := List.mem_iff_getElem?.mp member
      rw [List.getElem?_modify] at here
      cases there : s.loops[j]? with
      | none => simp [there] at here
      | some y =>
          have kept : p y := all y (List.mem_of_getElem? there)
          by_cases own : i = j
          · obtain rfl : y.next = x := by simpa [there, own] using here
            exact next y kept
          · obtain rfl : y = x := by simpa [there, own] using here
            exact kept

/-- **What a loop keeps for itself, all loops keep** in every course. -/
theorem Reaches.forall_loops (reaches : Reaches s published last) (all : ∀ e ∈ s.loops, p e) :
    ∀ e ∈ last.loops, p e := by
  induction reaches with
  | start => exact all
  | step _ happens ih => exact happens.forall_loops next stop ih

end Kept

/-! ## Getting past every instant -/

/-- No loop holds the clock for ever. -/
def NeverStuck (s : Evaluators) : Prop := ∀ e ∈ s.loops, ∀ h, e.GetsPast h

theorem NeverStuck.reaches (free : s.NeverStuck) (reaches : Reaches s published last) :
    last.NeverStuck := by
  intro e member h
  have all : ∀ x ∈ s.loops, x.GetsPast h := fun x inside => free x inside h
  exact reaches.forall_loops (fun _ past => past.next) (fun _ now past => past.stop now) all e member

/-- What happens in the order of time is a course of the loops. -/
theorem Runs.reaches {h : Millis} (runs : Runs h s last) : ∃ published, Reaches s published last := by
  induction runs with
  | done => exact ⟨_, (Happens.clock h).reaches⟩
  | fire found _ _ ih =>
      obtain ⟨⟨e, here, due⟩, -⟩ := due?_of_earliest? found
      obtain ⟨published, rest⟩ := ih
      exact ⟨_, (Happens.due here due).reaches.trans rest⟩

/-- **Moving the clock is a course of the loops.** -/
theorem reaches_runTo (free : s.NeverStuck) (t : Millis) :
    ∃ published, Reaches s published (s.runTo t) := by
  rcases Nat.lt_or_ge s.now t with later | shown
  · rw [runTo_of_lt later]
    exact (runs_run fun e member => free e member t).reaches
  · rw [runTo_of_le shown]
    exact ⟨[], .start⟩

end Evaluators

end StartupGate

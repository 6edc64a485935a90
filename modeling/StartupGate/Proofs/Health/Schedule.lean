/-
# StartupGate.Proofs.Health.Schedule -- a check is polled as its schedule says

The loop of a check goes back and forth between two kinds of state: before its `k`-th run
it rests (`PolledCheck.resting`), and during it it is in the run (`PolledCheck.running`).
Both are written down from the schedule alone, and each leads to the next
(`next_resting`, `next_running`).  So at any instant the loop has started the runs whose
start has come, and has published and counted those whose end has (`HasDone`).

* `polling_runTo`: the same of each of many checks on one clock.
* `polling_on_schedule`: what a check that waits whole milliseconds has done and shows.
* `polling_cuts_sleep`: a wait of more than thirty years is not waited out.
-/
import StartupGate.Health.Schedule
import StartupGate.Proofs.Health.Settling
import StartupGate.Proofs.Time
import Mathlib.Data.Nat.Find

set_option autoImplicit false

namespace StartupGate

/-- A check that is polled: what it is called, how long it waits after a run, and what its runs do. -/
structure PolledCheck where
  name : String
  periods : Periods
  behaviour : Behaviour

namespace PolledCheck

/-- A check that waits whole milliseconds. -/
def every (name : String) (onPass onFail : Nat) (behaviour : Behaviour) : PolledCheck :=
  ⟨name, ⟨.ofMillis onPass, .ofMillis onFail⟩, behaviour⟩

/-- The loop of the check before it begins. -/
def loop (c : PolledCheck) : Evaluator := .new c.name c.periods c.behaviour

/-- When the `k`-th run starts. -/
def start (c : PolledCheck) (k : Nat) : Millis := Schedule.start c.periods c.behaviour k

/-- When the `k`-th run ends. -/
def finish (c : PolledCheck) (k : Nat) : Millis := Schedule.finish c.periods c.behaviour k

variable (c : PolledCheck)

/-! ## The order of the schedule -/

theorem start_zero : c.start 0 = 0 := rfl

theorem start_le_finish (k : Nat) : c.start k ≤ c.finish k := Nat.le_add_right _ _

theorem finish_le_start (k : Nat) : c.finish k ≤ c.start (k + 1) := Nat.le_add_right _ _

theorem start_mono {j k : Nat} (order : j ≤ k) : c.start j ≤ c.start k := by
  induction order with
  | refl => exact Nat.le_refl _
  | @step k _ ih => exact Nat.le_trans ih (Nat.le_trans (c.start_le_finish k) (c.finish_le_start k))

theorem finish_le_start_of_lt {j k : Nat} (order : j < k) : c.finish j ≤ c.start k :=
  Nat.le_trans (c.finish_le_start j) (c.start_mono order)

theorem finish_mono {j k : Nat} (order : j ≤ k) : c.finish j ≤ c.finish k := by
  rcases Nat.lt_or_eq_of_le order with earlier | rfl
  · exact Nat.le_trans (c.finish_le_start_of_lt earlier) (c.start_le_finish k)
  · exact Nat.le_refl _

theorem lt_of_start_lt {j k : Nat} (order : c.start j < c.start k) : j < k :=
  Nat.lt_of_not_le fun later => Nat.not_lt.mpr (c.start_mono later) order

theorem lt_of_finish_lt {j k : Nat} (order : c.finish j < c.finish k) : j < k :=
  Nat.lt_of_not_le fun later => Nat.not_lt.mpr (c.finish_mono later) order

/-- While the loop sleeps after a run, no run ends and no later one starts. -/
theorem untied_of_asleep {k : Nat} {t : Millis} (ended : c.finish k < t) (next : t < c.start (k + 1))
    (j : Nat) : c.finish j ≠ t ∧ c.start (j + 1) ≠ t := by
  constructor
  · rintro rfl
    have later : k < j := c.lt_of_finish_lt ended
    have early : j < k + 1 := c.lt_of_start_lt (Nat.lt_of_le_of_lt (c.start_le_finish j) next)
    omega
  · rintro rfl
    have later : k < j + 1 := c.lt_of_start_lt (Nat.lt_of_le_of_lt (c.start_le_finish k) ended)
    have early : j + 1 < k + 1 := c.lt_of_start_lt next
    omega

/-- While the loop is in a run, no run ends and no later one starts. -/
theorem untied_of_running {k : Nat} {t : Millis} (started : c.start k < t)
    (unfinished : t < c.finish k) (j : Nat) : c.finish j ≠ t ∧ c.start (j + 1) ≠ t := by
  constructor
  · rintro rfl
    have later : k < j + 1 := c.lt_of_start_lt (Nat.lt_of_lt_of_le started (c.finish_le_start j))
    have early : j < k := c.lt_of_finish_lt unfinished
    omega
  · rintro rfl
    have later : k < j + 1 := c.lt_of_start_lt started
    have early : j + 1 < k + 1 :=
      c.lt_of_start_lt (Nat.lt_of_lt_of_le unfinished (c.finish_le_start k))
    omega

/-- The schedule of a check that waits whole milliseconds. -/
theorem start_every (name : String) (onPass onFail : Nat) (behaviour : Behaviour) (k : Nat) :
    (every name onPass onFail behaviour).start (k + 1) =
      (every name onPass onFail behaviour).start k + (behaviour k).takes +
        min (if (behaviour k).healthy then onPass else onFail) longestSleep := by
  rw [start, Schedule.start, Millis.wake]
  congr 1
  cases healthy : (behaviour k).healthy <;>
    simp [every, Periods.after, healthy, Duration.millisUp_asSleep_ofMillis]

/-- A check that waits at all after each run gets past every instant. -/
theorem le_start {c : PolledCheck} (pass : 0 < c.periods.onPass.nanos)
    (fail : 0 < c.periods.onFail.nanos) (k : Nat) : k ≤ c.start k := by
  induction k with
  | zero => exact Nat.zero_le _
  | succ k ih =>
      have wait : 1 ≤ (c.periods.after (c.behaviour k).healthy).asSleep.millisUp := by
        refine Duration.one_le_millisUp_asSleep ?_
        rw [Periods.after]
        split
        · exact pass
        · exact fail
      rw [start, Schedule.start, Millis.wake]
      exact Nat.add_le_add (Nat.le_trans ih (Nat.le_add_right _ _)) wait

/-- How many runs there are of which something is true, if it is true of the first ones only. -/
theorem count_eq {count n : Nat} {holds : Nat → Prop} (iff : ∀ k, k < count ↔ holds k)
    (first : ∀ k < n, holds k) (noMore : ¬ holds n) : count = n := by
  rcases Nat.lt_trichotomy count n with fewer | same | more
  · exact absurd ((iff count).mpr (first count fewer)) (Nat.lt_irrefl count)
  · exact same
  · exact absurd ((iff n).mp more) noMore

/-! ## The states of the loop -/

/-- The result of the last of so many runs; false if there is none. -/
def latest : Nat → Bool
  | 0 => false
  | k + 1 => (c.behaviour k).healthy

/-- The samples of the check after so many runs. -/
def counted : Nat → CheckSamples
  | 0 => .empty
  | k + 1 => (counted k).counted (c.behaviour k).healthy

/-- The loop after so many starts and ended runs, in a phase, with its samples. -/
def state (started ended : Nat) (phase : Phase) : CountedLoop where
  loop :=
    { periods := c.periods
      behaviour := c.behaviour
      signal := { Signal.new c.name with published := c.latest ended }
      starts := (List.range started).map c.start
      phase := phase }
  samples := c.counted ended

/-- Before the `k`-th run. -/
def resting (k : Nat) : CountedLoop := c.state k k (.asleep (c.start k))

/-- In the `k`-th run. -/
def running (k : Nat) : CountedLoop :=
  c.state (k + 1) k (.checking (c.finish k) (c.behaviour k).healthy)

theorem next_resting (k : Nat) : (c.resting k).next = c.running k := by
  simp [CountedLoop.next, resting, running, state, Evaluator.next, Evaluator.fire,
    Evaluator.report?, CheckSamples.reported, List.range_succ, finish, start, Schedule.finish]

theorem next_running (k : Nat) : (c.running k).next = c.resting (k + 1) := rfl

/-! ## How far the loop is at an instant -/

/-- So many runs of the check have started by an instant and so many have ended, and the loop and its
samples say so. -/
structure HasDone (h : Millis) (started ended : Nat) (v : CountedLoop) : Prop where
  started_iff : ∀ k, k < started ↔ c.start k ≤ h
  ended_iff : ∀ k, k < ended ↔ c.finish k ≤ h
  state_eq : ∃ phase, v = c.state started ended phase
  alive : v.loop.due?.isSome

variable {c} {h : Millis} {v : CountedLoop}

theorem settles_of_start {k : Nat} (begun : c.start k ≤ h)
    (rest : CountedLoop.Settles h (c.running k) v) : CountedLoop.Settles h (c.resting k) v := by
  rw [← next_resting] at rest
  exact .fire (t := c.start k) rfl begun rest

theorem settles_of_finish {k : Nat} (ended : c.finish k ≤ h)
    (rest : CountedLoop.Settles h (c.resting (k + 1)) v) :
    CountedLoop.Settles h (c.running k) v := by
  rw [← next_running] at rest
  exact .fire (t := c.finish k) rfl ended rest

/-- The loop does all that its schedule has before a run. -/
theorem settles_of_resting {k : Nat} (begun : c.start k ≤ h)
    (rest : CountedLoop.Settles h (c.resting k) v) : CountedLoop.Settles h (c.resting 0) v := by
  induction k with
  | zero => exact rest
  | succ k ih =>
      have ended : c.finish k ≤ h := Nat.le_trans (c.finish_le_start k) begun
      have begunBefore : c.start k ≤ h := Nat.le_trans (c.start_le_finish k) ended
      exact ih begunBefore (settles_of_start begunBefore (settles_of_finish ended rest))

/-- A run whose end is past the instant is the last one to have started. -/
theorem hasDone_running {k : Nat} (started : c.start k ≤ h) (unfinished : h < c.finish k) :
    c.HasDone h (k + 1) k (c.running k) where
  started_iff j := by
    constructor
    · intro order
      exact Nat.le_trans (c.start_mono (Nat.le_of_lt_succ order)) started
    · intro begun
      have early : c.start j < c.finish k := Nat.lt_of_le_of_lt begun unfinished
      exact c.lt_of_start_lt (Nat.lt_of_lt_of_le early (c.finish_le_start k))
  ended_iff j := by
    constructor
    · intro order
      exact Nat.le_trans (c.finish_le_start_of_lt order) started
    · intro gone
      exact c.lt_of_finish_lt (Nat.lt_of_le_of_lt gone unfinished)
  state_eq := ⟨_, rfl⟩
  alive := rfl

/-- Before a start that is past the instant, all runs have ended. -/
theorem hasDone_resting {k : Nat} (ended : c.finish k ≤ h) (next : h < c.start (k + 1)) :
    c.HasDone h (k + 1) (k + 1) (c.resting (k + 1)) where
  started_iff j := by
    constructor
    · intro order
      have begun : c.start j ≤ c.start k := c.start_mono (Nat.le_of_lt_succ order)
      exact Nat.le_trans begun (Nat.le_trans (c.start_le_finish k) ended)
    · intro begun
      exact c.lt_of_start_lt (Nat.lt_of_le_of_lt begun next)
  ended_iff j := by
    constructor
    · intro order
      exact Nat.le_trans (c.finish_mono (Nat.le_of_lt_succ order)) ended
    · intro gone
      have begun : c.start j ≤ h := Nat.le_trans (c.start_le_finish j) gone
      exact c.lt_of_start_lt (Nat.lt_of_le_of_lt begun next)
  state_eq := ⟨_, rfl⟩
  alive := rfl

/-- **The loop gets where its schedule is**, at every instant before some start. -/
theorem exists_settles (past : ∃ k, h < c.start k) :
    ∃ v started ended, CountedLoop.Settles h ⟨c.loop, .empty⟩ v ∧ c.HasDone h started ended v := by
  -- the first start past the instant is not that of the first run
  have beyond : h < c.start (Nat.find past) := Nat.find_spec past
  have least : ∀ j < Nat.find past, c.start j ≤ h :=
    fun j order => Nat.not_lt.mp (Nat.find_min past order)
  cases first : Nat.find past with
  | zero =>
      rw [first, start_zero] at beyond
      exact absurd beyond (Nat.not_lt_zero h)
  | succ k =>
      rw [first] at beyond least
      have started : c.start k ≤ h := least k (Nat.lt_succ_self k)
      rcases Nat.lt_or_ge h (c.finish k) with unfinished | ended
      · have quiet : (c.running k).loop.Quiet h := by
          intro t due
          cases due
          exact unfinished
        exact ⟨c.running k, k + 1, k,
          settles_of_resting started (settles_of_start started (.quiet quiet)),
          hasDone_running started unfinished⟩
      · have quiet : (c.resting (k + 1)).loop.Quiet h := by
          intro t due
          cases due
          exact beyond
        exact ⟨c.resting (k + 1), k + 1, k + 1,
          settles_of_resting started (settles_of_start started (settles_of_finish ended (.quiet quiet))),
          hasDone_resting ended beyond⟩

theorem loop_getsPast (past : ∃ k, h < c.start k) : c.loop.GetsPast h := by
  obtain ⟨v, _, _, settles, -⟩ := exists_settles past
  exact settles.getsPast

/-! ## Many checks on one clock -/

/-- The loops of the checks before they begin. -/
def polling (checks : List PolledCheck) : Evaluators := .new (checks.map loop)

/-- No two checks have the same name. -/
def NamesDiffer (checks : List PolledCheck) : Prop := (checks.map name).Nodup

instance (checks : List PolledCheck) : Decidable (NamesDiffer checks) :=
  inferInstanceAs (Decidable (checks.map name).Nodup)

theorem distinct_polling {checks : List PolledCheck} (names : NamesDiffer checks) :
    Evaluators.Distinct (polling checks).loops := by
  have same : (checks.map loop).map (fun e => e.signal.name) = checks.map name := by
    rw [List.map_map]
    rfl
  rw [Evaluators.Distinct, polling, Evaluators.new, same]
  exact names

theorem polling_getsPast {checks : List PolledCheck}
    (past : ∀ c ∈ checks, ∃ k, h < c.start k) : ∀ e ∈ (polling checks).loops, e.GetsPast h := by
  intro e member
  obtain ⟨c, inside, rfl⟩ := List.mem_map.mp member
  exact loop_getsPast (past c inside)

/-- **Each check of many is where its own schedule is.**  If its name is its own, so are the samples that
bear it. -/
theorem polling_runTo {checks : List PolledCheck} (later : 0 < h)
    (past : ∀ c ∈ checks, ∃ k, h < c.start k) {i : Nat} (found : checks[i]? = some c) :
    ∃ v started ended, ((polling checks).runTo h).loops[i]? = some v.loop ∧
      CountedLoop.Settles h ⟨c.loop, .empty⟩ v ∧ c.HasDone h started ended v ∧
      (NamesDiffer checks → ((polling checks).runTo h).metrics.ofCheck c.name = v.samples) := by
  have runs : Evaluators.Runs h (polling checks) ((polling checks).run h) :=
    Evaluators.runs_run (polling_getsPast past)
  have here : (polling checks).loops[i]? = some c.loop := by
    simp [polling, Evaluators.new, found]
  obtain ⟨e, samples, foundLast, settles, counted⟩ := runs.settles here .empty
  obtain ⟨v, started, ended, own, hasDone⟩ := exists_settles (past c (List.mem_of_getElem? found))
  obtain rfl : v = ⟨e, samples⟩ := own.unique settles
  rw [Evaluators.runTo_of_lt later]
  refine ⟨⟨e, samples⟩, started, ended, foundLast, settles, hasDone, fun names => ?_⟩
  exact counted (distinct_polling names) Metrics.checksOrdered_empty (Metrics.ofCheck_empty _)

/-! ## What is seen of the schedule -/

/-- The runs that have ended by an instant come first among those that have started. -/
theorem filter_finish {started ended : Nat} (ended_iff : ∀ k, k < ended ↔ c.finish k ≤ h)
    (order : ended ≤ started) :
    ((List.range started).filter fun k => Schedule.finish c.periods c.behaviour k ≤ h) =
      List.range ended := by
  obtain ⟨underway, rfl⟩ := Nat.exists_eq_add_of_le order
  have gone : (List.range ended).filter (fun k => decide (c.finish k ≤ h)) = List.range ended := by
    refine List.filter_eq_self.mpr fun k member => ?_
    exact decide_eq_true ((ended_iff k).mp (List.mem_range.mp member))
  have others : ((List.range underway).map (ended + ·)).filter (fun k => decide (c.finish k ≤ h)) =
      [] := by
    refine List.filter_eq_nil_iff.mpr fun k member => ?_
    obtain ⟨j, -, rfl⟩ := List.mem_map.mp member
    have notOver : ¬ c.finish (ended + j) ≤ h :=
      fun early => Nat.not_lt.mpr (Nat.le_add_right ended j) ((ended_iff _).mpr early)
    simpa using notOver
  rw [List.range_add, List.filter_append]
  exact (congrArg₂ (· ++ ·) gone others).trans (List.append_nil _)

/-- How many of the first runs have a result. -/
theorem runs_counted (k : Nat) :
    (c.counted k).passes.getD 0 =
        ((List.range k).filter fun j => (c.behaviour j).healthy == true).length ∧
      (c.counted k).fails.getD 0 =
        ((List.range k).filter fun j => (c.behaviour j).healthy == false).length := by
  induction k with
  | zero => exact ⟨rfl, rfl⟩
  | succ k ih =>
      obtain ⟨passes, fails⟩ := ih
      rw [counted, CheckSamples.counted, List.range_succ, List.filter_append, List.filter_append,
        List.length_append, List.length_append, ← passes, ← fails]
      cases healthy : (c.behaviour k).healthy <;> simp [healthy]

theorem status_counted (k : Nat) :
    (c.counted k).status = if k = 0 then none else some (if c.latest k then 1 else 0) := by
  cases k with
  | zero => rfl
  | succ k =>
      rw [counted, CheckSamples.counted, latest, if_neg (Nat.succ_ne_zero k)]
      cases (c.behaviour k).healthy <;> rfl

namespace HasDone

variable {started ended : Nat}

theorem ended_le_started (hasDone : c.HasDone h started ended v) : ended ≤ started := by
  refine Nat.le_of_not_lt fun more => ?_
  have gone : c.finish started ≤ h := (hasDone.ended_iff started).mp more
  have begun : c.start started ≤ h := Nat.le_trans (c.start_le_finish started) gone
  exact Nat.lt_irrefl started ((hasDone.started_iff started).mpr begun)

theorem starts_eq (hasDone : c.HasDone h started ended v) :
    v.loop.starts = (List.range started).map c.start := by
  obtain ⟨phase, rfl⟩ := hasDone.state_eq
  rfl

theorem endedBy_eq (hasDone : c.HasDone h started ended v) :
    Schedule.endedBy c.periods c.behaviour h started = ended := by
  rw [Schedule.endedBy, filter_finish hasDone.ended_iff hasDone.ended_le_started, List.length_range]

/-- The signal reads the result of the last run to have ended. -/
theorem isHealthy_eq (hasDone : c.HasDone h started ended v) :
    v.loop.signal.isHealthy = Schedule.resultAt c.periods c.behaviour h started := by
  rw [Schedule.resultAt, filter_finish hasDone.ended_iff hasDone.ended_le_started]
  obtain ⟨phase, rfl⟩ := hasDone.state_eq
  cases ended with
  | zero => rfl
  | succ k =>
      rw [List.getLast?_range, if_neg (Nat.succ_ne_zero k)]
      rfl

theorem countBy_eq (hasDone : c.HasDone h started ended v) (healthy : Bool) :
    Schedule.countBy c.periods c.behaviour h healthy started =
      ((List.range ended).filter fun j => (c.behaviour j).healthy == healthy).length := by
  rw [← filter_finish hasDone.ended_iff hasDone.ended_le_started, List.filter_filter,
    Schedule.countBy]
  congr 2
  funext k
  exact Bool.and_comm _ _

/-- The counters are the numbers of ended runs with either result. -/
theorem runs_eq (hasDone : c.HasDone h started ended v) :
    v.samples.passes.getD 0 = Schedule.countBy c.periods c.behaviour h true started ∧
      v.samples.fails.getD 0 = Schedule.countBy c.periods c.behaviour h false started := by
  rw [hasDone.countBy_eq, hasDone.countBy_eq]
  obtain ⟨phase, rfl⟩ := hasDone.state_eq
  exact runs_counted ended

/-- The gauge is the signal, and is there once a run has ended. -/
theorem status_eq (hasDone : c.HasDone h started ended v) :
    v.samples.status =
      if Schedule.endedBy c.periods c.behaviour h started = 0 then none
      else some (if v.loop.signal.isHealthy then 1 else 0) := by
  rw [hasDone.endedBy_eq]
  obtain ⟨phase, rfl⟩ := hasDone.state_eq
  exact status_counted ended

end HasDone

/-- **A check is polled as its schedule says, and shows exactly its ended runs.**  Take a check that waits
`onPass` or `onFail` milliseconds, at least one, and an instant before the shutdown at which no run
ends.  The first run starts at once, and each later one when the run before it has ended and the
wait for its result is over; no sleep is longer than `longestSleep`.  By the instant exactly the runs
have started whose start has come (none at instant zero, before which the clock has not moved), and
any run that has ended is among these.  The signal reads the result of the last run to have ended,
the counters are the numbers of ended runs with either result, and the gauge is the signal as soon
as a run has ended. -/
theorem polling_on_schedule (name : String) (behaviour : Behaviour) {onPass onFail : Nat}
    (pass : 1 ≤ onPass) (fail : 1 ≤ onFail) {t : Millis} {shutdown : Option Millis}
    (before : ∀ u, shutdown = some u → t < u)
    (noTie : ∀ k, (every name onPass onFail behaviour).finish k ≠ t) :
    let c := every name onPass onFail behaviour
    let s := Evaluators.passTo shutdown (polling [c]) t
    c.start 0 = 0 ∧
    (∀ k, c.start (k + 1) = c.start k + (behaviour k).takes +
      min (if (behaviour k).healthy then onPass else onFail) longestSleep) ∧
    ∃ e started, s.loops[0]? = some e ∧
      e.starts = (List.range started).map c.start ∧
      (∀ k, k < started ↔ 0 < t ∧ c.start k ≤ t) ∧
      (∀ k, c.finish k ≤ t → k < started) ∧
      e.signal.isHealthy = Schedule.resultAt c.periods behaviour t started ∧
      (s.metrics.ofCheck name).passes.getD 0 =
        Schedule.countBy c.periods behaviour t true started ∧
      (s.metrics.ofCheck name).fails.getD 0 =
        Schedule.countBy c.periods behaviour t false started ∧
      (s.metrics.ofCheck name).status =
        if Schedule.endedBy c.periods behaviour t started = 0 then none
        else some (if e.signal.isHealthy then 1 else 0) := by
  intro c s
  refine ⟨c.start_zero, start_every name onPass onFail behaviour, ?_⟩
  have noShutdown : s = (polling [c]).runTo t := by
    cases shutdown with
    | none => rfl
    | some u => exact if_neg (Nat.not_le.mpr (before u rfl))
  rcases Nat.eq_zero_or_pos t with zero | later
  · -- the clock has not moved, so nothing has happened yet
    subst zero
    have still : s = polling [c] := noShutdown.trans (Evaluators.runTo_of_le (Nat.le_refl 0))
    rw [still]
    refine ⟨c.loop, 0, rfl, rfl, ?_, ?_, rfl, rfl, rfl, rfl⟩
    · intro k
      simp
    · intro k gone
      have first : c.finish 0 ≤ 0 := Nat.le_trans (c.finish_mono (Nat.zero_le k)) gone
      exact absurd (Nat.eq_zero_of_le_zero first) (noTie 0)
  · have past : ∀ x ∈ [c], ∃ k, t < x.start k := by
      refine List.forall_mem_singleton.mpr ?_
      have waitsOnPass : 0 < c.periods.onPass.nanos := Nat.mul_pos pass (by decide)
      have waitsOnFail : 0 < c.periods.onFail.nanos := Nat.mul_pos fail (by decide)
      exact ⟨t + 1, le_start waitsOnPass waitsOnFail (t + 1)⟩
    obtain ⟨v, started, ended, found, -, hasDone, counted⟩ :=
      polling_runTo later past (i := 0) (c := c) rfl
    have samples : s.metrics.ofCheck name = v.samples := by
      rw [noShutdown]
      exact counted (List.pairwise_singleton _ name)
    rw [samples]
    refine ⟨v.loop, started, noShutdown ▸ found, hasDone.starts_eq, ?_, ?_, hasDone.isHealthy_eq,
      hasDone.runs_eq.1, hasDone.runs_eq.2, hasDone.status_eq⟩
    · intro k
      rw [hasDone.started_iff]
      exact (and_iff_right later).symm
    · intro k gone
      exact (hasDone.started_iff k).mpr (Nat.le_trans (c.start_le_finish k) gone)

/-- The check fails after two milliseconds and passes at once ever after; it waits five after a failure
and ten after a pass.  Seen at thirty, before a shutdown at forty. -/
theorem polling_on_schedule_recovery :
    let c := every "nodeload" 10 5 (.ofList [⟨false, 2⟩, ⟨true, 0⟩])
    let s := Evaluators.passTo (some 40) (polling [c]) 30
    ∃ e, s.loops[0]? = some e ∧ e.starts = [0, 7, 17, 27] ∧ e.signal.isHealthy = true ∧
      (s.metrics.ofCheck "nodeload").passes.getD 0 = 3 ∧
      (s.metrics.ofCheck "nodeload").fails.getD 0 = 1 ∧
      (s.metrics.ofCheck "nodeload").status = some 1 := by
  intro c s
  have noTie : ∀ k, c.finish k ≠ 30 :=
    fun k => (c.untied_of_asleep (k := 3) (by decide) (by decide) k).1
  have before : ∀ u, some 40 = some u → 30 < u := by
    intro u same
    cases same
    decide
  obtain ⟨-, -, e, started, found, starts, began, -, healthy, passes, fails, status⟩ :=
    polling_on_schedule "nodeload" (.ofList [⟨false, 2⟩, ⟨true, 0⟩]) (by decide) (by decide)
      before noTie
  obtain rfl : started = 4 := count_eq began (by decide) (by decide)
  rw [healthy] at status
  exact ⟨e, found, starts, healthy, passes, fails, status⟩

/-- **A wait of more than thirty years is not waited out.**  The clock can show the end of the wait after
the first run, and the instant is before it and no end of a run; yet a second run has started. -/
theorem polling_cuts_sleep :
    let onPass := 1000000000000
    let c := every "nodeload" onPass 10 (.ofList [⟨true, 0⟩])
    let s := (polling [c]).runTo 950000000000
    (Instant.after? 0 (.ofMillis onPass)).isSome ∧ 950000000000 < onPass ∧
      (∀ k, c.finish k ≠ 950000000000) ∧
      ∃ e, s.loops[0]? = some e ∧ e.starts = [0, 946080000000] := by
  intro onPass c s
  have past : ∀ x ∈ [c], ∃ k, 950000000000 < x.start k :=
    List.forall_mem_singleton.mpr ⟨2, by decide⟩
  obtain ⟨v, started, ended, found, -, hasDone, -⟩ :=
    polling_runTo (by decide) past (i := 0) (c := c) rfl
  obtain rfl : started = 2 := count_eq hasDone.started_iff (by decide) (by decide)
  have noTie : ∀ k, c.finish k ≠ 950000000000 :=
    fun k => (c.untied_of_asleep (k := 1) (by decide) (by decide) k).1
  exact ⟨by decide, by decide, noTie, v.loop, found, hasDone.starts_eq.trans (by decide)⟩

end PolledCheck

end StartupGate

/-
# StartupGate.Proofs.Health.Settling -- what the passing of time does to the loops

Moving the clock to an instant lets one loop after the other do what is due in it, until
nothing is due any more.  Two relations say where that leads, step by step:

* `CountedLoop.Settles`: one loop, with the samples of its check, does all that is due in it;
* `Evaluators.Runs`: all loops do so in the order of time, and the clock shows the instant.

`Evaluators.run` leads where `Runs` says (`Runs.run_eq`), and gets there if every loop gets past
the instant (`runs_run`).  Seen from one loop, a run of all is a run of its own
(`Runs.settles`): no other loop touches it, and none with another name touches its samples.

A shutdown ends every loop on the way (`Evaluators.passTo`).  Stopping at an instant to look
changes nothing (`passTo_passTo`), so however often somebody looks, the last instant alone
says what is seen (`foldl_passTo`).
-/
import StartupGate.Health.Evaluator
import StartupGate.Proofs.Metrics.Checks

set_option autoImplicit false

namespace StartupGate

/-! ## One loop -/

/-- The metrics after what a loop reports, if it reports a result. -/
def Metrics.reported (m : Metrics) (check : String) : Option Bool → Metrics
  | some healthy => m.recordCheck check healthy
  | none => m

/-- The samples of a check after what its loop reports. -/
def CheckSamples.reported (c : CheckSamples) : Option Bool → CheckSamples
  | some healthy => c.counted healthy
  | none => c

theorem Metrics.checksOrdered_reported {m : Metrics} (ordered : m.ChecksOrdered) (check : String)
    (result : Option Bool) : (m.reported check result).ChecksOrdered := by
  cases result with
  | none => exact ordered
  | some healthy => exact checksOrdered_recordCheck ordered check healthy

theorem Metrics.ofCheck_reported {m : Metrics} (ordered : m.ChecksOrdered) (check name : String)
    (result : Option Bool) :
    (m.reported check result).ofCheck name =
      if name = check then (m.ofCheck check).reported result else m.ofCheck name := by
  cases result with
  | none =>
      split
      · rename_i same
        rw [same]
        rfl
      · rfl
  | some healthy => exact ofCheck_recordCheck ordered check name healthy

namespace Evaluator

/-- The result that a loop reports when it is next due, if a run ends then. -/
def report? (e : Evaluator) : Option Bool :=
  match e.phase with
  | .checking _ healthy => some healthy
  | .asleep _ => none
  | .stopped _ => none
  | .off => none

/-- The loop after what is next due in it. -/
def next (e : Evaluator) : Evaluator := (e.fire .empty).1

/-- What is due in a loop happens whatever is counted elsewhere, and counts what the loop reports. -/
theorem fire_eq (e : Evaluator) (m : Metrics) :
    e.fire m = (e.next, m.reported e.signal.name e.report?) := by
  obtain ⟨periods, behaviour, signal, starts, phase⟩ := e
  cases phase <;> rfl

theorem next_name (e : Evaluator) : e.next.signal.name = e.signal.name := by
  obtain ⟨periods, behaviour, signal, starts, phase⟩ := e
  cases phase <;> rfl

/-- A shutdown finds nothing to end in a loop that has ended. -/
theorem stop_of_ended {e : Evaluator} (ended : e.due? = none) (now : Millis) : e.stop now = e := by
  obtain ⟨periods, behaviour, signal, starts, phase⟩ := e
  cases phase with
  | asleep wakes => cases ended
  | checking ends healthy => cases ended
  | stopped since => rfl
  | off => rfl

/-- Nothing is due in the loop up to an instant. -/
def Quiet (horizon : Millis) (e : Evaluator) : Prop := ∀ t, e.due? = some t → horizon < t

theorem Quiet.mono {e : Evaluator} {earlier later : Millis} (quiet : e.Quiet later)
    (order : earlier ≤ later) : e.Quiet earlier :=
  fun t due => Nat.lt_of_le_of_lt order (quiet t due)

theorem quiet_of_ended {e : Evaluator} (ended : e.due? = none) (horizon : Millis) :
    e.Quiet horizon := by
  intro t due
  rw [ended] at due
  cases due

theorem not_quiet {e : Evaluator} {t horizon : Millis} (due : e.due? = some t)
    (order : t ≤ horizon) : ¬ e.Quiet horizon :=
  fun quiet => Nat.not_lt.mpr order (quiet t due)

/-- Nothing is due up to an instant after so many things have happened in the loop. -/
def QuietAfter (horizon : Millis) : Nat → Evaluator → Prop
  | 0, e => e.Quiet horizon
  | n + 1, e => QuietAfter horizon n e.next

/-- The loop gets past an instant. -/
def GetsPast (horizon : Millis) (e : Evaluator) : Prop := ∃ n, e.QuietAfter horizon n

theorem GetsPast.mono {e : Evaluator} {earlier later : Millis} (past : e.GetsPast later)
    (order : earlier ≤ later) : e.GetsPast earlier := by
  obtain ⟨n, quiet⟩ := past
  refine ⟨n, ?_⟩
  induction n generalizing e with
  | zero => exact Quiet.mono quiet order
  | succ n ih => exact ih quiet

end Evaluator

/-- A loop with the samples of its check. -/
structure CountedLoop where
  loop : Evaluator
  samples : CheckSamples

namespace CountedLoop

/-- The loop and the samples after what is next due in the loop. -/
def next (v : CountedLoop) : CountedLoop := ⟨v.loop.next, v.samples.reported v.loop.report?⟩

/-- All that is due in a loop up to an instant has happened. -/
inductive Settles (horizon : Millis) : CountedLoop → CountedLoop → Prop where
  | quiet {v : CountedLoop} : v.loop.Quiet horizon → Settles horizon v v
  | fire {v last : CountedLoop} {t : Millis} : v.loop.due? = some t → t ≤ horizon →
      Settles horizon v.next last → Settles horizon v last

variable {horizon : Millis} {v a b : CountedLoop}

theorem Settles.unique (first : Settles horizon v a) (second : Settles horizon v b) : a = b := by
  induction first with
  | quiet quiet =>
      cases second with
      | quiet => rfl
      | fire due order => exact absurd quiet (Evaluator.not_quiet due order)
  | fire due order _ ih =>
      cases second with
      | quiet quiet => exact absurd quiet (Evaluator.not_quiet due order)
      | fire _ _ rest => exact ih rest

theorem Settles.getsPast (settles : Settles horizon v a) : v.loop.GetsPast horizon := by
  induction settles with
  | quiet quiet => exact ⟨0, quiet⟩
  | fire _ _ _ ih =>
      obtain ⟨n, quiet⟩ := ih
      exact ⟨n + 1, quiet⟩

end CountedLoop

/-! ## All loops -/

namespace Evaluators

theorem earliest?_cons (e : Evaluator) (rest : List Evaluator) :
    earliest? (e :: rest) =
      match e.due?, earliest? rest with
      | none, later => later.map fun (t, i) => (t, i + 1)
      | some t, none => some (t, 0)
      | some t, some (u, i) => if u < t then some (u, i + 1) else some (t, 0) := by
  rw [earliest?]
  cases e.due? <;> cases earliest? rest <;> rfl

theorem due?_eq_none_of_earliest? {loops : List Evaluator} (none : earliest? loops = none) :
    ∀ e ∈ loops, e.due? = .none := by
  induction loops with
  | nil => nofun
  | cons e rest ih =>
      rw [earliest?_cons] at none
      intro x member
      cases due : e.due? with
      | some t =>
          cases later : earliest? rest with
          | none => simp only [due, later, reduceCtorEq] at none
          | some pair =>
              simp only [due, later] at none
              split at none <;> cases none
      | none =>
          simp only [due, Option.map_eq_none_iff] at none
          rcases List.mem_cons.mp member with rfl | member
          · exact due
          · exact ih none x member

/-- The earliest instant is due in the loop of its number, and in no loop anything is due before. -/
theorem due?_of_earliest? {loops : List Evaluator} {t : Millis} {i : Nat}
    (found : earliest? loops = some (t, i)) :
    (∃ e, loops[i]? = some e ∧ e.due? = some t) ∧ ∀ e ∈ loops, ∀ u, e.due? = some u → t ≤ u := by
  induction loops generalizing t i with
  | nil => cases found
  | cons e rest ih =>
      rw [earliest?_cons] at found
      cases due : e.due? with
      | none =>
          simp only [due, Option.map_eq_some_iff, Prod.mk.injEq] at found
          obtain ⟨⟨u, j⟩, later, rfl, rfl⟩ := found
          obtain ⟨here, least⟩ := ih later
          refine ⟨here, fun x member u' dueX => ?_⟩
          rcases List.mem_cons.mp member with rfl | member
          · rw [due] at dueX
            cases dueX
          · exact least x member u' dueX
      | some s =>
          cases later : earliest? rest with
          | none =>
              simp only [due, later, Option.some.injEq, Prod.mk.injEq] at found
              obtain ⟨rfl, rfl⟩ := found
              refine ⟨⟨e, rfl, due⟩, fun x member u dueX => ?_⟩
              rcases List.mem_cons.mp member with rfl | member
              · rw [due] at dueX
                exact Nat.le_of_eq (Option.some.inj dueX)
              · rw [due?_eq_none_of_earliest? later x member] at dueX
                cases dueX
          | some pair =>
              obtain ⟨u, j⟩ := pair
              obtain ⟨here, least⟩ := ih later
              simp only [due, later] at found
              split at found
              · rename_i before
                obtain ⟨rfl, rfl⟩ := Prod.mk.inj (Option.some.inj found)
                refine ⟨here, fun x member u' dueX => ?_⟩
                rcases List.mem_cons.mp member with rfl | member
                · rw [due] at dueX
                  cases dueX
                  exact Nat.le_of_lt before
                · exact least x member u' dueX
              · rename_i notBefore
                obtain ⟨rfl, rfl⟩ := Prod.mk.inj (Option.some.inj found)
                refine ⟨⟨e, rfl, due⟩, fun x member u' dueX => ?_⟩
                rcases List.mem_cons.mp member with rfl | member
                · rw [due] at dueX
                  exact Nat.le_of_eq (Option.some.inj dueX)
                · exact Nat.le_trans (Nat.not_lt.mp notBefore) (least x member u' dueX)

theorem fireAt_eq {loops : List Evaluator} {i : Nat} {e : Evaluator} (found : loops[i]? = some e)
    (m : Metrics) :
    fireAt i loops m = (loops.modify i Evaluator.next, m.reported e.signal.name e.report?) := by
  induction loops generalizing i with
  | nil => cases found
  | cons x rest ih =>
      cases i with
      | zero =>
          cases found
          rw [fireAt, Evaluator.fire_eq]
          rfl
      | succ i =>
          rw [fireAt, ih found]
          rfl

theorem fireNext_eq {s : Evaluators} {t : Millis} {i : Nat} {e : Evaluator}
    (found : s.loops[i]? = some e) :
    s.fireNext t i =
      ⟨t, s.loops.modify i Evaluator.next, s.metrics.reported e.signal.name e.report?⟩ := by
  rw [fireNext, fireAt_eq found]

/-- All that is due in the loops up to an instant has happened, in the order of time. -/
inductive Runs (horizon : Millis) : Evaluators → Evaluators → Prop where
  | done {s : Evaluators} : (∀ e ∈ s.loops, e.Quiet horizon) →
      Runs horizon s { s with now := horizon }
  | fire {s last : Evaluators} {t : Millis} {i : Nat} : earliest? s.loops = some (t, i) →
      t ≤ horizon → Runs horizon (s.fireNext t i) last → Runs horizon s last

variable {horizon : Millis} {s last : Evaluators}

/-- A loop that is due by an instant keeps all loops from being quiet up to it. -/
theorem not_all_quiet {t : Millis} {i : Nat} (found : earliest? s.loops = some (t, i))
    (order : t ≤ horizon) : ¬ ∀ e ∈ s.loops, e.Quiet horizon := by
  intro quiet
  obtain ⟨⟨e, here, due⟩, -⟩ := due?_of_earliest? found
  exact Evaluator.not_quiet due order (quiet e (List.mem_of_getElem? here))

/-- Where only so much follows, what is due first is done, and then the rest. -/
theorem run_of_acc (acc : Acc (Follows horizon) s) :
    s.run horizon =
      match earliest? s.loops with
      | none => { s with now := horizon }
      | some (t, i) =>
          if t ≤ horizon then (s.fireNext t i).run horizon else { s with now := horizon } := by
  refine (WellFounded.partialExtrinsicFix_eq_apply_of_acc acc).trans ?_
  split
  · rename_i nothing
    simp only [nothing]
  · rename_i t i found
    simp only [found]
    rfl

namespace Runs

/-- A run that gets there is one after which nothing follows for ever. -/
theorem acc (runs : Runs horizon s last) : Acc (Follows horizon) s := by
  induction runs with
  | done quiet =>
      refine .intro _ fun next follows => ?_
      obtain ⟨t, i, found, order, -⟩ := follows
      exact absurd quiet (not_all_quiet found order)
  | fire found order _ ih =>
      refine .intro _ fun next follows => ?_
      obtain ⟨t, i, found', -, rfl⟩ := follows
      rw [found] at found'
      cases found'
      exact ih

/-- **The loops get where the relation says.** -/
theorem run_eq (runs : Runs horizon s last) : s.run horizon = last := by
  induction runs with
  | @done s quiet =>
      rw [run_of_acc (Runs.done quiet).acc]
      split
      · rfl
      · rename_i t i found
        have beyond : ¬ t ≤ horizon := fun order => not_all_quiet found order quiet
        rw [if_neg beyond]
  | fire found order rest ih =>
      rw [run_of_acc (Runs.fire found order rest).acc, found]
      simp only [order, if_true]
      exact ih

theorem now_eq (runs : Runs horizon s last) : last.now = horizon := by
  induction runs with
  | done => rfl
  | fire _ _ _ ih => exact ih

/-- Where a run leads does not depend on what the clock shows at first. -/
theorem of_now (runs : Runs horizon s last) (now : Millis) :
    Runs horizon { s with now := now } last := by
  cases runs with
  | done quiet => exact .done (s := { s with now := now }) quiet
  | fire found order rest => exact .fire (s := { s with now := now }) found order rest

/-- A run to a later instant goes on where the run to an earlier one has ended. -/
theorem onward {earlier later : Millis} {s₁ s₂ : Evaluators} (first : Runs earlier s s₁)
    (order : earlier ≤ later) (whole : Runs later s s₂) : Runs later s₁ s₂ := by
  induction first with
  | done => exact whole.of_now _
  | fire found due _ ih =>
      cases whole with
      | done quiet => exact absurd quiet (not_all_quiet found (Nat.le_trans due order))
      | fire found' _ rest =>
          rw [found] at found'
          cases found'
          exact ih rest

end Runs

/-! ## Getting there -/

/-- So many things happen in the loops until nothing is due up to an instant. -/
inductive QuietIn (horizon : Millis) : Nat → List Evaluator → Prop where
  | nil : QuietIn horizon 0 []
  | cons {n total : Nat} {e : Evaluator} {rest : List Evaluator} : e.QuietAfter horizon n →
      QuietIn horizon total rest → QuietIn horizon (n + total) (e :: rest)

theorem quietIn_of_getsPast {loops : List Evaluator}
    (past : ∀ e ∈ loops, e.GetsPast horizon) : ∃ total, QuietIn horizon total loops := by
  induction loops with
  | nil => exact ⟨0, .nil⟩
  | cons e rest ih =>
      obtain ⟨n, quiet⟩ := past e List.mem_cons_self
      obtain ⟨total, others⟩ := ih fun x member => past x (List.mem_cons_of_mem e member)
      exact ⟨n + total, .cons quiet others⟩

/-- Each thing that happens leaves one less. -/
theorem QuietIn.fire {total i : Nat} {loops : List Evaluator} {e : Evaluator}
    (quietIn : QuietIn horizon total loops) (found : loops[i]? = some e)
    (busy : ¬ e.Quiet horizon) :
    ∃ left, total = left + 1 ∧ QuietIn horizon left (loops.modify i Evaluator.next) := by
  induction quietIn generalizing i with
  | nil => cases found
  | @cons n total x rest quiet others ih =>
      cases i with
      | zero =>
          cases found
          cases n with
          | zero => exact absurd quiet busy
          | succ n => exact ⟨n + total, by omega, .cons quiet others⟩
      | succ i =>
          obtain ⟨left, rfl, fired⟩ := ih found
          exact ⟨n + left, by omega, .cons quiet fired⟩

/-- **Loops that all get past an instant get there together.** -/
theorem runs_run (past : ∀ e ∈ s.loops, e.GetsPast horizon) : Runs horizon s (s.run horizon) := by
  suffices runs : ∃ last, Runs horizon s last by
    obtain ⟨last, runs⟩ := runs
    rw [runs.run_eq]
    exact runs
  obtain ⟨total, quietIn⟩ := quietIn_of_getsPast past
  clear past
  induction total generalizing s with
  | zero =>
      refine ⟨_, .done fun e member => Classical.byContradiction fun busy => ?_⟩
      obtain ⟨i, found⟩ := List.mem_iff_getElem?.mp member
      obtain ⟨_, impossible, _⟩ := quietIn.fire found busy
      cases impossible
  | succ total ih =>
      by_cases quiet : ∀ e ∈ s.loops, e.Quiet horizon
      · exact ⟨_, .done quiet⟩
      · -- some loop is busy, so the earliest of all is due by the horizon
        obtain ⟨e, member, busy⟩ : ∃ e ∈ s.loops, ¬ e.Quiet horizon := by
          simpa only [Classical.not_forall, exists_prop] using quiet
        obtain ⟨u, dueE, early⟩ : ∃ u, e.due? = some u ∧ u ≤ horizon := by
          simpa only [Evaluator.Quiet, Classical.not_forall, exists_prop, Nat.not_lt] using busy
        cases found : earliest? s.loops with
        | none =>
            rw [due?_eq_none_of_earliest? found e member] at dueE
            cases dueE
        | some pair =>
            obtain ⟨t, i⟩ := pair
            obtain ⟨⟨x, here, due⟩, least⟩ := due?_of_earliest? found
            have order : t ≤ horizon := Nat.le_trans (least e member u dueE) early
            obtain ⟨left, count, fired⟩ := quietIn.fire here (Evaluator.not_quiet due order)
            obtain rfl : total = left := by omega
            have next : QuietIn horizon total (s.fireNext t i).loops := by
              rw [fireNext_eq here]
              exact fired
            obtain ⟨last, runs⟩ := ih next
            exact ⟨last, .fire found order runs⟩

/-! ## Seen from one loop -/

/-- No two checks have the same name. -/
def Distinct (loops : List Evaluator) : Prop := (loops.map fun e => e.signal.name).Nodup

theorem distinct_modify {loops : List Evaluator} (distinct : Distinct loops) (i : Nat) :
    Distinct (loops.modify i Evaluator.next) := by
  have same : (loops.modify i Evaluator.next).map (fun e => e.signal.name) =
      loops.map fun e => e.signal.name := by
    refine List.ext_getElem? fun j => ?_
    simp only [List.getElem?_map, List.getElem?_modify]
    cases loops[j]? with
    | none => rfl
    | some e =>
        by_cases here : i = j
        · simp [here, Evaluator.next_name]
        · simp [here]
  rw [Distinct, same]
  exact distinct

theorem Distinct.index_eq {loops : List Evaluator} (distinct : Distinct loops) {i j : Nat}
    {a b : Evaluator} (foundA : loops[i]? = some a) (foundB : loops[j]? = some b)
    (same : a.signal.name = b.signal.name) : i = j := by
  have inside : i < (loops.map fun e => e.signal.name).length := by
    rw [List.length_map]
    exact (List.getElem?_eq_some_iff.mp foundA).1
  refine (List.getElem?_inj inside distinct).mp ?_
  rw [List.getElem?_map, List.getElem?_map, foundA, foundB]
  exact congrArg some same

/-- **Seen from one loop, a run of all is a run of its own.**  The samples of its check are its own, too,
if no other check has the name. -/
theorem Runs.settles (runs : Runs horizon s last) {i : Nat} {e : Evaluator}
    (found : s.loops[i]? = some e) (samples : CheckSamples) :
    ∃ e' samples', last.loops[i]? = some e' ∧
      CountedLoop.Settles horizon ⟨e, samples⟩ ⟨e', samples'⟩ ∧
      (Distinct s.loops → s.metrics.ChecksOrdered → s.metrics.ofCheck e.signal.name = samples →
        last.metrics.ofCheck e.signal.name = samples') := by
  induction runs generalizing e samples with
  | done quiet =>
      exact ⟨e, samples, found, .quiet (quiet e (List.mem_of_getElem? found)), fun _ _ same => same⟩
  | @fire s last t j earliest order _ ih =>
      obtain ⟨⟨x, here, due⟩, -⟩ := due?_of_earliest? earliest
      rw [fireNext_eq here] at ih
      by_cases own : j = i
      · -- the loop itself does what is due
        subst own
        rw [found] at here
        cases here
        have fired : (s.loops.modify j Evaluator.next)[j]? = some e.next := by
          simp [found]
        obtain ⟨e', samples', found', settles, counted⟩ := ih fired (samples.reported e.report?)
        refine ⟨e', samples', found', .fire due order settles, fun distinct ordered same => ?_⟩
        rw [Evaluator.next_name] at counted
        refine counted (distinct_modify distinct j) (Metrics.checksOrdered_reported ordered _ _) ?_
        rw [Metrics.ofCheck_reported ordered, if_pos rfl, same]
      · -- another loop does, and reports under another name
        have kept : (s.loops.modify j Evaluator.next)[i]? = some e := by
          simp [own, found]
        obtain ⟨e', samples', found', settles, counted⟩ := ih kept samples
        refine ⟨e', samples', found', settles, fun distinct ordered same => ?_⟩
        have otherName : e.signal.name ≠ x.signal.name :=
          fun same => own (distinct.index_eq here found same.symm)
        refine counted (distinct_modify distinct j) (Metrics.checksOrdered_reported ordered _ _) ?_
        rw [Metrics.ofCheck_reported ordered, if_neg otherName, same]

/-! ## Time and the shutdown -/

theorem runTo_of_le {t : Millis} (order : t ≤ s.now) : s.runTo t = s :=
  if_neg (Nat.not_lt.mpr order)

theorem runTo_of_lt {t : Millis} (later : s.now < t) : s.runTo t = s.run t := if_pos later

/-- Stopping at an instant before moving on changes nothing. -/
theorem runTo_runTo {t u : Millis} (past : ∀ e ∈ s.loops, e.GetsPast (max t u)) :
    (s.runTo t).runTo u = s.runTo (max t u) := by
  rcases Nat.lt_or_ge s.now t with later | shown
  · have first : Runs t s (s.run t) :=
      runs_run fun e member => (past e member).mono (Nat.le_max_left t u)
    rw [runTo_of_lt later]
    rcases Nat.lt_or_ge t u with order | order
    · have latest : max t u = u := Nat.max_eq_right (Nat.le_of_lt order)
      rw [latest] at past ⊢
      have whole : Runs u s (s.run u) := runs_run past
      have shows : (s.run t).now < u := first.now_eq.symm ▸ order
      rw [runTo_of_lt shows, runTo_of_lt (Nat.lt_trans later order)]
      exact (first.onward (Nat.le_of_lt order) whole).run_eq
    · have shows : u ≤ (s.run t).now := first.now_eq.symm ▸ order
      rw [runTo_of_le shows, Nat.max_eq_left order, runTo_of_lt later]
  · rw [runTo_of_le shown]
    rcases Nat.lt_or_ge s.now u with later | shownToo
    · rw [Nat.max_eq_right (Nat.le_trans shown (Nat.le_of_lt later))]
    · rw [runTo_of_le shownToo, runTo_of_le (Nat.max_le.mpr ⟨shown, shownToo⟩)]

/-- Every loop has ended, or there never was one. -/
def Ended (s : Evaluators) : Prop := ∀ e ∈ s.loops, e.due? = none

/-- Where every loop has ended, only the clock moves. -/
theorem Ended.runTo_eq (ended : s.Ended) (t : Millis) :
    s.runTo t = { s with now := max s.now t } := by
  rcases Nat.lt_or_ge s.now t with later | shown
  · have still : Runs t s { s with now := t } :=
      .done fun e member => Evaluator.quiet_of_ended (ended e member) t
    rw [runTo_of_lt later, still.run_eq, Nat.max_eq_right (Nat.le_of_lt later)]
  · rw [runTo_of_le shown, Nat.max_eq_left shown]

theorem ended_shutdown (s : Evaluators) : s.shutdown.Ended := by
  intro e member
  obtain ⟨⟨periods, behaviour, signal, starts, phase⟩, -, rfl⟩ := List.mem_map.mp member
  cases phase <;> rfl

/-- A shutdown finds nothing to end where every loop has ended. -/
theorem Ended.shutdown_eq (ended : s.Ended) : s.shutdown = s := by
  have same : s.loops.map (fun e => e.stop s.now) = s.loops.map id :=
    List.map_congr_left fun e member => Evaluator.stop_of_ended (ended e member) s.now
  rw [shutdown, same, List.map_id]

/-- Time passes to an instant.  A shutdown that comes by then ends every loop on the way. -/
def passTo (shutdown : Option Millis) (s : Evaluators) (t : Millis) : Evaluators :=
  match shutdown with
  | none => s.runTo t
  | some c => if c ≤ t then (s.runTo c).shutdown.runTo t else s.runTo t

/-- Up to when the loops run, as seen from an instant. -/
def runsUntil (shutdown : Option Millis) (t : Millis) : Millis :=
  match shutdown with
  | none => t
  | some c => min c t

theorem runsUntil_mono (shutdown : Option Millis) {t u : Millis} (order : t ≤ u) :
    runsUntil shutdown t ≤ runsUntil shutdown u := by
  cases shutdown with
  | none => exact order
  | some c => exact Nat.le_min.mpr ⟨Nat.min_le_left c t, Nat.le_trans (Nat.min_le_right c t) order⟩

theorem Ended.passTo_eq (ended : s.Ended) (shutdown : Option Millis) (t : Millis) :
    passTo shutdown s t = { s with now := max s.now t } := by
  cases shutdown with
  | none => exact ended.runTo_eq t
  | some c =>
      rw [passTo]
      split
      · rename_i shut
        have moved : ({ s with now := max s.now c } : Evaluators).Ended := ended
        rw [ended.runTo_eq, moved.shutdown_eq, moved.runTo_eq, Nat.max_assoc,
          Nat.max_eq_right shut]
      · exact ended.runTo_eq t

/-- **Stopping at an instant to look changes nothing**, before the shutdown as well as after. -/
theorem passTo_passTo {shutdown : Option Millis} {t u : Millis}
    (past : ∀ e ∈ s.loops, e.GetsPast (runsUntil shutdown (max t u))) :
    passTo shutdown (passTo shutdown s t) u = passTo shutdown s (max t u) := by
  cases shutdown with
  | none => exact runTo_runTo past
  | some c =>
      rcases Nat.lt_or_ge t c with before | shut
      · have first : passTo (some c) s t = s.runTo t := if_neg (Nat.not_le.mpr before)
        rw [first]
        simp only [passTo, runsUntil] at past ⊢
        rcases Nat.lt_or_ge u c with beforeToo | shutThen
        · have both : max t u < c := Nat.max_lt.mpr ⟨before, beforeToo⟩
          rw [Nat.min_eq_right (Nat.le_of_lt both)] at past
          rw [if_neg (Nat.not_le.mpr beforeToo), if_neg (Nat.not_le.mpr both)]
          exact runTo_runTo past
        · have latest : max t u = u :=
            Nat.max_eq_right (Nat.le_of_lt (Nat.lt_of_lt_of_le before shutThen))
          have upTo : max t c = c := Nat.max_eq_right (Nat.le_of_lt before)
          rw [latest, Nat.min_eq_left shutThen, ← upTo] at past
          rw [latest, if_pos shutThen, if_pos shutThen, runTo_runTo past, upTo]
      · -- every loop has ended, so only the clock moves on
        have ended := (s.runTo c).ended_shutdown
        have moved : ((s.runTo c).shutdown.runTo t).Ended := by
          rw [ended.runTo_eq]
          exact ended
        have first : passTo (some c) s t = (s.runTo c).shutdown.runTo t := if_pos shut
        have whole : passTo (some c) s (max t u) = (s.runTo c).shutdown.runTo (max t u) :=
          if_pos (Nat.le_trans shut (Nat.le_max_left t u))
        rw [first, whole, moved.passTo_eq, ended.runTo_eq, ended.runTo_eq, Nat.max_assoc]

/-- However often somebody looks before an instant, the instant alone says what is seen there. -/
theorem foldl_passTo {shutdown : Option Millis} {t : Millis} {before : List Millis}
    (order : ∀ u ∈ before, u ≤ t)
    (past : ∀ e ∈ s.loops, e.GetsPast (runsUntil shutdown t)) :
    (before ++ [t]).foldl (passTo shutdown) s = passTo shutdown s t := by
  suffices later : ∀ looks : List Millis, (∀ u ∈ looks, u ≤ t) → ∀ u ≤ t,
      (looks ++ [t]).foldl (passTo shutdown) (passTo shutdown s u) = passTo shutdown s t by
    cases before with
    | nil => rfl
    | cons u rest =>
        exact later rest (fun x member => order x (List.mem_cons_of_mem u member)) u
          (order u List.mem_cons_self)
  intro looks
  induction looks with
  | nil =>
      intro _ u early
      have latest : max u t = t := Nat.max_eq_right early
      rw [← latest] at past
      exact (passTo_passTo past).trans (congrArg (passTo shutdown s) latest)
  | cons x rest ih =>
      intro early u earlyU
      have both : max u x ≤ t := Nat.max_le.mpr ⟨earlyU, early x List.mem_cons_self⟩
      have pastBoth : ∀ e ∈ s.loops, e.GetsPast (runsUntil shutdown (max u x)) :=
        fun e member => (past e member).mono (runsUntil_mono shutdown both)
      rw [List.cons_append, List.foldl_cons, passTo_passTo pastBoth]
      exact ih (fun y member => early y (List.mem_cons_of_mem x member)) (max u x) both

end Evaluators

end StartupGate

/-
# StartupGate.Proofs.Retry.Timeline -- when a run makes its calls and how it ends

A run goes from one failed attempt to the next.  Here its course is written down beforehand,
without a run: when the attempt of an index starts and ends if the run gets there
(`Retried.start`, `Retried.finish`), and whether that attempt is the last and how the run
then ends (`Retried.ending?`).

* `Retried.run_eq_after`: a run that gets to an index has made the calls and the waits before
  it, and no others.
* `Retried.run_of_endsAt`: the course of a run that nothing cancels in time.
* `Retried.run_of_underway`: the course of a run that is cancelled.
* `Retried.exists_endsAt`: every run comes to its last attempt, within its budget.
-/
import Mathlib.Data.Nat.Find
import StartupGate.Retry.Run

set_option autoImplicit false

namespace StartupGate.Retry

variable {ε α : Type}

/-- How long an attempt runs; one that hangs has no end, and no time is given to it. -/
def Attempt.takes : Attempt ε α → Millis
  | .ends _ takes => takes
  | .hangs => 0

/-- An operation that is tried under a policy: what its attempts do, and the shares of jitter that are
drawn between them. -/
structure Retried (ε α : Type) where
  policy : Policy
  shares : Nat → Binary64
  attempts : Nat → Attempt ε α

namespace Retried

variable (o : Retried ε α)

/-- The run of the operation. -/
def run (cancel : Option Millis) : Run ε α := Retry.run o.policy o.shares o.attempts cancel

/-! ## The course, written down -/

/-- The delay between the attempt of an index and the next. -/
def delay (k : Nat) : Except DelayError Duration := o.policy.delay (k + 1) (o.shares (k + 1))

/-- How long is slept between the attempt of an index and the next. -/
def pause (k : Nat) : Millis :=
  match o.delay k with
  | .ok d => d.asSleep.millisUp
  | .error _ => 0

/-- When the attempt of an index starts, if all before it fail. -/
def start : Nat → Millis
  | 0 => 0
  | k + 1 => start k + (o.attempts k).takes + o.pause k

/-- When the attempt of an index ends. -/
def finish (k : Nat) : Millis := o.start k + (o.attempts k).takes

/-- How the run ends with the attempt of an index, if another does not follow. -/
def ending? (k : Nat) : Option (Outcome ε α) :=
  match o.attempts k with
  | .hangs => some .endless
  | .ends (.ok value) _ => some (.done value)
  | .ends (.error e) _ =>
      if o.policy.budget ≤ k + 1 then some (.exhausted (k + 1) e)
      else match o.delay k with
        | .error cause => some (.noDelay cause)
        | .ok _ => none

/-- The attempt of an index is made, unless the run is cancelled before. -/
def Reaches (k : Nat) : Prop := ∀ j < k, o.ending? j = none

/-- The attempt of an index is the last, unless the run is cancelled before. -/
structure EndsAt (k : Nat) (outcome : Outcome ε α) : Prop where
  reaches : o.Reaches k
  ending : o.ending? k = some outcome

/-! ## The order of the course -/

theorem start_le_finish (k : Nat) : o.start k ≤ o.finish k := Nat.le_add_right _ _

theorem finish_le_start (k : Nat) : o.finish k ≤ o.start (k + 1) := Nat.le_add_right _ _

theorem start_mono {j k : Nat} (order : j ≤ k) : o.start j ≤ o.start k := by
  induction order with
  | refl => exact Nat.le_refl _
  | @step k _ ih => exact Nat.le_trans ih (Nat.le_trans (o.start_le_finish k) (o.finish_le_start k))

theorem finish_mono {j k : Nat} (order : j ≤ k) : o.finish j ≤ o.finish k := by
  rcases Nat.lt_or_eq_of_le order with earlier | rfl
  · exact Nat.le_trans (o.finish_le_start j)
      (Nat.le_trans (o.start_mono earlier) (o.start_le_finish k))
  · exact Nat.le_refl _

variable {o} {j k : Nat} {outcome : Outcome ε α} {cancel : Option Millis} {c : Millis}

theorem Reaches.of_le (reaches : o.Reaches k) (order : j ≤ k) : o.Reaches j :=
  fun i before => reaches i (Nat.lt_of_lt_of_le before order)

/-- No run gets past its last attempt. -/
theorem EndsAt.le (last : o.EndsAt k outcome) (reaches : o.Reaches j) : j ≤ k := by
  refine Nat.le_of_not_lt fun past => ?_
  have goesOn : o.ending? k = none := reaches k past
  exact absurd (goesOn.symm.trans last.ending) nofun

/-! ## One attempt -/

theorem ending?_of_hangs (hangs : o.attempts k = .hangs) : o.ending? k = some .endless := by
  rw [ending?, hangs]

/-- Only an attempt that hangs has no end. -/
theorem hangs_of_endless (endless : o.ending? k = some .endless) : o.attempts k = .hangs := by
  rw [ending?] at endless
  split at endless
  · assumption
  · cases endless
  · split at endless
    · cases endless
    · split at endless <;> cases endless

/-- There is no delay to wait for only where one is needed. -/
theorem delay_of_noDelay {cause : DelayError} (lacks : o.ending? k = some (.noDelay cause)) :
    k + 1 < o.policy.budget ∧ (∃ e takes, o.attempts k = .ends (.error e) takes) ∧
      o.delay k = .error cause := by
  rw [ending?] at lacks
  split at lacks
  · cases lacks
  · cases lacks
  · next e takes fails =>
      split at lacks
      · cases lacks
      · next spare =>
          split at lacks
          · next found =>
              cases lacks
              exact ⟨Nat.lt_of_not_le spare, ⟨e, takes, fails⟩, found⟩
          · cases lacks

/-- If another attempt follows, this one fails within the budget and there is a delay to wait. -/
theorem eq_of_goesOn (goesOn : o.ending? k = none) :
    k + 1 < o.policy.budget ∧ (∃ e takes, o.attempts k = .ends (.error e) takes) ∧
      ∃ d, o.delay k = .ok d := by
  rw [ending?] at goesOn
  split at goesOn
  · cases goesOn
  · cases goesOn
  · next e takes fails =>
      split at goesOn
      · cases goesOn
      · next spare =>
          split at goesOn
          · cases goesOn
          · next d found => exact ⟨Nat.lt_of_not_le spare, ⟨e, takes, fails⟩, d, found⟩

/-- Every run comes to its last attempt, within its budget. -/
theorem exists_endsAt (o : Retried ε α) :
    ∃ k outcome, o.EndsAt k outcome ∧ k < o.policy.budget := by
  have some_ends : ∃ k, o.ending? k ≠ none :=
    ⟨o.policy.budget, fun goesOn => absurd (eq_of_goesOn goesOn).1 (by omega)⟩
  have reaches : o.Reaches (Nat.find some_ends) :=
    fun j before => not_not.mp (Nat.find_min some_ends before)
  obtain ⟨outcome, ending⟩ := Option.ne_none_iff_exists'.mp (Nat.find_spec some_ends)
  refine ⟨Nat.find some_ends, outcome, ⟨reaches, ending⟩, ?_⟩
  -- the attempt before the last was not the last of the budget
  cases first : Nat.find some_ends with
  | zero => exact Nat.lt_of_lt_of_le Nat.zero_lt_one (Nat.le_max_right _ _)
  | succ k => exact (eq_of_goesOn (reaches k (first ▸ Nat.lt_succ_self k))).1

/-! ## The run follows the course -/

/-- What the run still does from the attempt of an index on. -/
def rest (o : Retried ε α) (cancel : Option Millis) (k : Nat) : Run ε α :=
  runFrom o.policy o.shares o.attempts cancel (o.policy.budget - 1 - k) (k + 1) (o.start k)

/-- The calls and the waits before an index, and then a run. -/
def after (o : Retried ε α) (k : Nat) (r : Run ε α) : Run ε α :=
  { r with
    calls := (List.range k).map o.start ++ r.calls
    waits := (List.range k).map o.pause ++ r.waits }

/-- A run that ends with the attempt of an index. -/
def ended (o : Retried ε α) (k : Nat) (outcome : Outcome ε α) (finished : Millis) : Run ε α :=
  ⟨outcome, (List.range (k + 1)).map o.start, (List.range k).map o.pause, finished⟩

theorem after_called_waited (k : Nat) (r : Run ε α) :
    o.after k (Run.called (o.start k) (Run.waited (o.pause k) r)) = o.after (k + 1) r := by
  simp [after, Run.called, Run.waited, List.range_succ]

theorem after_called_ending (k : Nat) (outcome : Outcome ε α) (finished : Millis) :
    o.after k (Run.called (o.start k) (.ending outcome finished)) = o.ended k outcome finished := by
  simp [after, Run.called, Run.ending, ended, List.range_succ]

theorem cancelBefore?_eq_none {t : Millis} (late : ∀ c ∈ cancel, t ≤ c) :
    cancelBefore? cancel t = none := by
  cases cancel with
  | none => rfl
  | some c => exact if_neg (Nat.not_lt.mpr (late c rfl))

theorem cancelBefore?_of_lt {t : Millis} (early : c < t) : cancelBefore? (some c) t = some c :=
  if_pos early

/-- **One attempt and what follows it**, in terms of the course. -/
theorem rest_eq (o : Retried ε α) (cancel : Option Millis) (k : Nat) :
    o.rest cancel k = Run.called (o.start k)
      (match o.attempts k with
      | .hangs =>
          match cancel with
          | some c => .ending (.cancelled (k + 1)) (max (o.start k) c)
          | none => .ending .endless (o.start k)
      | .ends _ _ =>
          match cancelBefore? cancel (o.finish k), o.ending? k with
          | some c, _ => .ending (.cancelled (k + 1)) (max (o.start k) c)
          | none, some outcome => .ending outcome (o.finish k)
          | none, none =>
              match cancelBefore? cancel (o.start (k + 1)) with
              | some c => .ending (.cancelled (k + 1)) (max (o.finish k) c)
              | none => Run.waited (o.pause k) (o.rest cancel (k + 1))) := by
  rw [rest, runFrom.eq_def]
  simp only [Nat.add_sub_cancel]
  congr 1
  cases attempt : o.attempts k with
  | hangs => rfl
  | ends result takes =>
      have finish : o.start k + takes = o.finish k := by rw [Retried.finish, attempt]; rfl
      simp only [finish]
      cases cancelBefore? cancel (o.finish k) with
      | some c => rfl
      | none =>
          cases result with
          | ok value => simp only [ending?, attempt]
          | error e =>
              simp only [ending?, attempt]
              rcases Nat.lt_or_ge (k + 1) o.policy.budget with spare | spent
              · obtain ⟨remaining, budget⟩ : ∃ m, o.policy.budget - 1 - k = m + 1 :=
                  ⟨o.policy.budget - 1 - (k + 1), by omega⟩
                have fewer : o.policy.budget - 1 - (k + 1) = remaining := by omega
                rw [budget, if_neg (Nat.not_le.mpr spare)]
                cases found : o.delay k with
                | error cause =>
                    rw [delay] at found
                    simp only [found]
                | ok d =>
                    have pause : o.pause k = d.asSleep.millisUp := by rw [Retried.pause, found]
                    have next : Millis.wake (o.finish k) d = o.start (k + 1) := by
                      rw [Millis.wake, ← pause]
                      rfl
                    have span : o.start (k + 1) - o.finish k = o.pause k := Nat.add_sub_cancel_left ..
                    rw [delay] at found
                    cases inTime : cancelBefore? cancel (o.start (k + 1)) <;>
                      simp only [found, next, inTime, span, rest, fewer]
              · have none_left : o.policy.budget - 1 - k = 0 := by omega
                rw [none_left, if_pos spent]

/-- After an attempt that another one follows, the run waits and goes on with the next. -/
theorem rest_of_goesOn (goesOn : o.ending? k = none) (late : ∀ c ∈ cancel, o.start (k + 1) ≤ c) :
    o.rest cancel k = Run.called (o.start k) (Run.waited (o.pause k) (o.rest cancel (k + 1))) := by
  obtain ⟨-, ⟨e, takes, fails⟩, -⟩ := eq_of_goesOn goesOn
  have inTime : cancelBefore? cancel (o.finish k) = none :=
    cancelBefore?_eq_none fun c given => Nat.le_trans (o.finish_le_start k) (late c given)
  rw [rest_eq, fails]
  simp only [inTime, goesOn, cancelBefore?_eq_none late]

/-- **A run that gets to an index** has made the calls and the waits before it. -/
theorem run_eq_after (reaches : o.Reaches k) (late : ∀ c ∈ cancel, o.start k ≤ c) :
    o.run cancel = o.after k (o.rest cancel k) := by
  induction k with
  | zero => rfl
  | succ k ih =>
      have before : ∀ c ∈ cancel, o.start k ≤ c := fun c given =>
        Nat.le_trans (o.start_mono (Nat.le_succ k)) (late c given)
      rw [ih (reaches.of_le (Nat.le_succ k)) before,
        rest_of_goesOn (reaches k (Nat.lt_succ_self k)) late, after_called_waited]

/-- The last attempt ends the run as it should, if it is not cancelled before. -/
theorem rest_of_ending (ending : o.ending? k = some outcome)
    (late : ∀ c ∈ cancel, outcome ≠ .endless ∧ o.finish k ≤ c) :
    o.rest cancel k = Run.called (o.start k) (.ending outcome (o.finish k)) := by
  have inTime : cancelBefore? cancel (o.finish k) = none :=
    cancelBefore?_eq_none fun c given => (late c given).2
  rw [rest_eq]
  cases attempt : o.attempts k with
  | ends result takes => simp only [inTime, ending]
  | hangs =>
      obtain rfl : outcome = .endless :=
        Option.some.inj (ending.symm.trans (ending?_of_hangs attempt))
      cases cancel with
      | none => rw [finish, attempt]; rfl
      | some c => exact absurd rfl (late c rfl).1

/-- **The course of a run that is not cancelled in time.** -/
theorem run_of_endsAt (last : o.EndsAt k outcome)
    (late : ∀ c ∈ cancel, outcome ≠ .endless ∧ o.finish k ≤ c) :
    o.run cancel = o.ended k outcome (o.finish k) := by
  have started : ∀ c ∈ cancel, o.start k ≤ c := fun c given =>
    Nat.le_trans (o.start_le_finish k) (late c given).2
  rw [run_eq_after last.reaches started, rest_of_ending last.ending late, after_called_ending]

/-- An instant falls into the attempt of an index or into the sleep after it. -/
structure Underway (o : Retried ε α) (k : Nat) (c : Millis) : Prop where
  started : o.start k ≤ c
  unfinished : o.attempts k = .hangs ∨ c < o.finish k ∨ (o.ending? k = none ∧ c < o.start (k + 1))

/-- Cancelling ends the attempt, or the sleep after it. -/
theorem rest_of_underway (underway : o.Underway k c) :
    o.rest (some c) k = Run.called (o.start k) (.ending (.cancelled (k + 1)) c) := by
  obtain ⟨started, unfinished⟩ := underway
  rw [rest_eq]
  cases attempt : o.attempts k with
  | hangs => simp only [Nat.max_eq_right started]
  | ends result takes =>
      rcases Nat.lt_or_ge c (o.finish k) with during | past
      · simp only [cancelBefore?_of_lt during, Nat.max_eq_right started]
      · obtain ⟨goesOn, asleep⟩ : o.ending? k = none ∧ c < o.start (k + 1) := by
          rcases unfinished with hangs | during | sleeping
          · exact absurd (attempt.symm.trans hangs) nofun
          · exact absurd during (Nat.not_lt.mpr past)
          · exact sleeping
        have inTime : cancelBefore? (some c) (o.finish k) = none :=
          cancelBefore?_eq_none fun _ given => Option.some.inj given ▸ past
        simp only [inTime, goesOn, cancelBefore?_of_lt asleep, Nat.max_eq_right past]

/-- **The course of a run that is cancelled**, in an attempt or in a sleep. -/
theorem run_of_underway (reaches : o.Reaches k) (underway : o.Underway k c) :
    o.run (some c) = o.ended k (.cancelled (k + 1)) c := by
  have started : ∀ c' ∈ some c, o.start k ≤ c' := fun c' given =>
    Option.some.inj given ▸ underway.started
  rw [run_eq_after reaches started, rest_of_underway underway, after_called_ending]

end Retried

end StartupGate.Retry

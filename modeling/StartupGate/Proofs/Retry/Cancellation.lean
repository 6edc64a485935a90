/-
# StartupGate.Proofs.Retry.Cancellation -- cancelling cuts a run short

Take a run that nothing cancels, and the same run cancelled at an instant.  Either the instant
comes after the end, or it falls into one attempt or into the sleep after it
(`Retried.done_or_underway`).  The calls before the instant are then the first ones of the whole
run, up to that attempt (`Retried.calls_before`).

* `Retried.cancelled_or_endsAt`: a run is cancelled or ends with its last attempt, and from that when
  it lasts for ever (`Retried.run_ne_endless`) or lacks a delay (`Retried.run_noDelay_iff`).
* `Retried.run_cancelled`: the cancelled run is the whole run or its first calls.
-/
import StartupGate.Proofs.Retry.Timeline

set_option autoImplicit false

namespace StartupGate.Retry

variable {ε α : Type}

/-- A run ends before an instant, by itself. -/
def Run.EndsBefore (r : Run ε α) (c : Millis) : Prop := r.outcome ≠ .endless ∧ r.finished < c

namespace Retried

variable {o : Retried ε α} {j k : Nat} {outcome : Outcome ε α} {c : Millis}

/-- **An instant comes after the end of a run, or falls into an attempt or the sleep after it.** -/
theorem done_or_underway (last : o.EndsAt k outcome) (c : Millis) :
    (outcome ≠ .endless ∧ o.finish k ≤ c) ∨ ∃ j, o.Reaches j ∧ o.Underway j c := by
  -- the first attempt that no other follows by the instant
  have stops : ∃ j, o.ending? j = none → c < o.start (j + 1) :=
    ⟨k, fun goesOn => absurd (goesOn.symm.trans last.ending) nofun⟩
  have earlier : ∀ j < Nat.find stops, o.ending? j = none ∧ o.start (j + 1) ≤ c := by
    intro j before
    have follows := Nat.find_min stops before
    rw [Classical.not_imp, Nat.not_lt] at follows
    exact follows
  have reaches : o.Reaches (Nat.find stops) := fun j before => (earlier j before).1
  have started : o.start (Nat.find stops) ≤ c := by
    cases first : Nat.find stops with
    | zero => exact Nat.zero_le c
    | succ j => exact (earlier j (first ▸ Nat.lt_succ_self j)).2
  cases ending : o.ending? (Nat.find stops) with
  | none => exact .inr ⟨_, reaches, started, .inr (.inr ⟨ending, Nat.find_spec stops ending⟩)⟩
  | some outcome' =>
      have isLast : Nat.find stops = k :=
        Nat.le_antisymm (last.le reaches) (EndsAt.le ⟨reaches, ending⟩ last.reaches)
      rw [isLast] at started ending
      obtain rfl : outcome' = outcome := Option.some.inj (ending.symm.trans last.ending)
      by_cases endless : outcome' = .endless
      · subst endless
        exact .inr ⟨k, last.reaches, started, .inl (hangs_of_endless ending)⟩
      · rcases Nat.lt_or_ge c (o.finish k) with during | past
        · exact .inr ⟨k, last.reaches, started, .inr (.inl during)⟩
        · exact .inl ⟨endless, past⟩

/-- A run is cancelled, or ends with its last attempt in time. -/
theorem cancelled_or_endsAt (o : Retried ε α) (cancel : Option Millis) :
    (∃ attempts, (o.run cancel).outcome = .cancelled attempts) ∨
      ∃ k, o.EndsAt k (o.run cancel).outcome ∧
        ∀ c ∈ cancel, (o.run cancel).outcome ≠ .endless ∧ o.finish k ≤ c := by
  obtain ⟨k, outcome, last, -⟩ := o.exists_endsAt
  cases cancel with
  | none =>
      have course : o.run none = o.ended k outcome (o.finish k) := run_of_endsAt last nofun
      rw [course]
      exact .inr ⟨k, last, nofun⟩
  | some c =>
      rcases done_or_underway last c with ⟨ends, past⟩ | ⟨j, reaches, underway⟩
      · have course : o.run (some c) = o.ended k outcome (o.finish k) :=
          run_of_endsAt last fun _ given => ⟨ends, Option.some.inj given ▸ past⟩
        rw [course]
        exact .inr ⟨k, last, fun _ given => ⟨ends, Option.some.inj given ▸ past⟩⟩
      · rw [run_of_underway reaches underway]
        exact .inl ⟨j + 1, rfl⟩

/-- A run whose attempts all end, or that is cancelled, does not last for ever. -/
theorem run_ne_endless {cancel : Option Millis}
    (ends : cancel.isSome ∨ ∀ k, o.attempts k ≠ .hangs) : (o.run cancel).outcome ≠ .endless := by
  intro endless
  rcases o.cancelled_or_endsAt cancel with ⟨attempts, cancelled⟩ | ⟨k, last, inTime⟩
  · rw [endless] at cancelled
    cases cancelled
  · rw [endless] at last
    rcases ends with given | answered
    · obtain ⟨c, given⟩ := Option.isSome_iff_exists.mp given
      exact (inTime c given).1 endless
    · exact answered k (hangs_of_endless last.ending)

/-- The run asks for the delay after the attempt of an index: it gets there, the attempt fails with
others left in the budget, and nothing cancels it before. -/
structure AsksDelay (o : Retried ε α) (cancel : Option Millis) (k : Nat) : Prop where
  reaches : o.Reaches k
  fails : ∃ e takes, o.attempts k = .ends (.error e) takes
  spare : k + 1 < o.policy.budget
  inTime : ∀ c ∈ cancel, o.finish k ≤ c

/-- **A run lacks a delay exactly if it asks for one that there is not.** -/
theorem run_noDelay_iff {cancel : Option Millis} {cause : DelayError} :
    (o.run cancel).outcome = .noDelay cause ↔
      ∃ k, o.AsksDelay cancel k ∧ o.delay k = .error cause := by
  constructor
  · intro lacks
    rcases o.cancelled_or_endsAt cancel with ⟨attempts, cancelled⟩ | ⟨k, last, inTime⟩
    · rw [lacks] at cancelled
      cases cancelled
    · rw [lacks] at last
      obtain ⟨spare, fails, error⟩ := delay_of_noDelay last.ending
      exact ⟨k, ⟨last.reaches, fails, spare, fun c given => (inTime c given).2⟩, error⟩
  · rintro ⟨k, ⟨reaches, ⟨e, takes, fails⟩, spare, inTime⟩, error⟩
    have ending : o.ending? k = some (.noDelay cause) := by
      simp only [ending?, fails, error, if_neg (Nat.not_le.mpr spare)]
    have ends : (Outcome.noDelay cause : Outcome ε α) ≠ .endless := by
      intro endless
      cases endless
    rw [run_of_endsAt ⟨reaches, ending⟩ fun c given => ⟨ends, inTime c given⟩]
    rfl

/-- A run does not lack a delay where the policy has all that the budget may need. -/
theorem run_ne_noDelay {cancel : Option Millis}
    (delays : ∀ k, k + 1 < o.policy.budget → ∃ d, o.delay k = .ok d) (cause : DelayError) :
    (o.run cancel).outcome ≠ .noDelay cause := by
  intro lacks
  obtain ⟨k, asks, error⟩ := run_noDelay_iff.mp lacks
  obtain ⟨d, found⟩ := delays k asks.spare
  rw [found] at error
  cases error

/-- The next attempt does not start by an instant in this one or in the sleep after it. -/
theorem Underway.lt_start (underway : o.Underway j c) (goesOn : o.ending? j = none) :
    c < o.start (j + 1) := by
  rcases underway.unfinished with hangs | during | ⟨-, asleep⟩
  · exact absurd (goesOn.symm.trans (ending?_of_hangs hangs)) nofun
  · exact Nat.lt_of_lt_of_le during (o.finish_le_start j)
  · exact asleep

/-- A run that an instant falls into has not ended before it. -/
theorem Underway.not_done (underway : o.Underway j c) (last : o.EndsAt k outcome)
    (reaches : o.Reaches j) : ¬ (outcome ≠ .endless ∧ o.finish k < c) := by
  rintro ⟨ends, past⟩
  have within : j ≤ k := last.le reaches
  rcases Nat.lt_or_eq_of_le within with earlier | rfl
  · have next : c < o.start (j + 1) := underway.lt_start (last.reaches j earlier)
    have begun : o.start (j + 1) ≤ o.finish k :=
      Nat.le_trans (o.start_mono earlier) (o.start_le_finish k)
    exact Nat.lt_asymm past (Nat.lt_of_lt_of_le next begun)
  · rcases underway.unfinished with hangs | during | ⟨goesOn, -⟩
    · exact ends (Option.some.inj (last.ending.symm.trans (ending?_of_hangs hangs)))
    · exact Nat.lt_asymm past during
    · exact absurd (goesOn.symm.trans last.ending) nofun

/-- **The calls before an instant are the first ones**, up to the attempt that it falls into or that
the sleep follows. -/
theorem calls_before (last : o.EndsAt k outcome) (reaches : o.Reaches j)
    (underway : o.Underway j c) (untied : c ∉ (List.range (k + 1)).map o.start) :
    ((List.range (k + 1)).map o.start).filter (· < c) = (List.range (j + 1)).map o.start := by
  have within : j ≤ k := last.le reaches
  have first : ∀ i ∈ List.range (j + 1), o.start i < c := by
    intro i member
    have early : i ≤ j := Nat.le_of_lt_succ (List.mem_range.mp member)
    refine Nat.lt_of_le_of_ne (Nat.le_trans (o.start_mono early) underway.started) ?_
    rintro rfl
    exact untied (List.mem_map_of_mem (List.mem_range.mpr (by omega)))
  have later : ∀ i ∈ List.range (k - j), ¬ o.start (j + 1 + i) < c := by
    intro i member
    have another : j < k := by have := List.mem_range.mp member; omega
    have next : c < o.start (j + 1) := underway.lt_start (last.reaches j another)
    exact Nat.not_lt.mpr (Nat.le_trans (Nat.le_of_lt next) (o.start_mono (Nat.le_add_right _ i)))
  have split : k + 1 = j + 1 + (k - j) := by omega
  rw [split, List.range_add, List.map_append, List.filter_append, List.map_map]
  have kept : ((List.range (j + 1)).map o.start).filter (· < c) =
      (List.range (j + 1)).map o.start :=
    List.filter_eq_self.mpr (by simpa using first)
  have dropped : ((List.range (k - j)).map (o.start ∘ (j + 1 + ·))).filter (· < c) = [] :=
    List.filter_eq_nil_iff.mpr (by simpa using later)
  rw [kept, dropped, List.append_nil]

/-- **Cancelling a run cuts it short and changes nothing else.**  The instant of cancelling is not that
of a call (so it is not instant zero and no sleep ends at it) nor the end of the run.  If the
run ends before, it is the same.  Otherwise it ends at that instant as cancelled: it has made exactly
the calls that the whole run makes before, reports as many, and the sleeps it finished are the first
ones of the whole run.  No call comes after the instant of cancelling. -/
theorem run_cancelled (o : Retried ε α) {c : Millis} (noCall : c ∉ (o.run none).calls)
    (noEnd : (o.run none).finished ≠ c) :
    let whole := o.run none
    let cut := o.run (some c)
    (whole.EndsBefore c → cut = whole) ∧
    (¬ whole.EndsBefore c →
      cut.outcome = .cancelled cut.calls.length ∧ cut.finished = c ∧
      cut.calls = whole.calls.filter (· < c) ∧ cut.waits <+: whole.waits) ∧
    ∀ t ∈ cut.calls, t < c := by
  intro whole cut
  obtain ⟨k, outcome, last, -⟩ := o.exists_endsAt
  have course : whole = o.ended k outcome (o.finish k) := run_of_endsAt last nofun
  rw [show o.run none = whole from rfl, course] at noCall noEnd
  rcases done_or_underway last c with ⟨ends, past⟩ | ⟨j, reaches, underway⟩
  · have before : o.finish k < c := Nat.lt_of_le_of_ne past noEnd
    have same : cut = whole :=
      (run_of_endsAt last fun _ given => ⟨ends, Option.some.inj given ▸ past⟩).trans course.symm
    refine ⟨fun _ => same, fun notDone => absurd ?_ notDone, ?_⟩
    · rw [course]
      exact ⟨ends, before⟩
    · rw [same, course]
      intro t called
      obtain ⟨i, member, rfl⟩ := List.mem_map.mp called
      have early : i ≤ k := Nat.le_of_lt_succ (List.mem_range.mp member)
      exact Nat.lt_of_le_of_lt
        (Nat.le_trans (o.start_mono early) (o.start_le_finish k)) before
  · have shorter : cut = o.ended j (.cancelled (j + 1)) c := run_of_underway reaches underway
    have calls : (o.ended k outcome (o.finish k)).calls.filter (· < c) =
        (List.range (j + 1)).map o.start := calls_before last reaches underway noCall
    rw [shorter, course]
    refine ⟨fun done => absurd done (underway.not_done last reaches), fun _ => ⟨?_, rfl, ?_, ?_⟩, ?_⟩
    · simp [ended]
    · exact calls.symm
    · obtain ⟨more, rfl⟩ := Nat.exists_eq_add_of_le (last.le reaches)
      refine ⟨(List.range more).map (o.pause ∘ (j + ·)), ?_⟩
      simp [ended, List.range_add]
    · intro t called
      have kept : t ∈ (o.ended k outcome (o.finish k)).calls.filter (· < c) := calls ▸ called
      exact of_decide_eq_true (List.mem_filter.mp kept).2

/-- The first attempt fails after five milliseconds, and the run is cancelled in the sleep of a hundred
that follows; the second attempt would have succeeded. -/
theorem run_cancelled_in_sleep :
    let o : Retried String Nat :=
      ⟨⟨3, .ofMillis 100, .ofNat 2, .finite false 0⟩, fun _ => .nan,
        fun k => if k = 0 then .ends (.error "refused") 5 else .ends (.ok 7) 5⟩
    (o.run none).calls = [0, 105] ∧ (o.run (some 50)).calls = [0] ∧
      (o.run (some 50)).outcome = .cancelled 1 ∧ (o.run (some 50)).finished = 50 := by
  intro o
  have whole : (o.run none).calls = [0, 105] ∧ (o.run none).finished = 110 := by decide +kernel
  obtain ⟨calls, finished⟩ := whole
  have noCall : 50 ∉ (o.run none).calls := by rw [calls]; decide
  have noEnd : (o.run none).finished ≠ 50 := by rw [finished]; decide
  have running : ¬ (o.run none).EndsBefore 50 := by
    rintro ⟨-, early⟩
    rw [finished] at early
    exact absurd early (by decide)
  obtain ⟨-, cut, -⟩ := o.run_cancelled noCall noEnd
  obtain ⟨outcome, ended, before, -⟩ := cut running
  have first : (o.run (some 50)).calls = [0] := before.trans (by rw [calls]; decide)
  exact ⟨calls, first, outcome.trans (by rw [first]; rfl), ended⟩

end Retried

end StartupGate.Retry

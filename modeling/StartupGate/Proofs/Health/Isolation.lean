/-
# StartupGate.Proofs.Health.Isolation -- no check sees another, or an observer

What one check shows among many is what it shows alone (`PolledCheck.ShownAlike`): the clock,
its loop with the starts, the signal and the phase, and the samples that bear its name.
Passing time keeps this because each check follows its own schedule (`polling_runTo`); the
shutdown keeps it because it comes to all loops at the same instant.  Looks on the way change
nothing, as `Evaluators.foldl_passTo` says of all loops together.
-/
import StartupGate.Proofs.Health.Shutdown

set_option autoImplicit false

namespace StartupGate.PolledCheck

/-- Among all loops a check has the number `i`, alone it is the first; both ways it shows the same. -/
structure ShownAlike (name : String) (all : Evaluators) (i : Nat) (alone : Evaluators) : Prop where
  now_eq : all.now = alone.now
  loop_eq : ∃ e, all.loops[i]? = some e ∧ alone.loops[0]? = some e
  samples_eq : all.metrics.ofCheck name = alone.metrics.ofCheck name

variable {checks : List PolledCheck} {p : PolledCheck} {i : Nat} {t : Millis}

theorem shownAlike_polling (found : checks[i]? = some p) :
    ShownAlike p.name (polling checks) i (polling [p]) where
  now_eq := rfl
  loop_eq := ⟨p.loop, by simp [polling, Evaluators.new, found], rfl⟩
  samples_eq := rfl

theorem namesDiffer_singleton (p : PolledCheck) : NamesDiffer [p] := List.pairwise_singleton _ _

/-- **Time passes for a check among others as it does for it alone.** -/
theorem shownAlike_runTo (names : NamesDiffer checks) (past : ∀ p ∈ checks, ∃ k, t < p.start k)
    (found : checks[i]? = some p) :
    ShownAlike p.name ((polling checks).runTo t) i ((polling [p]).runTo t) := by
  have pastAlone : ∀ q ∈ [p], ∃ k, t < q.start k :=
    List.forall_mem_singleton.mpr (past p (List.mem_of_getElem? found))
  rcases Nat.eq_zero_or_pos t with rfl | later
  · exact shownAlike_polling found
  · obtain ⟨v, _, _, foundAll, settles, -, counted⟩ := polling_runTo later past found
    obtain ⟨w, _, _, foundAlone, settlesAlone, -, countedAlone⟩ :=
      polling_runTo later pastAlone (i := 0) (c := p) rfl
    obtain rfl : v = w := settles.unique settlesAlone
    refine ⟨?_, ⟨v.loop, foundAll, foundAlone⟩, ?_⟩
    · rw [polling_runTo_now past, polling_runTo_now pastAlone]
    · rw [counted names, countedAlone (namesDiffer_singleton p)]

namespace ShownAlike

variable {name : String} {all alone : Evaluators}

theorem shutdown (alike : ShownAlike name all i alone) :
    ShownAlike name all.shutdown i alone.shutdown := by
  obtain ⟨now, ⟨e, found, foundAlone⟩, samples⟩ := alike
  refine ⟨now, ⟨e.stop all.now, ?_, ?_⟩, samples⟩
  · simp [Evaluators.shutdown, found]
  · simp [Evaluators.shutdown, foundAlone, now]

/-- Where every loop has ended, only the clock moves on. -/
theorem runTo_ended (alike : ShownAlike name all i alone) (ended : all.Ended)
    (endedAlone : alone.Ended) (t : Millis) :
    ShownAlike name (all.runTo t) i (alone.runTo t) := by
  obtain ⟨now, loop, samples⟩ := alike
  rw [ended.runTo_eq, endedAlone.runTo_eq]
  exact ⟨congrArg (max · t) now, loop, samples⟩

end ShownAlike

/-- A check among others is shown as it is alone, before the shutdown as well as after. -/
theorem shownAlike_passTo (names : NamesDiffer checks) {shutdown : Option Millis}
    (past : ∀ p ∈ checks, ∃ k, Evaluators.runsUntil shutdown t < p.start k)
    (found : checks[i]? = some p) :
    ShownAlike p.name (Evaluators.passTo shutdown (polling checks) t) i
      (Evaluators.passTo shutdown (polling [p]) t) := by
  cases shutdown with
  | none => exact shownAlike_runTo names past found
  | some c =>
      rcases Nat.lt_or_ge t c with before | shut
      · rw [Evaluators.runsUntil, Nat.min_eq_right (Nat.le_of_lt before)] at past
        rw [Evaluators.passTo_open before, Evaluators.passTo_open before]
        exact shownAlike_runTo names past found
      · rw [Evaluators.runsUntil, Nat.min_eq_left shut] at past
        rw [Evaluators.passTo, Evaluators.passTo, if_pos shut, if_pos shut]
        exact (shownAlike_runTo names past found).shutdown.runTo_ended
          (Evaluators.ended_shutdown _) (Evaluators.ended_shutdown _) t

/-- **Checks do not interfere with each other or with observers.**  Take checks with different names on
one clock, with one registry and one shutdown or none, that get past an instant or the shutdown
before it, as every check that waits at all does (`le_start`).  Somebody looks at them at any
instants, the last of which it is; somebody else looks at one of the checks alone, at other instants.
Both see the same clock, the same loop with its starts, signal and phase, and the same samples.  And
who looks at all checks sees the same of everything, at whatever instants they have looked before. -/
theorem seen_alone_and_unobserved (names : NamesDiffer checks) {shutdown : Option Millis}
    (past : ∀ p ∈ checks, ∃ k, Evaluators.runsUntil shutdown t < p.start k)
    {looks otherLooks : List Millis} (order : ∀ u ∈ looks, u ≤ t)
    (otherOrder : ∀ u ∈ otherLooks, u ≤ t) :
    let seen := (looks ++ [t]).foldl (Evaluators.passTo shutdown) (polling checks)
    (∀ (i : Nat) (p : PolledCheck), checks[i]? = some p →
      let alone := (otherLooks ++ [t]).foldl (Evaluators.passTo shutdown) (polling [p])
      seen.now = alone.now ∧
      (∃ e, seen.loops[i]? = some e ∧ alone.loops[0]? = some e) ∧
      seen.metrics.ofCheck p.name = alone.metrics.ofCheck p.name) ∧
    seen = (otherLooks ++ [t]).foldl (Evaluators.passTo shutdown) (polling checks) := by
  intro seen
  have once : seen = Evaluators.passTo shutdown (polling checks) t :=
    Evaluators.foldl_passTo order (polling_getsPast past)
  constructor
  · intro i p found alone
    have pastAlone : ∀ q ∈ [p], ∃ k, Evaluators.runsUntil shutdown t < q.start k :=
      List.forall_mem_singleton.mpr (past p (List.mem_of_getElem? found))
    have onceAlone : alone = Evaluators.passTo shutdown (polling [p]) t :=
      Evaluators.foldl_passTo otherOrder (polling_getsPast pastAlone)
    have alike := shownAlike_passTo names past found
    rw [once, onceAlone]
    exact ⟨alike.now_eq, alike.loop_eq, alike.samples_eq⟩
  · rw [once, Evaluators.foldl_passTo otherOrder (polling_getsPast past)]

/-- Two checks and a shutdown at 25, seen at 30: one sees both, after looks at 3 and 20, the other sees the
second check alone, after a look at 24. -/
theorem seen_alone_and_unobserved_two :
    let first := every "endpoints" 10 5 (.ofList [⟨false, 2⟩, ⟨true, 0⟩])
    let second := every "nodeload" 7 7 (.ofList [⟨true, 30⟩])
    let seen := [3, 20, 30].foldl (Evaluators.passTo (some 25)) (polling [first, second])
    let alone := [24, 30].foldl (Evaluators.passTo (some 25)) (polling [second])
    seen.now = alone.now ∧ (∃ e, seen.loops[1]? = some e ∧ alone.loops[0]? = some e) ∧
      seen.metrics.ofCheck "nodeload" = alone.metrics.ofCheck "nodeload" ∧
      seen = [24, 30].foldl (Evaluators.passTo (some 25)) (polling [first, second]) := by
  intro first second seen alone
  have past : ∀ p ∈ [first, second], ∃ k, Evaluators.runsUntil (some 25) 30 < p.start k := by
    intro p member
    simp only [List.mem_cons, List.not_mem_nil, or_false] at member
    rcases member with rfl | rfl
    · exact ⟨3, by decide⟩
    · exact ⟨1, by decide⟩
  have names : NamesDiffer [first, second] := by decide
  have order : ∀ u ∈ [3, 20], u ≤ 30 := by decide
  have otherOrder : ∀ u ∈ [24], u ≤ 30 := by decide
  obtain ⟨each, unobserved⟩ := seen_alone_and_unobserved names past order otherOrder
  obtain ⟨now, loop, samples⟩ := each 1 second rfl
  exact ⟨now, loop, samples, unobserved⟩

end StartupGate.PolledCheck

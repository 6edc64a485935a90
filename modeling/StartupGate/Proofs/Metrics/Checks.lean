/-
# StartupGate.Proofs.Metrics.Checks -- the samples of one check

All checks are counted in the same two families.  `Metrics.ofCheck` picks out the three
samples that bear the name of one check: how often it passed, how often it failed, and its
latest result.  Counting a run changes the samples of its own check as
`CheckSamples.counted` says, and those of no other (`Metrics.ofCheck_recordCheck`).
-/
import StartupGate.Proofs.Metrics.Samples

set_option autoImplicit false

namespace StartupGate

/-- The samples of one check; none where nothing was recorded. -/
structure CheckSamples where
  passes : Option Nat
  fails : Option Nat
  status : Option Nat
  deriving DecidableEq

namespace CheckSamples

def empty : CheckSamples := ⟨none, none, none⟩

/-- The samples after one more run with a result. -/
def counted (c : CheckSamples) (healthy : Bool) : CheckSamples :=
  if healthy then { c with passes := some (c.passes.getD 0 + 1), status := some 1 }
  else { c with fails := some (c.fails.getD 0 + 1), status := some 0 }

end CheckSamples

namespace Metrics

/-- The samples that bear the name of a check. -/
def ofCheck (m : Metrics) (name : String) : CheckSamples :=
  ⟨m.healthChecks.get? [name, resultWord true], m.healthChecks.get? [name, resultWord false],
    m.healthStatus.get? [name]⟩

theorem ofCheck_empty (name : String) : Metrics.empty.ofCheck name = .empty := rfl

/-- Both families of the checks are in order. -/
structure ChecksOrdered (m : Metrics) : Prop where
  runs : m.healthChecks.Ordered
  status : m.healthStatus.Ordered

theorem checksOrdered_empty : Metrics.empty.ChecksOrdered :=
  ⟨Samples.ordered_nil, Samples.ordered_nil⟩

theorem checksOrdered_recordCheck {m : Metrics} (ordered : m.ChecksOrdered) (check : String)
    (healthy : Bool) : (m.recordCheck check healthy).ChecksOrdered :=
  ⟨Samples.ordered_update ordered.runs _ _, Samples.ordered_update ordered.status _ _⟩

theorem resultWord_inj {a b : Bool} : resultWord a = resultWord b ↔ a = b := by
  cases a <;> cases b <;> decide

/-- **A counted run is seen in the samples of its own check and in no others.** -/
theorem ofCheck_recordCheck {m : Metrics} (ordered : m.ChecksOrdered) (check name : String)
    (healthy : Bool) :
    (m.recordCheck check healthy).ofCheck name =
      if name = check then (m.ofCheck check).counted healthy else m.ofCheck name := by
  have runs : ∀ result, (m.recordCheck check healthy).healthChecks.get? [name, resultWord result] =
      if name = check ∧ result = healthy then
        some ((m.healthChecks.get? [check, resultWord healthy]).getD 0 + 1)
      else m.healthChecks.get? [name, resultWord result] := by
    intro result
    rw [recordCheck, Samples.get?_update ordered.runs]
    simp only [List.cons.injEq, resultWord_inj, and_true]
  have status : (m.recordCheck check healthy).healthStatus.get? [name] =
      if name = check then some (if healthy then 1 else 0) else m.healthStatus.get? [name] := by
    rw [recordCheck, Samples.get?_update ordered.status]
    simp only [List.cons.injEq, and_true]
  simp only [ofCheck, runs, status]
  by_cases same : name = check
  · subst same
    cases healthy <;> simp [CheckSamples.counted]
  · simp only [same, false_and, if_false]

end Metrics

end StartupGate

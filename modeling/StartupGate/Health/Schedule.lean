/-
# StartupGate.Health.Schedule -- when the runs of a check happen, said without a loop

The start of a run follows from the run before it: that run's start, its duration, and
the period that goes with its result.  `Schedule.resultAt` is the result of the last run
that has ended by an instant.
-/
import StartupGate.Health.Evaluator

set_option autoImplicit false

namespace StartupGate.Schedule

/-- When the `k`-th run starts. -/
def start (p : Periods) (b : Behaviour) : Nat → Millis
  | 0 => 0
  | k + 1 => Millis.wake (start p b k + (b k).takes) (p.after (b k).healthy)

def finish (p : Periods) (b : Behaviour) (k : Nat) : Millis := start p b k + (b k).takes

/-- How many of the first `n` runs have ended by an instant. -/
def endedBy (p : Periods) (b : Behaviour) (t : Millis) (n : Nat) : Nat :=
  ((List.range n).filter fun k => finish p b k ≤ t).length

/-- The result of the last run that has ended by an instant, looking at the first `n` runs; false if
none has. -/
def resultAt (p : Periods) (b : Behaviour) (t : Millis) (n : Nat) : Bool :=
  match ((List.range n).filter fun k => finish p b k ≤ t).getLast? with
  | some k => (b k).healthy
  | none => false

/-- How many of the first `n` runs have ended by an instant with a result. -/
def countBy (p : Periods) (b : Behaviour) (t : Millis) (healthy : Bool) (n : Nat) : Nat :=
  ((List.range n).filter fun k => finish p b k ≤ t && (b k).healthy == healthy).length

end StartupGate.Schedule

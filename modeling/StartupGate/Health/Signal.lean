/-
# StartupGate.Health.Signal -- published check results and their conjunction

A signal is the latest result of one check.  An enabled signal is unhealthy until its
check first passes; a disabled one always reads healthy, whatever is published to it.
Overall health is the conjunction of all signals.
-/
import StartupGate.Time

set_option autoImplicit false

namespace StartupGate

structure Signal where
  name : String
  enabled : Bool
  published : Bool
  deriving DecidableEq, Repr

namespace Signal

/-- The signal of an enabled check that has not run yet. -/
def new (name : String) : Signal := ⟨name, true, false⟩

def disabled (name : String) : Signal := ⟨name, false, true⟩

def isHealthy (s : Signal) : Bool := !s.enabled || s.published

/-- Publishes a result and gives the one before. -/
def set (s : Signal) (healthy : Bool) : Bool × Signal :=
  (s.published, { s with published := healthy })

end Signal

/-- Overall health: every signal is healthy. -/
def allHealthy (signals : List Signal) : Bool := signals.all Signal.isHealthy

/-- Publishes a result to the signal of a number; gives the one before, if there is such a signal. -/
def publishAt (signals : List Signal) (i : Nat) (healthy : Bool) : Option Bool × List Signal :=
  match signals[i]? with
  | none => (none, signals)
  | some s =>
      let (previous, s) := s.set healthy
      (some previous, signals.set i s)

/-- How long a check waits after a pass and after a failure. -/
structure Periods where
  onPass : Duration
  onFail : Duration
  deriving DecidableEq, Repr

def Periods.after (p : Periods) (healthy : Bool) : Duration := if healthy then p.onPass else p.onFail

end StartupGate

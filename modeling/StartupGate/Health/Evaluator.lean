/-
# StartupGate.Health.Evaluator -- the polling loops of the checks

Each enabled check has a loop of its own: run the check, publish and count the result,
then sleep for the period that goes with that result.  All loops share one clock, one
registry of metrics and one shutdown.

* `Behaviour` says what the runs of a check answer and how long they take; the loop sees
  a result only when the run ends.
* `Evaluators.runTo` moves the clock: whatever is due happens in order of time, and of
  the order of the loops at one instant.
* `Evaluators.shutdown` stops every loop where it is; a run that has not ended by then
  publishes and counts nothing.
-/
import StartupGate.Health.Signal
import StartupGate.Metrics

set_option autoImplicit false

namespace StartupGate

/-! ## One loop -/

structure CheckRun where
  healthy : Bool
  takes : Millis
  deriving DecidableEq, Repr

/-- What the runs of a check do, counted from zero. -/
abbrev Behaviour := Nat → CheckRun

/-- The behaviour written as a list: the last run repeats, and with no runs at all a check fails at
once. -/
def Behaviour.ofList (runs : List CheckRun) : Behaviour :=
  fun k => (runs[k]? <|> runs.getLast?).getD ⟨false, 0⟩

inductive Phase where
  /-- Asleep, or not begun: the next run starts at an instant. -/
  | asleep (wakes : Millis)
  /-- In a run that ends at an instant with a result. -/
  | checking (ends : Millis) (healthy : Bool)
  /-- Ended by the shutdown at an instant. -/
  | stopped (since : Millis)
  /-- Switched off: there is no loop. -/
  | off
  deriving DecidableEq, Repr

structure Evaluator where
  periods : Periods
  behaviour : Behaviour
  signal : Signal
  /-- When the runs so far started, in order. -/
  starts : List Millis
  phase : Phase

namespace Evaluator

/-- A loop that has not begun; it begins when the clock first moves. -/
def new (name : String) (periods : Periods) (behaviour : Behaviour) : Evaluator :=
  ⟨periods, behaviour, .new name, [], .asleep 0⟩

def disabled (name : String) : Evaluator :=
  ⟨⟨.zero, .zero⟩, fun _ => ⟨false, 0⟩, .disabled name, [], .off⟩

/-- When something happens next in the loop. -/
def due? (e : Evaluator) : Option Millis :=
  match e.phase with
  | .asleep wakes => some wakes
  | .checking ends _ => some ends
  | .stopped _ => none
  | .off => none

/-- What happens in the loop at the instant it is due: a run starts, or ends with a result that is
published and counted. -/
def fire (e : Evaluator) (m : Metrics) : Evaluator × Metrics :=
  match e.phase with
  | .asleep wakes =>
      let run := e.behaviour e.starts.length
      ({ e with
          starts := e.starts ++ [wakes]
          phase := .checking (wakes + run.takes) run.healthy }, m)
  | .checking ends healthy =>
      ({ e with
          signal := (e.signal.set healthy).2
          phase := .asleep (Millis.wake ends (e.periods.after healthy)) },
        m.recordCheck e.signal.name healthy)
  | .stopped _ => (e, m)
  | .off => (e, m)

def stop (e : Evaluator) (now : Millis) : Evaluator :=
  match e.phase with
  | .asleep _ => { e with phase := .stopped now }
  | .checking _ _ => { e with phase := .stopped now }
  | .stopped _ => e
  | .off => e

/-- The loop has ended, or there is none. -/
def hasEnded (e : Evaluator) : Bool := e.due?.isNone

end Evaluator

/-! ## All loops together -/

/-- Loops on one clock with one registry. -/
structure Evaluators where
  now : Millis
  loops : List Evaluator
  metrics : Metrics

namespace Evaluators

def new (loops : List Evaluator) : Evaluators := ⟨0, loops, .empty⟩

/-- The earliest instant at which a loop is due, with the number of that loop; of several the first. -/
def earliest? : List Evaluator → Option (Millis × Nat)
  | [] => none
  | e :: rest =>
      let later := (earliest? rest).map fun (t, i) => (t, i + 1)
      match e.due?, later with
      | none, l => l
      | some t, none => some (t, 0)
      | some t, some (u, i) => if u < t then some (u, i) else some (t, 0)

def fireAt : Nat → List Evaluator → Metrics → List Evaluator × Metrics
  | _, [], m => ([], m)
  | 0, e :: rest, m =>
      let (e, m) := e.fire m
      (e :: rest, m)
  | i + 1, e :: rest, m =>
      let (rest, m) := fireAt i rest m
      (e :: rest, m)

/-- The loop of a number is due at an instant: the clock moves there and lets it happen. -/
def fireNext (s : Evaluators) (t : Millis) (i : Nat) : Evaluators :=
  let (loops, metrics) := fireAt i s.loops s.metrics
  ⟨t, loops, metrics⟩

instance : Inhabited Evaluators := ⟨.new []⟩

/-- What is due first in the loops is due by the horizon, and leads from `s` to `next`. -/
def Follows (horizon : Millis) (next s : Evaluators) : Prop :=
  ∃ t i, earliest? s.loops = some (t, i) ∧ t ≤ horizon ∧ next = s.fireNext t i

/-- Lets everything due up to an instant happen, and moves the clock there.  That comes to an end
where every loop gets past the instant; a loop whose runs and sleeps take no time holds the clock
for ever.  So the recursion is a fixed point, to be opened where only so much follows. -/
def run (horizon : Millis) : Evaluators → Evaluators :=
  WellFounded.partialExtrinsicFix (Follows horizon) fun s onward =>
    match due : earliest? s.loops with
    | none => { s with now := horizon }
    | some (t, i) =>
        if order : t ≤ horizon then onward (s.fireNext t i) ⟨t, i, due, order, rfl⟩
        else { s with now := horizon }

/-- Moves the clock to an instant that is still to come; nothing happens at one that is not. -/
def runTo (s : Evaluators) (horizon : Millis) : Evaluators :=
  if s.now < horizon then run horizon s else s

def shutdown (s : Evaluators) : Evaluators :=
  { s with loops := s.loops.map fun e => e.stop s.now }

/-- The signals, those of switched-off checks included. -/
def signals (s : Evaluators) : List Signal := s.loops.map Evaluator.signal

def enabled (s : Evaluators) : List Evaluator := s.loops.filter (·.signal.enabled)

end Evaluators

end StartupGate

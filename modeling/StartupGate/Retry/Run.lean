/-
# StartupGate.Retry.Run -- trying until the first success, within a budget

An operation is tried until it succeeds, its budget of attempts is spent, or the run is
cancelled.  Cancelling ends the run at once, inside an attempt as well as between two.

What the attempts do is given beforehand (`Attempt`), so a run is a function of the
policy, the attempts, the drawn shares of jitter and the instant of cancelling, and its
result says which calls were made and when (`Run`).
-/
import StartupGate.Retry.Policy

set_option autoImplicit false

namespace StartupGate.Retry

/-- What an attempt does: it ends with a result after some time, or never. -/
inductive Attempt (ε α : Type) where
  | ends (result : Except ε α) (takes : Millis)
  | hangs

inductive Outcome (ε α : Type) where
  | done (value : α)
  | exhausted (attempts : Nat) (last : ε)
  | cancelled (attempts : Nat)
  /-- There was no delay to wait for before the next attempt. -/
  | noDelay (cause : DelayError)
  /-- An attempt hangs and nothing cancels the run. -/
  | endless

/-- The course of a run: when the calls were made, how long was waited after each failed one, how it
ended and when. -/
structure Run (ε α : Type) where
  outcome : Outcome ε α
  calls : List Millis
  waits : List Millis
  finished : Millis

variable {ε α : Type}

def Run.ending (outcome : Outcome ε α) (finished : Millis) : Run ε α := ⟨outcome, [], [], finished⟩

def Run.called (now : Millis) (r : Run ε α) : Run ε α := { r with calls := now :: r.calls }

def Run.waited (span : Millis) (r : Run ε α) : Run ε α := { r with waits := span :: r.waits }

/-- The instant of cancelling, if it comes before another instant. -/
def cancelBefore? (cancel : Option Millis) (t : Millis) : Option Millis :=
  cancel.bind fun c => if c < t then some c else none

/-- The run from an attempt on, with `remaining` more in the budget after it. -/
def runFrom (p : Policy) (shares : Nat → Binary64) (op : Nat → Attempt ε α)
    (cancel : Option Millis) : (remaining attempt : Nat) → Millis → Run ε α
  | remaining, attempt, now =>
      Run.called now <|
      match op (attempt - 1) with
      | .hangs =>
          match cancel with
          | some c => .ending (.cancelled attempt) (max now c)
          | none => .ending .endless now
      | .ends result takes =>
          match cancelBefore? cancel (now + takes), result, remaining with
          | some c, _, _ => .ending (.cancelled attempt) (max now c)
          | none, .ok value, _ => .ending (.done value) (now + takes)
          | none, .error e, 0 => .ending (.exhausted attempt e) (now + takes)
          | none, .error _, remaining + 1 =>
              match p.delay attempt (shares attempt) with
              | .error cause => .ending (.noDelay cause) (now + takes)
              | .ok d =>
                  let next := Millis.wake (now + takes) d
                  match cancelBefore? cancel next with
                  | some c => .ending (.cancelled attempt) (max (now + takes) c)
                  | none =>
                      Run.waited (next - (now + takes)) <|
                        runFrom p shares op cancel remaining (attempt + 1) next

def run (p : Policy) (shares : Nat → Binary64) (op : Nat → Attempt ε α) (cancel : Option Millis) :
    Run ε α :=
  runFrom p shares op cancel (p.budget - 1) 1 0

/-- All waits of a run lie in the bounds of the policy. -/
def Run.waitsAllowed (r : Run ε α) (p : Policy) : Bool :=
  r.waits.zipIdx.all fun (span, i) => p.allows (i + 1) span

/-- What a run that did not succeed reports. -/
inductive Failure (ε : Type) where
  | exhausted (attempts : Nat) (last : ε)
  | cancelled (attempts : Nat)

/-- The message of a failure; `shown` is the message of the last error. -/
def Failure.message (shown : ε → String) : Failure ε → String
  | .exhausted attempts last =>
      "failed after " ++ Integer.toText attempts ++ " attempts, last error: " ++ shown last
  | .cancelled attempts => "cancelled after " ++ Integer.toText attempts ++ " attempts"

end StartupGate.Retry

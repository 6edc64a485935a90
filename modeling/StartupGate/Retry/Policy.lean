/-
# StartupGate.Retry.Policy -- how long to wait between attempts

The delay after attempt `n` is the initial delay times `factor ^ (n - 1)`, stretched by a
random share of itself of up to `jitter`.  A jitter of zero or below stretches nothing.
A power or a product that is no span of time has no delay (`DelayError`).
-/
import StartupGate.Time

set_option autoImplicit false

namespace StartupGate.Retry

inductive DelayError where
  | seconds (cause : SecondsError)
  /-- The jitter is not a number, so no share can be drawn. -/
  | noShare
  /-- The jitter is infinite, so no share can be drawn. -/
  | unboundedShare
  /-- The stretched delay is longer than any span of time. -/
  | sumTooLarge
  deriving DecidableEq, Repr

def DelayError.message : DelayError → String
  | .seconds cause => cause.message
  | .noShare => "cannot sample empty range"
  | .unboundedShare => "called `Result::unwrap()` on an `Err` value: NonFinite"
  | .sumTooLarge => "overflow when adding durations"

/-- How often to try and how long to wait in between. -/
structure Policy where
  attempts : Nat
  initialDelay : Duration
  factor : Binary64
  jitter : Binary64
  deriving DecidableEq, Repr

namespace Policy

/-- Five attempts, one second doubling, a tenth of jitter. -/
def standard : Policy where
  attempts := 5
  initialDelay := .ofSeconds 1
  factor := .ofNat 2
  jitter := .ofQuotient false Binary64.unitsPerOne 10

/-- At least one attempt is made. -/
def budget (p : Policy) : Nat := max p.attempts 1

/-- The exponent for an attempt: one less, where numbers from `2 ^ 31` on stand for negative ones as
in a signed 32-bit word. -/
def exponent (attempt : Nat) : Int :=
  let n := attempt - 1
  if n < Nat.pow 2 31 then n else (n : Int) - Nat.pow 2 32

/-- The delay after an attempt, without jitter. -/
def baseDelay (p : Policy) (attempt : Nat) : Except SecondsError Duration :=
  p.initialDelay.scale (p.factor.powi (exponent attempt))

/-- The jitter stretches nothing. -/
def isSteady (p : Policy) : Bool := p.jitter ≠ .nan && !p.jitter.isAboveZero

def longest : Duration := .ofParts Integer.maxUnsigned64 (Duration.nanosPerSecond - 1)

/-- The delay after an attempt, stretched by a share of itself. -/
def stretchedDelay (p : Policy) (attempt : Nat) (share : Binary64) :
    Except DelayError Duration :=
  match p.baseDelay attempt with
  | .error cause => .error (.seconds cause)
  | .ok base =>
      match base.scale share with
      | .error cause => .error (.seconds cause)
      | .ok extra =>
          if base.nanos + extra.nanos ≤ longest.nanos then .ok ⟨base.nanos + extra.nanos⟩
          else .error .sumTooLarge

/-- The delay after an attempt; `share` is what was drawn between zero and the jitter. -/
def delay (p : Policy) (attempt : Nat) (share : Binary64) : Except DelayError Duration :=
  if p.isSteady then
    match p.baseDelay attempt with
    | .error cause => .error (.seconds cause)
    | .ok base => .ok base
  else match p.baseDelay attempt with
    | .error cause => .error (.seconds cause)
    | .ok _ =>
        if p.jitter = .nan then .error .noShare
        else if p.jitter.isFinite then p.stretchedDelay attempt share
        else .error .unboundedShare

/-- Whether a wait in whole milliseconds lies between the delay after an attempt and that delay with
all of its jitter, give or take the timer's millisecond. -/
def allows (p : Policy) (attempt : Nat) (waited : Millis) : Bool :=
  match p.baseDelay attempt, p.stretchedDelay attempt p.jitter with
  | .ok base, .ok most =>
      base.nanos ≤ waited * Duration.nanosPerMilli &&
        waited * Duration.nanosPerMilli < most.nanos + Duration.nanosPerMilli
  | _, _ => false

end Policy

end StartupGate.Retry

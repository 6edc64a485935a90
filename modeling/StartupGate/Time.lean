/-
# StartupGate.Time -- spans of time, instants, and the clock's range

A span is a whole number of nanoseconds; an instant is the span since the clock
started.  The clock counts seconds in a signed 64-bit number, so an instant at or
beyond `clockLimit` does not exist (`Instant.after?`).

* `Duration.scale` stretches a span by a double.  It goes through seconds as a double
  and back, rounding once to the nearest nanosecond, a tie to the even one, and fails
  exactly if the product is negative, not a number, or `2 ^ 64` seconds or more.
* `Millis.wake` is when a sleep ends: timers work in whole milliseconds, so at the
  first one not before the deadline, and never more than `farFuture` later.
-/
import StartupGate.Number.Integer

set_option autoImplicit false

namespace StartupGate

/-- A span of time in whole nanoseconds. -/
structure Duration where
  nanos : Nat
  deriving DecidableEq, Repr, Inhabited

/-- Nanoseconds since the clock started. -/
abbrev Instant := Nat

/-- Milliseconds since the clock started. -/
abbrev Millis := Nat

/-! ## Spans -/

namespace Duration

def nanosPerSecond : Nat := 1000000000

def nanosPerMilli : Nat := 1000000

def zero : Duration := ⟨0⟩

def ofSeconds (s : Nat) : Duration := ⟨s * nanosPerSecond⟩

def ofMillis (ms : Nat) : Duration := ⟨ms * nanosPerMilli⟩

def ofParts (s n : Nat) : Duration := ⟨s * nanosPerSecond + n⟩

def seconds (d : Duration) : Nat := d.nanos / nanosPerSecond

def subsecond (d : Duration) : Nat := d.nanos % nanosPerSecond

/-- The least whole number of milliseconds that covers the span. -/
def millisUp (d : Duration) : Nat := (d.nanos + (nanosPerMilli - 1)) / nanosPerMilli

/-- The digits of a fraction of `10 ^ places` parts, without the zeros at its end. -/
def fractionDigits : (places fraction : Nat) → List Char
  | 0, _ => []
  | places + 1, fraction =>
      if fraction = 0 then []
      else Integer.digitChar (fraction / Nat.pow 10 places) ::
        fractionDigits places (fraction % Nat.pow 10 places)

/-- A whole number with a fraction of `10 ^ places` parts and a unit. -/
def withUnit (whole places fraction : Nat) (unit : String) : String :=
  let digits := fractionDigits places fraction
  Integer.toText whole ++ (if digits = [] then "" else "." ++ String.ofList digits) ++ unit

/-- A span for a message, in the largest unit of which it holds at least one. -/
def text (d : Duration) : String :=
  if nanosPerSecond ≤ d.nanos then withUnit d.seconds 9 d.subsecond "s"
  else if nanosPerMilli ≤ d.nanos then
    withUnit (d.nanos / nanosPerMilli) 6 (d.nanos % nanosPerMilli) "ms"
  else if 1000 ≤ d.nanos then withUnit (d.nanos / 1000) 3 (d.nanos % 1000) "µs"
  else withUnit d.nanos 0 0 "ns"

end Duration

/-! ## Spans as doubles -/

inductive SecondsError where
  | negative
  | tooLargeOrNotANumber
  deriving DecidableEq, Repr

namespace SecondsError

def message : SecondsError → String
  | .negative => "cannot convert float seconds to Duration: value is negative"
  | .tooLargeOrNotANumber => "cannot convert float seconds to Duration: value is either too big or NaN"

end SecondsError

namespace Duration

/-- The first number of seconds that is no span of time. -/
def secondsOverflow : Nat := Nat.pow 2 64

/-- The span of a number of seconds, to the nearest nanosecond, a tie to the even one. -/
def ofBinary64 : Binary64 → Except SecondsError Duration
  | .nan => .error .tooLargeOrNotANumber
  | .infinite negative => .error (if negative then .negative else .tooLargeOrNotANumber)
  | .finite negative u =>
      if negative && u != 0 then .error .negative
      else if secondsOverflow * Binary64.unitsPerOne ≤ u then .error .tooLargeOrNotANumber
      else .ok ⟨Binary64.divTiesEven (u * nanosPerSecond) Binary64.unitsPerOne⟩

/-- The span in seconds: the whole seconds and the rest, each rounded, then their rounded sum. -/
def toBinary64 (d : Duration) : Binary64 :=
  (Binary64.ofNat d.seconds).addSizes
    ((Binary64.ofNat d.subsecond).div (Binary64.ofNat nanosPerSecond))

def scale (d : Duration) (factor : Binary64) : Except SecondsError Duration :=
  ofBinary64 (factor.mul d.toBinary64)

end Duration

/-! ## The clock -/

/-- The first instant the clock cannot show. -/
def clockLimit : Instant := Nat.pow 2 63 * Duration.nanosPerSecond

/-- Thirty years: what takes the place of a span that leaves the clock's range. -/
def farFuture : Duration := .ofSeconds (86400 * 365 * 30)

/-- The instant a span later, if the clock can show it. -/
def Instant.after? (now : Instant) (d : Duration) : Option Instant :=
  if now + d.nanos < clockLimit then some (now + d.nanos) else none

/-- The instant a span later, with `farFuture` for a span that leaves the clock's range. -/
def Instant.after (now : Instant) (d : Duration) : Instant :=
  match Instant.after? now d with
  | some t => t
  | none => now + farFuture.nanos

/-- The clock can show when a lease for a span would end: after the span or, in its place, after
`farFuture`. -/
def Instant.hasAfter (now : Instant) (d : Duration) : Bool :=
  (Instant.after? now d).isSome || (Instant.after? now farFuture).isSome

inductive ClockError where
  | outOfRange
  deriving DecidableEq, Repr

def ClockError.message : ClockError → String
  | .outOfRange => "overflow when adding duration to instant"

/-- The span of a sleep: no timer runs for longer than `farFuture`. -/
def Duration.asSleep (d : Duration) : Duration := ⟨min d.nanos farFuture.nanos⟩

/-- When a sleep that begins at a whole millisecond ends. -/
def Millis.wake (now : Millis) (d : Duration) : Millis := now + d.asSleep.millisUp

end StartupGate

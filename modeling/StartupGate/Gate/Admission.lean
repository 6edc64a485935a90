/-
# StartupGate.Gate.Admission -- who gets a lease

A request for a lease is decided in three steps: look at overall health; if healthy, try
to take a lease for the requested duration or the default one; count the outcome.  An
unhealthy node takes no lease and does not touch the store.
-/
import StartupGate.Health.Signal
import StartupGate.Lease.Store
import StartupGate.Metrics

set_option autoImplicit false

namespace StartupGate

/-- What the gate knows: leases, check results, the duration of a lease that names none, counts. -/
structure Gate where
  leases : LeaseStore
  signals : List Signal
  defaultDuration : Duration
  metrics : Metrics
  deriving DecidableEq, Repr

namespace Gate

def new (capacity : Nat) (defaultDuration : Duration) (signals : List Signal) : Gate :=
  ⟨.new capacity, signals, defaultDuration, .empty⟩

/-! ## The requested duration -/

def durationKey : String := "duration"

/-- The duration of the first pair with the key, if its value is a whole number of seconds. -/
def requestedDuration (params : List (String × String)) : Option Duration :=
  match params.lookup durationKey with
  | none => none
  | some value =>
      match Integer.readUnsigned Integer.maxUnsigned64 value.toList with
      | .ok seconds => some (.ofSeconds seconds)
      | .error _ => none

/-- The requested duration, or the default one. -/
def leaseDuration (g : Gate) (params : List (String × String)) : Duration :=
  (requestedDuration params).getD g.defaultDuration

/-! ## The steps of a request -/

def isHealthy (g : Gate) : Bool := allHealthy g.signals

def acquire (g : Gate) (now : Instant) (d : Duration) : Bool × Gate :=
  let (granted, leases) := g.leases.acquire now d
  (granted, { g with leases })

/-- A request at an instant asks for no expiry that the clock cannot show; one that is turned away
for health asks for none. -/
def canExpire (g : Gate) (now : Instant) (params : List (String × String)) : Bool :=
  !g.isHealthy || g.leases.canExpire now (g.leaseDuration params)

def record (g : Gate) (outcome : LeaseOutcome) : Gate :=
  { g with metrics := g.metrics.recordLease outcome }

def requestLease (g : Gate) (now : Instant) (params : List (String × String)) : LeaseOutcome × Gate :=
  if g.isHealthy then
    let (granted, g) := g.acquire now (g.leaseDuration params)
    let outcome := if granted then LeaseOutcome.granted else .locked
    (outcome, g.record outcome)
  else (.unhealthy, g.record .unhealthy)

/-! ## Other events -/

/-- Publishes a check result; gives the one before, if there is such a signal. -/
def setSignal (g : Gate) (i : Nat) (healthy : Bool) : Option Bool × Gate :=
  let (previous, signals) := publishAt g.signals i healthy
  (previous, { g with signals })

def active (g : Gate) (now : Instant) : Nat := g.leases.active now

end Gate

end StartupGate

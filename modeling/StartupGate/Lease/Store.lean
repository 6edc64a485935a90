/-
# StartupGate.Lease.Store -- bounded admission with leases that expire

A lease is no more than the instant at which it expires.  At most `capacity` leases may
be live at once; there is no release, a lease frees its place by expiring.  Expired
leases are swept away by the next acquire, not before, so the store may hold some:
`active` counts the live ones only.
-/
import StartupGate.Time

set_option autoImplicit false

namespace StartupGate

/-- The room for leases and the instants at which the kept leases expire, oldest grant first. -/
structure LeaseStore where
  capacity : Nat
  expiries : List Instant
  deriving DecidableEq, Repr

namespace LeaseStore

/-- A store without leases.  One of capacity zero denies every request. -/
def new (capacity : Nat) : LeaseStore := ⟨capacity, []⟩

/-- A lease is live before the instant it expires, and no longer at that instant. -/
def isLive (now expiry : Instant) : Bool := decide (now < expiry)

def sweep (s : LeaseStore) (now : Instant) : LeaseStore :=
  { s with expiries := s.expiries.filter (isLive now) }

/-- Sweeps, and takes a lease that expires a span from now if there is room.  A span that leaves the
clock's range is cut to thirty years. -/
def acquire (s : LeaseStore) (now : Instant) (d : Duration) : Bool × LeaseStore :=
  let swept := s.sweep now
  if swept.capacity ≤ swept.expiries.length then (false, swept)
  else (true, { swept with expiries := swept.expiries ++ [now.after d] })

/-- An acquire that would be granted now asks for an expiry that the clock can show. -/
def canExpire (s : LeaseStore) (now : Instant) (d : Duration) : Bool :=
  s.capacity ≤ (s.sweep now).expiries.length || Instant.hasAfter now d

/-- How many leases have not yet expired. -/
def active (s : LeaseStore) (now : Instant) : Nat := (s.expiries.filter (isLive now)).length

end LeaseStore

end StartupGate

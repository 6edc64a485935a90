/-
# StartupGate.Lease.History -- every grant ever made

The full record beside the swept store: every lease that was granted, with the instant of
the grant and of its expiry, and nothing forgotten.  Admission over the record grants a
request if fewer than `capacity` of the recorded leases are live (`LeaseHistory.acquire`);
the store decides the same with what its sweeps have left.
-/
import StartupGate.Lease.Store

set_option autoImplicit false

namespace StartupGate

structure Grant where
  granted : Instant
  expiry : Instant
  deriving DecidableEq, Repr

/-- The room for leases and all grants, oldest first. -/
structure LeaseHistory where
  capacity : Nat
  grants : List Grant
  deriving DecidableEq, Repr

namespace LeaseHistory

def new (capacity : Nat) : LeaseHistory := ⟨capacity, []⟩

/-- A lease covers the instants from its grant up to but excluding its expiry. -/
def covers (t : Instant) (g : Grant) : Bool := decide (g.granted ≤ t) && decide (t < g.expiry)

/-- How many grants cover an instant. -/
def liveAt (h : LeaseHistory) (t : Instant) : Nat := (h.grants.filter (covers t)).length

/-- Grants a lease if fewer than `capacity` grants cover the instant. -/
def acquire (h : LeaseHistory) (now : Instant) (d : Duration) : Bool × LeaseHistory :=
  if h.liveAt now < h.capacity then
    (true, { h with grants := h.grants ++ [⟨now, now.after d⟩] })
  else (false, h)

end LeaseHistory

end StartupGate

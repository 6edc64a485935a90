/-
# StartupGate.Gate.Interleaving -- requests that overlap

A request is not one event: it looks at overall health, then takes a lease, then counts
its outcome, and between any two of these steps other requests, check results and the
clock may move.  `Floor.step` does one such step of one request, and `Floor.run` any
number of steps in any order.

Every lease ever granted is recorded with the instants it covers, whether or not the
store still keeps it; a request that was granted one knows its number in the record.
-/
import StartupGate.Gate.Admission
import StartupGate.Lease.History

set_option autoImplicit false

namespace StartupGate

inductive RequestStage where
  | arrived
  | sawHealthy
  /-- It knows its outcome, with the number of its lease, and has not counted it. -/
  | decided (outcome : LeaseOutcome) (lease : Option Nat)
  | answered (outcome : LeaseOutcome) (lease : Option Nat)
  deriving DecidableEq, Repr

structure LeaseRequest where
  params : List (String × String)
  stage : RequestStage
  deriving DecidableEq, Repr

/-- A gate with the requests it ever got and the leases it ever granted, in order. -/
structure Floor where
  gate : Gate
  now : Instant
  requests : List LeaseRequest
  grants : List Grant
  deriving DecidableEq, Repr

inductive FloorEvent where
  | arrive (params : List (String × String))
  | proceed (request : Nat)
  | publish (signal : Nat) (healthy : Bool)
  | advance (span : Duration)
  deriving DecidableEq, Repr

namespace Floor

/-- A gate that nobody has asked yet. -/
def new (gate : Gate) : Floor := ⟨gate, 0, [], []⟩

def setStage (f : Floor) (i : Nat) (stage : RequestStage) : Floor :=
  { f with requests := f.requests.modify i fun r => { r with stage } }

/-- The request of a number tries to take a lease at the instant the clock shows. -/
def takeLease (f : Floor) (i : Nat) (params : List (String × String)) : Floor :=
  let duration := f.gate.leaseDuration params
  let (granted, gate) := f.gate.acquire f.now duration
  let f : Floor := { f with gate }
  if granted then
    let recorded : Floor := { f with grants := f.grants ++ [⟨f.now, Instant.after f.now duration⟩] }
    recorded.setStage i (.decided .granted (some f.grants.length))
  else f.setStage i (.decided .locked none)

/-- One step of the request of a number. -/
def proceed (f : Floor) (i : Nat) : Floor :=
  match f.requests[i]? with
  | none => f
  | some r =>
      match r.stage with
      | .arrived =>
          if f.gate.isHealthy then f.setStage i .sawHealthy
          else f.setStage i (.decided .unhealthy none)
      | .sawHealthy => f.takeLease i r.params
      | .decided outcome lease =>
          let counted : Floor := { f with gate := f.gate.record outcome }
          counted.setStage i (.answered outcome lease)
      | .answered _ _ => f

def step (f : Floor) : FloorEvent → Floor
  | .arrive params => { f with requests := f.requests ++ [⟨params, .arrived⟩] }
  | .proceed i => f.proceed i
  | .publish signal healthy => { f with gate := (f.gate.setSignal signal healthy).2 }
  | .advance d => { f with now := f.now + d.nanos }

def run (f : Floor) (events : List FloorEvent) : Floor := events.foldl step f

/-- How many leases of the record cover an instant. -/
def liveAt (f : Floor) (t : Instant) : Nat := (f.grants.filter (LeaseHistory.covers t)).length

end Floor

end StartupGate

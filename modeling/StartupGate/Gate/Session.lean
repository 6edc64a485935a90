/-
# StartupGate.Gate.Session -- a gate in use

What happens to a served gate over time: requests, calls with decoded parameters, check
results, and the passing of time.  `GateSession.run` gives the answer to each event, with
the number of live leases after it, and the session it leads to; `GateSession.answers`
refuses events that leave the clock's range.
-/
import StartupGate.Gate.Server

set_option autoImplicit false

namespace StartupGate

inductive GateEvent where
  | request (r : Http.Request)
  | call (params : List (String × String))
  | publish (signal : Nat) (healthy : Bool)
  | advance (span : Duration)
  deriving DecidableEq, Repr

inductive GateAnswer where
  | response (r : Http.Response)
  | called (status : Nat) (body : String)
  /-- The result before, if there is such a signal, and overall health afterwards. -/
  | published (previous : Option Bool) (healthy : Bool)
  | advanced
  deriving DecidableEq, Repr

/-- A gate, what its main page is for, and the clock. -/
structure GateSession where
  role : ServerRole
  gate : Gate
  now : Instant
  deriving DecidableEq, Repr

namespace GateSession

def active (s : GateSession) : Nat := s.gate.active s.now

def step (s : GateSession) : GateEvent → GateAnswer × GateSession
  | .request r =>
      let (response, gate) := s.gate.respond s.role s.now r
      (.response response, { s with gate })
  | .call params =>
      let ((status, body), gate) := s.gate.call s.now params
      (.called status body, { s with gate })
  | .publish signal healthy =>
      let (previous, gate) := s.gate.setSignal signal healthy
      (.published previous gate.isHealthy, { s with gate })
  | .advance d => (.advanced, { s with now := s.now + d.nanos })

/-- The answers to events in order, each with the live leases after it, and the last session. -/
def run (s : GateSession) : List GateEvent → List (GateAnswer × Nat) × GateSession
  | [] => ([], s)
  | e :: rest =>
      let (answer, next) := s.step e
      let (answers, last) := next.run rest
      ((answer, next.active) :: answers, last)

/-- The clock can show the instant that an event asks for. -/
def canStep (s : GateSession) : GateEvent → Bool
  | .request r =>
      match Gate.leaseParams? s.role r with
      | some params => s.gate.canExpire s.now params
      | none => true
  | .call params => s.gate.canExpire s.now params
  | .publish _ _ => true
  | .advance d => s.now + d.nanos < clockLimit

def canRun (s : GateSession) : List GateEvent → Bool
  | [] => true
  | e :: rest => s.canStep e && (s.step e).2.canRun rest

/-- What `run` gives, if the clock can show what the events ask for. -/
def answers (s : GateSession) (events : List GateEvent) :
    Except ClockError (List (GateAnswer × Nat) × GateSession) :=
  if s.canRun events then .ok (s.run events) else .error .outOfRange

end GateSession

end StartupGate

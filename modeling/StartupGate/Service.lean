/-
# StartupGate.Service -- carrying out the three commands

The gate and the status server plan their checks, take their address, and serve until the
shutdown; `Server` is a server with its checks on one clock.  The client waits for a
lease.  A command fails if its checks cannot be planned, its address is taken, or the
shutdown comes before the lease (`Service.Failure`); a server that is shut down does not
fail.
-/
import StartupGate.Gate.Server
import StartupGate.Health.Plan
import StartupGate.LockClient

set_option autoImplicit false

namespace StartupGate

open StartupGate.Settings (LockSettings HealthSettings InitSettings Command CheckSettings)

/-! ## Servers -/

/-- A server with the loops of its checks. -/
structure Server where
  role : ServerRole
  gate : Gate
  checks : Evaluators

namespace Server

/-- What the loops have published and counted, as the gate sees it. -/
def publish (s : Server) : Server :=
  { s with gate := { s.gate with
      signals := s.checks.signals
      metrics := { s.gate.metrics with
        healthChecks := s.checks.metrics.healthChecks
        healthStatus := s.checks.metrics.healthStatus } } }

/-- Moves the clock; what is due in the loops happens. -/
def advance (s : Server) (instant : Millis) : Server :=
  { s with checks := s.checks.runTo instant }.publish

def now (s : Server) : Instant := s.checks.now * Duration.nanosPerMilli

def request (s : Server) (r : Http.Request) : Http.Response × Server :=
  let (response, gate) := s.gate.respond s.role s.now r
  (response, { s with gate })

def shutdown (s : Server) : Server := { s with checks := s.checks.shutdown }

end Server

namespace Service

structure Surroundings where
  network : Network
  /-- The way to the cluster, if there is a configuration for it. -/
  cluster : Option HealthPlan.Access
  isFree : (host : String) → (port : Nat) → Bool

inductive Failure where
  | noPlan (cause : PlanError)
  | addressTaken (host : String) (port : Nat)
  | shutDown (url : String)

def Failure.message : Failure → String
  | .noPlan cause => cause.message
  | .addressTaken host port => "failed to bind " ++ Endpoint.addressText host port
  | .shutDown url => "shut down before a lease from " ++ url ++ " was granted"

/-! ## Starting a server -/

def gateOf (s : LockSettings) (signals : List Signal) : Gate :=
  .new s.parallelLocks (.ofSeconds s.lockDuration) signals

/-- The status server has no leases to grant. -/
def statusOf (signals : List Signal) : Gate := .new 0 .zero signals

/-- Plans the checks, takes the address and starts both. -/
def open? (w : Surroundings) (role : ServerRole) (gate : List Signal → Gate) (host : String)
    (port : Nat) (checks : CheckSettings) : Except Failure Server :=
  match (HealthPlan.build w.cluster checks).result with
  | .error cause => .error (.noPlan cause)
  | .ok plan =>
      if w.isFree host port then
        .ok ⟨role, gate plan.signals, plan.start (plan.behaviours w.network w.cluster)⟩
      else .error (.addressTaken host port)

def openGate (w : Surroundings) (s : LockSettings) : Except Failure Server :=
  open? w .gate (gateOf s) s.host s.port s.checks

def openStatus (w : Surroundings) (s : HealthSettings) : Except Failure Server :=
  open? w .status statusOf s.host s.port s.checks

/-! ## Waiting for a lease -/

def clientUrl (s : InitSettings) : String :=
  LockClient.url s.lockHost s.lockPort (s.duration.map .ofSeconds)

def clientPeriod (s : InitSettings) : Duration := .ofSeconds s.period

/-- A client's wait, looking at no more than `fuel` requests. -/
def clientWait (s : InitSettings) (polls : Nat → LockClient.Poll) (shutdown : Option Millis)
    (fuel : Nat) : LockClient.Wait :=
  LockClient.wait (clientPeriod s) polls shutdown fuel

/-- A client succeeds if its wait ends with a lease. -/
def clientResult (s : InitSettings) (wait : LockClient.Wait) : Except Failure Unit :=
  if wait.ending = .granted then .ok () else .error (.shutDown (clientUrl s))

/-! ## Commands -/

def run (w : Surroundings) (shutdown : Millis) : Command → Except Failure Unit
  | .lock s => (openGate w s).map fun _ => ()
  | .health s => (openStatus w s).map fun _ => ()
  | .init s =>
      clientResult s
        (LockClient.waitUntil w.network (clientUrl s) (clientPeriod s) shutdown)

end Service

end StartupGate

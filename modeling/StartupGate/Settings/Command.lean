/-
# StartupGate.Settings.Command -- what the program was asked to do

The values of a command's settings as one record for each command, with a default for
each setting that may be missing, and the views of a record that the rest of the program
uses: a blank node name counts as none, a blank namespace as every namespace.
-/
import StartupGate.Health.Signal
import StartupGate.Settings.Words

set_option autoImplicit false

namespace StartupGate.Settings

/-- The settings of the health checks; periods and timeouts in seconds. -/
structure CheckSettings where
  endpoints : List Endpoint
  endpointPassPeriod : Nat
  endpointFailPeriod : Nat
  endpointTimeout : Nat
  daemonSetCheck : Bool
  daemonSetNamespace : String
  daemonSetHostNetwork : Bool
  daemonSetInclude : List (String × String)
  daemonSetExclude : List (String × String)
  daemonSetPassPeriod : Nat
  daemonSetFailPeriod : Nat
  nodeLoadCheck : Bool
  nodeLoadThreshold : Nat
  nodeLoadPassPeriod : Nat
  nodeLoadFailPeriod : Nat
  nodeName : Option String
  deriving DecidableEq, Repr

/-- The settings of the lease gate; the duration in seconds. -/
structure LockSettings where
  host : String
  port : Nat
  parallelLocks : Nat
  lockDuration : Nat
  checks : CheckSettings
  deriving DecidableEq, Repr

structure HealthSettings where
  host : String
  port : Nat
  checks : CheckSettings
  deriving DecidableEq, Repr

/-- The settings of a client that waits for a lease; times in seconds. -/
structure InitSettings where
  lockHost : String
  lockPort : Nat
  duration : Option Nat
  period : Nat
  timeout : Nat
  deriving DecidableEq, Repr

inductive Command where
  | lock (settings : LockSettings)
  | health (settings : HealthSettings)
  | init (settings : InitSettings)
  deriving DecidableEq, Repr

/-! ## Defaults -/

def defaultGatePort : Nat := 8888

def defaultStatusPort : Nat := 9999

namespace Given

def number? (g : Given) (s : Setting) : Option Nat :=
  match g s with
  | some [.number n] => some n
  | _ => Option.none

def text? (g : Given) (s : Setting) : Option String :=
  match g s with
  | some [.text t] => some t
  | _ => Option.none

/-- A truth value that is not given is false. -/
def truth (g : Given) (s : Setting) : Bool :=
  match g s with
  | some [.truth b] => b
  | _ => false

def endpoints (g : Given) (s : Setting) : List Endpoint :=
  ((g s).getD []).filterMap fun
    | .endpoint e => some e
    | _ => Option.none

def pairs (g : Given) (s : Setting) : List (String × String) :=
  ((g s).getD []).filterMap fun
    | .label key value => some (key, value)
    | _ => Option.none

def checkSettings (g : Given) : CheckSettings where
  endpoints := g.endpoints .check
  endpointPassPeriod := (g.number? .endpointPassPeriod).getD 60
  endpointFailPeriod := (g.number? .endpointFailPeriod).getD 10
  endpointTimeout := (g.number? .endpointTimeout).getD 10
  daemonSetCheck := g.truth .daemonSetCheck
  daemonSetNamespace := (g.text? .daemonSetNamespace).getD ""
  daemonSetHostNetwork := g.truth .daemonSetHostNetwork
  daemonSetInclude := g.pairs .daemonSetInclude
  daemonSetExclude := g.pairs .daemonSetExclude
  daemonSetPassPeriod := (g.number? .daemonSetPassPeriod).getD 60
  daemonSetFailPeriod := (g.number? .daemonSetFailPeriod).getD 10
  nodeLoadCheck := g.truth .nodeLoadCheck
  nodeLoadThreshold := (g.number? .nodeLoadThreshold).getD 80
  nodeLoadPassPeriod := (g.number? .nodeLoadPassPeriod).getD 60
  nodeLoadFailPeriod := (g.number? .nodeLoadFailPeriod).getD 10
  nodeName := g.text? .nodeName

def command (g : Given) : CommandName → Command
  | .lock => .lock {
      host := (g.text? .gateHost).getD "0.0.0.0"
      port := (g.number? .gatePort).getD defaultGatePort
      parallelLocks := (g.number? .parallelLocks).getD 1
      lockDuration := (g.number? .lockDuration).getD 10
      checks := g.checkSettings }
  | .health => .health {
      host := (g.text? .gateHost).getD "0.0.0.0"
      port := (g.number? .gatePort).getD defaultStatusPort
      checks := g.checkSettings }
  | .init => .init {
      lockHost := (g.text? .lockHost).getD ""
      lockPort := (g.number? .lockPort).getD defaultGatePort
      duration := g.number? .requestDuration
      period := (g.number? .period).getD 60
      timeout := (g.number? .timeout).getD 1 }

end Given

def Command.read (words : List String) (environment : String → Option String) :
    Except UsageError Command := do
  let (name, rest) ← splitCommand words
  let g ← readGiven name rest environment
  return g.command name

/-! ## Views -/

namespace CheckSettings

def endpointCheckEnabled (c : CheckSettings) : Bool := !c.endpoints.isEmpty

def clusterChecksEnabled (c : CheckSettings) : Bool := c.daemonSetCheck || c.nodeLoadCheck

def endpointPeriods (c : CheckSettings) : Periods :=
  ⟨.ofSeconds c.endpointPassPeriod, .ofSeconds c.endpointFailPeriod⟩

def daemonSetPeriods (c : CheckSettings) : Periods :=
  ⟨.ofSeconds c.daemonSetPassPeriod, .ofSeconds c.daemonSetFailPeriod⟩

def nodeLoadPeriods (c : CheckSettings) : Periods :=
  ⟨.ofSeconds c.nodeLoadPassPeriod, .ofSeconds c.nodeLoadFailPeriod⟩

/-- The text without the blanks around it, unless nothing is left. -/
def unlessBlank (s : String) : Option String :=
  let trimmed := Text.trimText s
  if trimmed = "" then none else some trimmed

/-- The namespace that is looked at; none stands for every namespace. -/
def effectiveNamespace? (c : CheckSettings) : Option String := unlessBlank c.daemonSetNamespace

/-- The name of the node, unless it is blank. -/
def effectiveNodeName? (c : CheckSettings) : Option String := c.nodeName.bind unlessBlank

def includeLabels (c : CheckSettings) : Labels := .ofPairs c.daemonSetInclude

def excludeLabels (c : CheckSettings) : Labels := .ofPairs c.daemonSetExclude

end CheckSettings

end StartupGate.Settings

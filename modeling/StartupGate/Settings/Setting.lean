/-
# StartupGate.Settings.Setting -- every setting, its flag and its variable

One table says how a setting is written: its flag on the command line, its environment
variable, the placeholder for its value in messages, and the kind of its value.  Each
command takes a list of settings, in the order in which their variables are looked at.
-/
import StartupGate.Settings.Value

set_option autoImplicit false

namespace StartupGate.Settings

inductive Setting where
  | gateHost | gatePort | parallelLocks | lockDuration
  | check
  | endpointPassPeriod | endpointFailPeriod | endpointTimeout
  | daemonSetCheck | daemonSetNamespace | daemonSetHostNetwork
  | daemonSetInclude | daemonSetExclude
  | daemonSetPassPeriod | daemonSetFailPeriod
  | nodeLoadCheck | nodeLoadThreshold | nodeLoadPassPeriod | nodeLoadFailPeriod
  | nodeName
  | lockHost | lockPort | requestDuration | period | timeout
  deriving DecidableEq, Repr

structure Entry where
  /-- The name on the command line, without its two dashes. -/
  flag : String
  variableName : String
  kind : Kind
  /-- What stands for the value in messages. -/
  placeholder : String

def Setting.entry : Setting → Entry
  | .gateHost => ⟨"host", "PODLOCK_HOST", .text, "HOST"⟩
  | .gatePort => ⟨"port", "PODLOCK_PORT", .ranged Integer.maxUnsigned16, "PORT"⟩
  | .parallelLocks => ⟨"parallel-locks", "PODLOCK_PARALLEL_LOCKS", .count, "PARALLEL_LOCKS"⟩
  | .lockDuration => ⟨"lock-duration", "PODLOCK_LOCK_DURATION", .count, "LOCK_DURATION"⟩
  | .check => ⟨"check", "PODLOCK_CHECKS", .endpoints, "ENDPOINT"⟩
  | .endpointPassPeriod =>
      ⟨"endpoint-pass-period", "PODLOCK_ENDPOINT_PASS_PERIOD", .count, "ENDPOINT_PASS_PERIOD"⟩
  | .endpointFailPeriod =>
      ⟨"endpoint-fail-period", "PODLOCK_ENDPOINT_FAIL_PERIOD", .count, "ENDPOINT_FAIL_PERIOD"⟩
  | .endpointTimeout =>
      ⟨"endpoint-timeout", "PODLOCK_ENDPOINT_TIMEOUT", .count, "ENDPOINT_TIMEOUT"⟩
  | .daemonSetCheck =>
      ⟨"daemonset-check", "PODLOCK_DAEMONSET_CHECK", .truth, "DAEMONSET_CHECK"⟩
  | .daemonSetNamespace =>
      ⟨"daemonset-namespace", "PODLOCK_DAEMONSET_NAMESPACE", .text, "DAEMONSET_NAMESPACE"⟩
  | .daemonSetHostNetwork =>
      ⟨"daemonset-host-network", "PODLOCK_DAEMONSET_HOST_NETWORK", .truth,
        "DAEMONSET_HOST_NETWORK"⟩
  | .daemonSetInclude =>
      ⟨"daemonset-include", "PODLOCK_DAEMONSET_INCLUDE", .labels, "DAEMONSET_INCLUDE"⟩
  | .daemonSetExclude =>
      ⟨"daemonset-exclude", "PODLOCK_DAEMONSET_EXCLUDE", .labels, "DAEMONSET_EXCLUDE"⟩
  | .daemonSetPassPeriod =>
      ⟨"daemonset-pass-period", "PODLOCK_DAEMONSET_PASS_PERIOD", .count, "DAEMONSET_PASS_PERIOD"⟩
  | .daemonSetFailPeriod =>
      ⟨"daemonset-fail-period", "PODLOCK_DAEMONSET_FAIL_PERIOD", .count, "DAEMONSET_FAIL_PERIOD"⟩
  | .nodeLoadCheck => ⟨"nodeload-check", "PODLOCK_NODELOAD_CHECK", .truth, "NODELOAD_CHECK"⟩
  | .nodeLoadThreshold =>
      ⟨"nodeload-threshold", "PODLOCK_NODELOAD_THRESHOLD", .ranged Integer.maxUnsigned8,
        "NODELOAD_THRESHOLD"⟩
  | .nodeLoadPassPeriod =>
      ⟨"nodeload-pass-period", "PODLOCK_NODELOAD_PASS_PERIOD", .count, "NODELOAD_PASS_PERIOD"⟩
  | .nodeLoadFailPeriod =>
      ⟨"nodeload-fail-period", "PODLOCK_NODELOAD_FAIL_PERIOD", .count, "NODELOAD_FAIL_PERIOD"⟩
  | .nodeName => ⟨"node-name", "NODE_NAME", .text, "NODE_NAME"⟩
  | .lockHost => ⟨"lock-host", "PODLOCK_LOCK_HOST", .text, "LOCK_HOST"⟩
  | .lockPort => ⟨"lock-port", "PODLOCK_LOCK_PORT", .ranged Integer.maxUnsigned16, "LOCK_PORT"⟩
  | .requestDuration => ⟨"lock-duration", "PODLOCK_REQUEST_DURATION", .count, "LOCK_DURATION"⟩
  | .period => ⟨"period", "PODLOCK_LOCK_CHECK_PERIOD", .count, "PERIOD"⟩
  | .timeout => ⟨"timeout", "PODLOCK_LOCK_CHECK_TIMEOUT", .count, "TIMEOUT"⟩

namespace Setting

def flag (s : Setting) : String := s.entry.flag

def variableName (s : Setting) : String := s.entry.variableName

def kind (s : Setting) : Kind := s.entry.kind

/-- The setting as messages show it: its flag, with a placeholder if it takes a value. -/
def display (s : Setting) : String :=
  "--" ++ s.flag ++
    (if s.kind = .truth then "" else " <" ++ s.entry.placeholder ++ ">")

end Setting

/-! ## Commands and their settings -/

inductive CommandName where
  | lock | health | init
  deriving DecidableEq, Repr

namespace CommandName

def word : CommandName → String
  | .lock => "lock"
  | .health => "health"
  | .init => "init"

/-- The command a word names; no other spelling counts. -/
def read? (word : String) : Option CommandName :=
  if word = "lock" then some .lock
  else if word = "health" then some .health
  else if word = "init" then some .init
  else none

/-- The settings of the health checks, shared by two commands. -/
def checkSettings : List Setting :=
  [.check, .endpointPassPeriod, .endpointFailPeriod, .endpointTimeout,
    .daemonSetCheck, .daemonSetNamespace, .daemonSetHostNetwork,
    .daemonSetInclude, .daemonSetExclude, .daemonSetPassPeriod, .daemonSetFailPeriod,
    .nodeLoadCheck, .nodeLoadThreshold, .nodeLoadPassPeriod, .nodeLoadFailPeriod, .nodeName]

def settings : CommandName → List Setting
  | .lock => [.gateHost, .gatePort, .parallelLocks, .lockDuration] ++ checkSettings
  | .health => [.gateHost, .gatePort] ++ checkSettings
  | .init => [.lockHost, .lockPort, .requestDuration, .period, .timeout]

def required : CommandName → List Setting
  | .init => [.lockHost]
  | _ => []

def setting? (c : CommandName) (flag : String) : Option Setting :=
  c.settings.find? (·.flag == flag)

end CommandName

end StartupGate.Settings

/-
# StartupGate.Settings.Validation -- the rules between settings

Reading a command line checks each value alone.  `Command.validate` checks the rules that
make a configuration safe to run, in a fixed order, and gives the first that is broken.
-/
import StartupGate.Settings.Command

set_option autoImplicit false

namespace StartupGate.Settings

inductive ConfigError where
  | invalidParallelLocks (given : Nat)
  | invalidThreshold (given : Nat)
  | conflictingLabelFilters
  | zeroPeriod (name : String)
  | missingNodeName (check : String)
  deriving DecidableEq, Repr

def ConfigError.message : ConfigError → String
  | .invalidParallelLocks n => "parallel locks must be at least 1, got " ++ Integer.toText n
  | .invalidThreshold n => "CPU threshold must be between 0 and 100, got " ++ Integer.toText n
  | .conflictingLabelFilters => "include and exclude labels are mutually exclusive"
  | .zeroPeriod name => name ++ " must be greater than zero"
  | .missingNodeName check => "NODE_NAME is required when the " ++ check ++ " check is enabled"

namespace CheckSettings

/-- The periods that must not be zero, with their names in messages. -/
def namedPeriods (c : CheckSettings) : List (String × Nat) :=
  [("endpoint pass period", c.endpointPassPeriod),
    ("endpoint fail period", c.endpointFailPeriod),
    ("endpoint timeout", c.endpointTimeout),
    ("DaemonSet pass period", c.daemonSetPassPeriod),
    ("DaemonSet fail period", c.daemonSetFailPeriod),
    ("node load pass period", c.nodeLoadPassPeriod),
    ("node load fail period", c.nodeLoadFailPeriod)]

/-- The rules of the health checks: no zero period, a threshold of at most one hundred, labels to
include or to exclude but not both, and a node name for a check of the cluster. -/
def validate (c : CheckSettings) : Except ConfigError Unit :=
  match c.namedPeriods.find? (·.2 == 0) with
  | some (name, _) => .error (.zeroPeriod name)
  | none =>
      if 100 < c.nodeLoadThreshold then .error (.invalidThreshold c.nodeLoadThreshold)
      else if c.daemonSetInclude ≠ [] ∧ c.daemonSetExclude ≠ [] then .error .conflictingLabelFilters
      else if c.effectiveNodeName?.isNone ∧ c.daemonSetCheck then
        .error (.missingNodeName "DaemonSet")
      else if c.effectiveNodeName?.isNone ∧ c.nodeLoadCheck then
        .error (.missingNodeName "node load")
      else .ok ()

end CheckSettings

/-- A gate needs room for at least one lease. -/
def LockSettings.validate (s : LockSettings) : Except ConfigError Unit :=
  if s.parallelLocks < 1 then .error (.invalidParallelLocks s.parallelLocks)
  else s.checks.validate

/-- A client waits between its requests and for each answer. -/
def InitSettings.validate (s : InitSettings) : Except ConfigError Unit :=
  if s.period = 0 then .error (.zeroPeriod "lock check period")
  else if s.timeout = 0 then .error (.zeroPeriod "lock check timeout")
  else .ok ()

def Command.validate : Command → Except ConfigError Unit
  | .lock s => s.validate
  | .health s => s.checks.validate
  | .init s => s.validate

end StartupGate.Settings

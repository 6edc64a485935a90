/-
# StartupGate.Metrics -- counted outcomes and their exposition

Three families are kept: lease requests by outcome, health check runs by check and
result, and the latest result of each check.  A family holds one sample for each
combination of label values that was ever recorded, in the order of those values
(`Samples.update` keeps it).  `Metrics.text` writes the families that hold samples, in
the order of their names, in the text format of a metrics scrape.
-/
import StartupGate.Number.Integer

set_option autoImplicit false

namespace StartupGate

/-! ## Samples -/

/-- Values by label values, in increasing order of the label values. -/
abbrev Samples := List (List String × Nat)

namespace Samples

/-- Label values are compared one after the other, each by code points. -/
def keyBefore : List String → List String → Bool
  | _, [] => false
  | [], _ :: _ => true
  | a :: as, b :: bs => if a < b then true else if b < a then false else keyBefore as bs

/-- Changes the value of a sample; one that is not there yet starts at zero. -/
def update (key : List String) (f : Nat → Nat) : Samples → Samples
  | [] => [(key, f 0)]
  | (k, v) :: rest =>
      if k = key then (k, f v) :: rest
      else if keyBefore key k then (key, f 0) :: (k, v) :: rest
      else (k, v) :: update key f rest

def get? (s : Samples) (key : List String) : Option Nat := s.lookup key

end Samples

/-! ## Families -/

inductive FamilyKind where
  | counter | gauge
  deriving DecidableEq, Repr

def FamilyKind.word : FamilyKind → String
  | .counter => "counter"
  | .gauge => "gauge"

structure Family where
  name : String
  help : String
  kind : FamilyKind
  labels : List String

namespace Family

def leaseRequests : Family :=
  ⟨"podlock_lease_requests_total", "Total number of lease requests handled by the gate",
    .counter, ["result"]⟩

def healthChecks : Family :=
  ⟨"podlock_health_checks_total", "Total number of health check runs",
    .counter, ["check", "result"]⟩

def healthStatus : Family :=
  ⟨"podlock_health_status", "Latest health check result (1 healthy, 0 unhealthy)",
    .gauge, ["check"]⟩

end Family

inductive LeaseOutcome where
  | granted | locked | unhealthy
  deriving DecidableEq, Repr

def LeaseOutcome.word : LeaseOutcome → String
  | .granted => "granted"
  | .locked => "locked"
  | .unhealthy => "unhealthy"

def resultWord (healthy : Bool) : String := if healthy then "pass" else "fail"

structure Metrics where
  leaseRequests : Samples
  healthChecks : Samples
  healthStatus : Samples
  deriving DecidableEq, Repr

namespace Metrics

def empty : Metrics := ⟨[], [], []⟩

def recordLease (m : Metrics) (outcome : LeaseOutcome) : Metrics :=
  { m with leaseRequests := m.leaseRequests.update [outcome.word] (· + 1) }

/-- Counts one run of a check and keeps its result as the latest. -/
def recordCheck (m : Metrics) (check : String) (healthy : Bool) : Metrics :=
  { m with
    healthChecks := m.healthChecks.update [check, resultWord healthy] (· + 1)
    healthStatus := m.healthStatus.update [check] fun _ => if healthy then 1 else 0 }

/-! ## Recorded events -/

inductive Event where
  | lease (outcome : LeaseOutcome)
  | check (name : String) (healthy : Bool)
  deriving DecidableEq, Repr

def record (m : Metrics) : Event → Metrics
  | .lease outcome => m.recordLease outcome
  | .check name healthy => m.recordCheck name healthy

def ofEvents (events : List Event) : Metrics := events.foldl record empty

/-! ## Exposition -/

def escapeChar (c : Char) : List Char :=
  if c = '\\' then ['\\', '\\']
  else if c = '"' then ['\\', '"']
  else if c = '\n' then ['\\', 'n']
  else [c]

def escape (s : String) : String := String.ofList (s.toList.flatMap escapeChar)

def labelText (label value : String) : String := label ++ "=\"" ++ escape value ++ "\""

def sampleLine (f : Family) (sample : List String × Nat) : String :=
  f.name ++ "\x7b" ++ ",".intercalate (List.zipWith labelText f.labels sample.1) ++ "\x7d " ++
    Integer.toText sample.2 ++ "\n"

/-- The lines of a family: its help, its kind and its samples; nothing without samples. -/
def familyText (f : Family) (samples : Samples) : String :=
  if samples.isEmpty then ""
  else
    "# HELP " ++ f.name ++ " " ++ f.help ++ "\n" ++
    "# TYPE " ++ f.name ++ " " ++ f.kind.word ++ "\n" ++
    String.join (samples.map (sampleLine f))

/-- The exposition of all families, in the order of their names. -/
def text (m : Metrics) : String :=
  familyText .healthChecks m.healthChecks ++ familyText .healthStatus m.healthStatus ++
    familyText .leaseRequests m.leaseRequests

end Metrics

end StartupGate

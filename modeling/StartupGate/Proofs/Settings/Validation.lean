/-
# StartupGate.Proofs.Settings.Validation -- the rules of a configuration

Which configurations are safe is said here once more, without an order (`Command.Safe`), and which rules
one breaks, in order (`Command.broken`).  A configuration is safe if it breaks none, and validating it
gives the first that it breaks.

* `isNone_effectiveNodeName?_iff`: what the name of the node is trimmed for.
* `Command.safe_iff`: the rules are those that make a configuration safe.
* `Command.validate_eq`: the outcome of validating a configuration.
-/
import StartupGate.Proofs.Text.Blank
import StartupGate.Settings.Validation

set_option autoImplicit false

namespace StartupGate.Settings

/-! ## Safe configurations -/

namespace CheckSettings

variable {c : CheckSettings}

/-- A name of the node is given that is not blank. -/
def HasNodeName (c : CheckSettings) : Prop := ∃ name ∈ c.nodeName, Text.HasSubstance name

instance (c : CheckSettings) : Decidable c.HasNodeName :=
  inferInstanceAs (Decidable (∃ name ∈ c.nodeName, Text.HasSubstance name))

/-- No check is polled without a pause or given no time, no limit is above the whole, the labels of
DaemonSets are chosen in one way, and the checks of the cluster know their node. -/
structure Safe (c : CheckSettings) : Prop where
  endpointPassPeriod : c.endpointPassPeriod ≠ 0
  endpointFailPeriod : c.endpointFailPeriod ≠ 0
  endpointTimeout : c.endpointTimeout ≠ 0
  daemonSetPassPeriod : c.daemonSetPassPeriod ≠ 0
  daemonSetFailPeriod : c.daemonSetFailPeriod ≠ 0
  nodeLoadPassPeriod : c.nodeLoadPassPeriod ≠ 0
  nodeLoadFailPeriod : c.nodeLoadFailPeriod ≠ 0
  threshold : c.nodeLoadThreshold ≤ 100
  labels : c.daemonSetInclude = [] ∨ c.daemonSetExclude = []
  nodeName : c.daemonSetCheck = true ∨ c.nodeLoadCheck = true → c.HasNodeName

end CheckSettings

/-- A configuration that can be run: a gate has room for a lease, a client pauses between its requests and
waits for each answer, and the checks of a server are safe. -/
def Command.Safe : Command → Prop
  | .lock s => 1 ≤ s.parallelLocks ∧ s.checks.Safe
  | .health s => s.checks.Safe
  | .init s => s.period ≠ 0 ∧ s.timeout ≠ 0

/-! ## Broken rules -/

/-- The cause if a rule is broken. -/
def brokenIf (p : Prop) [Decidable p] (cause : ConfigError) : List ConfigError :=
  if p then [cause] else []

/-- The rules that the health checks break, in order. -/
def CheckSettings.broken (c : CheckSettings) : List ConfigError :=
  (c.namedPeriods.filter (·.2 == 0)).map (fun (name, _) => .zeroPeriod name) ++
  brokenIf (100 < c.nodeLoadThreshold) (.invalidThreshold c.nodeLoadThreshold) ++
  brokenIf (c.daemonSetInclude ≠ [] ∧ c.daemonSetExclude ≠ []) .conflictingLabelFilters ++
  brokenIf (¬ c.HasNodeName ∧ c.daemonSetCheck) (.missingNodeName "DaemonSet") ++
  brokenIf (¬ c.HasNodeName ∧ c.nodeLoadCheck) (.missingNodeName "node load")

/-- The rules that a command breaks, in order. -/
def Command.broken : Command → List ConfigError
  | .lock s => brokenIf (s.parallelLocks < 1) (.invalidParallelLocks s.parallelLocks) ++ s.checks.broken
  | .health s => s.checks.broken
  | .init s =>
      brokenIf (s.period = 0) (.zeroPeriod "lock check period") ++
      brokenIf (s.timeout = 0) (.zeroPeriod "lock check timeout")

/-- The outcome of looking at rules in order, of which these are broken. -/
def firstOf (broken : List ConfigError) : Except ConfigError Unit :=
  match broken with
  | [] => .ok ()
  | cause :: _ => .error cause

theorem firstOf_eq_ok_iff {broken : List ConfigError} : firstOf broken = .ok () ↔ broken = [] := by
  cases broken <;> simp [firstOf]

theorem firstOf_eq_error_iff {broken : List ConfigError} {cause : ConfigError} :
    firstOf broken = .error cause ↔ broken.head? = some cause := by
  cases broken <;> simp [firstOf]

/-- A rule before others decides if it is broken. -/
theorem firstOf_brokenIf (p : Prop) [Decidable p] (cause : ConfigError) (rest : List ConfigError) :
    firstOf (brokenIf p cause ++ rest) = if p then .error cause else firstOf rest := by
  unfold brokenIf
  split <;> rfl

/-- The last rule decides if no other is broken. -/
theorem firstOf_brokenIf_last (p : Prop) [Decidable p] (cause : ConfigError) :
    firstOf (brokenIf p cause) = if p then .error cause else .ok () := by
  unfold brokenIf
  split <;> rfl

theorem brokenIf_eq_nil_iff {p : Prop} [Decidable p] {cause : ConfigError} :
    brokenIf p cause = [] ↔ ¬ p := by
  simp [brokenIf]

namespace CheckSettings

variable {c : CheckSettings}

/-- **The name of the node counts as missing exactly if it is not given or blank.** -/
theorem isNone_effectiveNodeName?_iff : c.effectiveNodeName?.isNone = true ↔ ¬ c.HasNodeName := by
  unfold effectiveNodeName? HasNodeName
  cases c.nodeName with
  | none => simp
  | some name => simp [unlessBlank, Text.trimText_eq_empty_iff]

theorem broken_eq_nil_iff : c.broken = [] ↔ c.Safe := by
  simp only [broken, List.append_eq_nil_iff, List.map_eq_nil_iff, brokenIf_eq_nil_iff]
  constructor
  · rintro ⟨⟨⟨⟨periods, threshold⟩, labels⟩, daemonSets⟩, nodeLoad⟩
    simp only [namedPeriods, List.filter_eq_nil_iff, List.mem_cons, List.not_mem_nil, or_false,
      forall_eq_or_imp, forall_eq, beq_iff_eq] at periods
    obtain ⟨p₁, p₂, p₃, p₄, p₅, p₆, p₇⟩ := periods
    refine ⟨p₁, p₂, p₃, p₄, p₅, p₆, p₇, Nat.not_lt.mp threshold, ?_, ?_⟩
    · by_cases noInclude : c.daemonSetInclude = []
      · exact .inl noInclude
      · exact .inr (Classical.not_not.mp fun some' => labels ⟨noInclude, some'⟩)
    · rintro (on | on)
      · exact Classical.not_not.mp fun missing => daemonSets ⟨missing, on⟩
      · exact Classical.not_not.mp fun missing => nodeLoad ⟨missing, on⟩
  · intro safe
    refine ⟨⟨⟨⟨?_, Nat.not_lt.mpr safe.threshold⟩, ?_⟩, ?_⟩, ?_⟩
    · simp [namedPeriods, safe.endpointPassPeriod, safe.endpointFailPeriod, safe.endpointTimeout,
        safe.daemonSetPassPeriod, safe.daemonSetFailPeriod, safe.nodeLoadPassPeriod,
        safe.nodeLoadFailPeriod]
    · rintro ⟨some', some''⟩
      rcases safe.labels with noInclude | noExclude
      · exact some' noInclude
      · exact some'' noExclude
    · rintro ⟨missing, on⟩
      exact missing (safe.nodeName (.inl on))
    · rintro ⟨missing, on⟩
      exact missing (safe.nodeName (.inr on))

/-- **Validating the health checks gives the first rule that they break.** -/
theorem validate_eq (c : CheckSettings) : c.validate = firstOf c.broken := by
  unfold validate broken
  cases found : c.namedPeriods.find? (·.2 == 0) with
  | some zero =>
      have first : (c.namedPeriods.filter (·.2 == 0)).head? = some zero := by
        rw [List.head?_filter, found]
      obtain ⟨others, split⟩ := List.head?_eq_some_iff.mp first
      rw [split]
      rfl
  | none =>
      have nothing : c.namedPeriods.filter (·.2 == 0) = [] :=
        List.filter_eq_nil_iff.mpr (List.find?_eq_none.mp found)
      rw [nothing, List.map_nil, List.nil_append]
      simp only [List.append_assoc, firstOf_brokenIf, firstOf_brokenIf_last,
        isNone_effectiveNodeName?_iff]

theorem validate_eq_ok_iff : c.validate = .ok () ↔ c.Safe := by
  rw [validate_eq, firstOf_eq_ok_iff, broken_eq_nil_iff]

/-- A check of the cluster has the name of its node. -/
theorem Safe.exists_nodeName (safe : c.Safe) (cluster : c.clusterChecksEnabled = true) :
    ∃ name, c.effectiveNodeName? = some name := by
  have given := safe.nodeName ((Bool.or_eq_true _ _).mp cluster)
  cases found : c.effectiveNodeName? with
  | some name => exact ⟨name, rfl⟩
  | none => exact absurd given (isNone_effectiveNodeName?_iff.mp (congrArg Option.isNone found))

end CheckSettings

namespace Command

/-- **A command is safe exactly if it breaks no rule.** -/
theorem safe_iff (command : Command) : command.Safe ↔ command.broken = [] := by
  cases command with
  | lock s =>
      simp only [Safe, broken, List.append_eq_nil_iff, brokenIf_eq_nil_iff, Nat.not_lt,
        CheckSettings.broken_eq_nil_iff]
  | health s => simp only [Safe, broken, CheckSettings.broken_eq_nil_iff]
  | init s => simp only [Safe, broken, List.append_eq_nil_iff, brokenIf_eq_nil_iff, ne_eq]

/-- **Validating a command gives the first rule that it breaks.** -/
theorem validate_eq (command : Command) : command.validate = firstOf command.broken := by
  cases command with
  | lock s =>
      rw [validate, LockSettings.validate, broken, firstOf_brokenIf, CheckSettings.validate_eq]
  | health s => exact CheckSettings.validate_eq s.checks
  | init s =>
      rw [validate, InitSettings.validate, broken, firstOf_brokenIf, firstOf_brokenIf_last]

/-- A blank name of the node is none; of three broken rules the first is reported. -/
example :
    let checks : CheckSettings :=
      ⟨[], 10, 0, 3, true, "kube-system", false, [], [], 30, 5, false, 101, 30, 5, some "  "⟩
    (health ⟨"0.0.0.0", 9999, checks⟩).broken =
      [.zeroPeriod "endpoint fail period", .invalidThreshold 101, .missingNodeName "DaemonSet"] := by
  decide

theorem validate_eq_ok_iff (command : Command) : command.validate = .ok () ↔ command.Safe := by
  rw [validate_eq, firstOf_eq_ok_iff, safe_iff]

end Command

end StartupGate.Settings

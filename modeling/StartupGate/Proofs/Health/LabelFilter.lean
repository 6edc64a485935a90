/-
# StartupGate.Proofs.Health.LabelFilter -- which DaemonSets the written labels leave out

Labels to include and to exclude are written as lists of pairs, and a filter has them as sets with one
value for each key.  So of the pairs of a list with one key only the last takes effect
(`Labels.IsLast`), and a list means what it says, that each of its pairs takes effect, exactly if it
has one value for each key (`Labels.Unambiguous`).

* `excludes_iff`, `includes_iff`: what a filter with the labels of a list leaves out.
* `excludes_all_iff`, `includes_all_iff`: the lists that mean what they say.
* `skip_by_last_pairs`: from the words of a command to the filter of its plan.
-/
import StartupGate.Proofs.Health.DaemonSetFilter
import StartupGate.Proofs.Health.Plan
import StartupGate.Proofs.Labels
import StartupGate.Proofs.Settings.Texts

set_option autoImplicit false

namespace StartupGate

open Cluster (DaemonSet)
open Labels (IsLast Unambiguous)

namespace DaemonSetFilter

variable {f : DaemonSetFilter} {ds : DaemonSet} {node : Labels} {excluded included : List (String × String)}

/-! ## The reasons -/

theorem skip?_excludeLabels_iff :
    f.skip? ds node = some .excludeLabels ↔ ds.labelSet.holdsAny f.excludes = true := by
  rw [skip?_eq_some_iff, bars_excludeLabels_iff]
  simp [SkipReason.before, SkipReason.inOrder]

theorem skip?_includeLabels_iff : f.skip? ds node = some .includeLabels ↔
    ds.labelSet.holdsAny f.excludes = false ∧ f.includes.isEmpty = false ∧
      ds.labelSet.holdsAll f.includes = false := by
  rw [skip?_eq_some_iff, bars_includeLabels_iff]
  have earlier : (∀ reason ∈ SkipReason.before .includeLabels, ¬ f.Bars ds node reason) ↔
      ds.labelSet.holdsAny f.excludes = false := by
    simp [SkipReason.before, SkipReason.inOrder, bars_excludeLabels_iff]
  rw [earlier, and_comm]
  cases empty : f.includes.isEmpty with
  | true => simp [List.isEmpty_iff.mp empty]
  | false => simp [Labels.holdsAll_eq empty]

/-! ## Lists of pairs -/

/-- **What is excluded**: the DaemonSets with the last pair of some key. -/
theorem excludes_iff (fromList : f.excludes = .ofPairs excluded) :
    f.skip? ds node = some .excludeLabels ↔
      ∃ pair, IsLast excluded pair ∧ ds.labelSet.holds pair = true := by
  rw [skip?_excludeLabels_iff, fromList, Labels.holdsAny_ofPairs]

/-- **What is not included**, where nothing is excluded: the DaemonSets that lack the last pair of some
key. -/
theorem includes_iff (nothing : f.excludes = .ofPairs []) (fromList : f.includes = .ofPairs included)
    (some_pair : included ≠ []) :
    f.skip? ds node = some .includeLabels ↔
      ∃ pair, IsLast included pair ∧ ds.labelSet.holds pair = false := by
  have notEmpty : f.includes.isEmpty = false := by
    rw [fromList, ← Bool.not_eq_true, Labels.isEmpty_ofPairs]
    exact some_pair
  have noneExcluded : ds.labelSet.holdsAny f.excludes = false := by
    rw [nothing]
    rfl
  rw [skip?_includeLabels_iff, ← Bool.not_eq_true (ds.labelSet.holdsAll f.includes)]
  rw [fromList] at notEmpty ⊢
  simp [noneExcluded, notEmpty, Labels.holdsAll_ofPairs some_pair]

/-- A DaemonSet with these labels. -/
def labelled (l : Labels) : DaemonSet := ⟨none, none, none, some l, none, none⟩

/-- **All pairs of a list are excluded exactly if it has one value for each key.** -/
theorem excludes_all_iff (fromList : f.excludes = .ofPairs excluded) :
    (∀ ds node, f.skip? ds node = some .excludeLabels ↔
      ∃ pair ∈ excluded, ds.labelSet.holds pair = true) ↔ Unambiguous excluded := by
  simp only [excludes_iff fromList, Labels.holdsAny_all_iff]
  exact ⟨fun all l => all (labelled l) .empty, fun all ds _ => all ds.labelSet⟩

/-- **All pairs of a list are asked for exactly if it has one value for each key.** -/
theorem includes_all_iff (nothing : f.excludes = .ofPairs []) (fromList : f.includes = .ofPairs included)
    (some_pair : included ≠ []) :
    (∀ ds node, f.skip? ds node = some .includeLabels ↔
      ∃ pair ∈ included, ds.labelSet.holds pair = false) ↔ Unambiguous included := by
  simp only [includes_iff nothing fromList some_pair, Labels.holdsAll_all_iff]
  exact ⟨fun all l => all (labelled l) .empty, fun all ds _ => all ds.labelSet⟩

end DaemonSetFilter

/-! ## From words to a plan -/

namespace HealthPlan

open Settings

variable {cluster : Option Access} {c : CheckSettings} {plan : HealthPlan}
  {planned : Planned DaemonSetCheck}

/-- The check of a plan has the filter of its configuration. -/
theorem filter_of_build (ok : (build cluster c).result = .ok plan)
    (turnedOn : plan.daemonSets = some planned) : planned.check.filter = daemonSetFilter c := by
  have built := built_build cluster c
  rw [ok] at built
  cases built with
  | locally off => cases turnedOn
  | @planned nodeName node _ made =>
      rw [ofNode] at made
      split at made
      · cases made
      · cases made
        rw [planDaemonSets] at turnedOn
        split at turnedOn
        · cases turnedOn
          rfl
        · cases turnedOn

/-- An API that answers every request with the empty object. -/
def emptyObjects : Access where
  client := ⟨.standard, fun _ => .finite false 0, none⟩
  answers := fun _ _ => .answered 200 "\x7b\x7d"

theorem read_emptyObjects : (Cluster.Api.node emptyObjects.client "n"
    (emptyObjects.answers (.node "n"))).result = .ok ⟨none, none, none⟩ :=
  have delays : emptyObjects.client.HasDelays := Cluster.Api.Client.hasDelays_standard_zero none
  have accepted : Cluster.Api.Accepted Cluster.Node.ofTree? (emptyObjects.answers (.node "n")) 0
      ⟨none, none, none⟩ := Cluster.Api.accepted_node rfl
  have written : Cluster.Api.requestTarget? (.node "n") = some "/api/v1/nodes/n" := by decide
  (Cluster.Api.read_of_accepted rfl delays written accepted).1

theorem build_emptyObjects (on : c.daemonSetCheck = true) (off : c.nodeLoadCheck = false)
    (named : c.effectiveNodeName? = some "n") : (build (some emptyObjects) c).result =
      .ok ⟨planEndpoints c, planDaemonSets c "n" ⟨none, none, none⟩, none⟩ := by
  have enabled : c.clusterChecksEnabled = true := by rw [CheckSettings.clusterChecksEnabled, on]; rfl
  have load : planNodeLoad c "n" ⟨none, none, none⟩ = .ok none := by
    rw [planNodeLoad, off]
    rfl
  rw [(build_of_node emptyObjects enabled named read_emptyObjects).1, ofNode, load]

/-- **Of the written pairs with one key, the last takes effect.**  Take a command line that is read and
leads to a plan with a check of the DaemonSets.  The pairs to include and to exclude are those that are
written, all of them and in order.  Whatever the labels of the node:

* A DaemonSet is excluded if and only if it carries a pair that is the last one with its key.
* Where nothing is excluded and something is to be included, a DaemonSet is not included if and only if
  it lacks a pair that is the last one with its key.
* That this is so of every pair of the list means that no key of the list has two values. -/
theorem skip_by_last_pairs {name : CommandName} {words : List String}
    {environment : String → Option String} {command : Command}
    (read : Command.read (name.word :: words) environment = .ok command)
    (hasChecks : command.checks? = some c) (ok : (build cluster c).result = .ok plan)
    (turnedOn : plan.daemonSets = some planned) :
    let skip? := planned.check.filter.skip?
    let included := c.daemonSetInclude
    let excluded := c.daemonSetExclude
    (ReadAsPairs (Setting.written .daemonSetInclude words environment) included ∧
      ReadAsPairs (Setting.written .daemonSetExclude words environment) excluded) ∧
    (∀ ds node, skip? ds node = some .excludeLabels ↔
      ∃ pair, IsLast excluded pair ∧ ds.labelSet.holds pair = true) ∧
    ((∀ ds node, skip? ds node = some .excludeLabels ↔
      ∃ pair ∈ excluded, ds.labelSet.holds pair = true) ↔ Unambiguous excluded) ∧
    (excluded = [] → included ≠ [] →
      (∀ ds node, skip? ds node = some .includeLabels ↔
        ∃ pair, IsLast included pair ∧ ds.labelSet.holds pair = false) ∧
      ((∀ ds node, skip? ds node = some .includeLabels ↔
        ∃ pair ∈ included, ds.labelSet.holds pair = false) ↔ Unambiguous included)) := by
  intro skip? included excluded
  have fromSettings := filter_of_build ok turnedOn
  have excludes : planned.check.filter.excludes = .ofPairs excluded := by
    rw [fromSettings]
    rfl
  have includes : planned.check.filter.includes = .ofPairs included := by
    rw [fromSettings]
    rfl
  refine ⟨read_pairs read hasChecks, fun ds node => DaemonSetFilter.excludes_iff excludes,
    DaemonSetFilter.excludes_all_iff excludes, fun nothing some_pair => ?_⟩
  rw [nothing] at excludes
  exact ⟨fun ds node => DaemonSetFilter.includes_iff excludes includes some_pair,
    DaemonSetFilter.includes_all_iff excludes includes some_pair⟩

/-- Pairs to include from two words: the DaemonSet that lacks the last pair is left out, but not every
pair is asked for. -/
theorem skip_by_last_pairs_include :
    let words := ["--daemonset-check", "--node-name", "n", "--daemonset-include", "app:a",
      "--daemonset-include=app:b,tier:x"]
    ∃ command c plan planned, Command.read ("lock" :: words) (fun _ => none) = .ok command ∧
      command.checks? = some c ∧ (build (some emptyObjects) c).result = .ok plan ∧
      plan.daemonSets = some planned ∧
      c.daemonSetInclude = [("app", "a"), ("app", "b"), ("tier", "x")] ∧
      planned.check.filter.skip? (DaemonSetFilter.labelled (.ofPairs [("app", "b")])) .empty =
        some .includeLabels ∧
      ¬ ∀ ds node, planned.check.filter.skip? ds node = some .includeLabels ↔
        ∃ pair ∈ c.daemonSetInclude, ds.labelSet.holds pair = false := by
  intro words
  obtain ⟨command, c, read, hasChecks, on, off, named, pairs, nothing⟩ : ∃ command c,
      Command.read (CommandName.lock.word :: words) (fun _ => none) = .ok command ∧
        command.checks? = some c ∧ c.daemonSetCheck = true ∧ c.nodeLoadCheck = false ∧
        c.effectiveNodeName? = some "n" ∧
        c.daemonSetInclude = [("app", "a"), ("app", "b"), ("tier", "x")] ∧
        c.daemonSetExclude = [] :=
    ⟨_, _, rfl, rfl, rfl, rfl, rfl, rfl, rfl⟩
  have ok := build_emptyObjects on off named
  have turnedOn : planDaemonSets c "n" ⟨none, none, none⟩ = some _ := if_pos on
  obtain ⟨-, -, -, includes⟩ := skip_by_last_pairs read hasChecks ok turnedOn
  obtain ⟨byLast, byAll⟩ := includes nothing (by rw [pairs]; exact List.cons_ne_nil _ _)
  refine ⟨command, c, _, _, read, hasChecks, ok, turnedOn, pairs, ?_, ?_⟩
  · rw [byLast, pairs]
    exact ⟨("tier", "x"), rfl, rfl⟩
  · rw [byAll, pairs]
    intro oneValue
    have same := oneValue ("app", "a") (by simp) ("app", "b") (by simp) rfl
    simp at same

/-- Two pairs to exclude with one key, in a valid configuration: the first has no effect. -/
theorem excluded_pair_without_effect :
    ∃ command c plan planned, Command.read ["lock", "--daemonset-check", "--node-name", "n",
        "--daemonset-exclude=app:a,app:b"] (fun _ => none) = .ok command ∧
      command.validate = .ok () ∧ command.checks? = some c ∧
      (build (some emptyObjects) c).result = .ok plan ∧ plan.daemonSets = some planned ∧
      c.daemonSetExclude = [("app", "a"), ("app", "b")] ∧
      let ds := DaemonSetFilter.labelled (.ofPairs [("app", "a")])
      ds.labelSet.holds ("app", "a") = true ∧
        planned.check.filter.skip? ds planned.check.nodeLabels = none := by
  obtain ⟨command, c, read, valid, hasChecks, on, off, named, pairs, filter⟩ : ∃ command c,
      Command.read ["lock", "--daemonset-check", "--node-name", "n",
        "--daemonset-exclude=app:a,app:b"] (fun _ => none) = .ok command ∧
        command.validate = .ok () ∧ command.checks? = some c ∧ c.daemonSetCheck = true ∧
        c.nodeLoadCheck = false ∧ c.effectiveNodeName? = some "n" ∧
        c.daemonSetExclude = [("app", "a"), ("app", "b")] ∧
        daemonSetFilter c = ⟨.empty, .ofPairs [("app", "a"), ("app", "b")], false⟩ :=
    ⟨_, _, rfl, rfl, rfl, rfl, rfl, rfl, rfl, rfl⟩
  have ok := build_emptyObjects on off named
  have turnedOn : planDaemonSets c "n" ⟨none, none, none⟩ = some _ := if_pos on
  refine ⟨command, c, _, _, read, valid, hasChecks, ok, turnedOn, pairs, rfl, ?_⟩
  show (daemonSetFilter c).skip? _ _ = none
  rw [filter]
  rfl

end HealthPlan

end StartupGate

/-
# StartupGate.Proofs.Health.DaemonSetFilter -- which DaemonSets a filter leaves out, and why

A reason bars a DaemonSet from counting for a node by the plain inclusion or disjointness of sets of labels,
read off the fields of the object, whichever of them are there (`DaemonSetFilter.Bars`).  A filter
gives the first reason that bars it (`skip?_eq_find?`), so a DaemonSet counts exactly if no reason does.

Asking for all labels of an empty set is refused (`Labels.holdsAll`), against that plain meaning.  No
decision rests on it: whatever the answer for empty sets is, a filter gives the same reason
(`skipBy_eq_find?`).
-/
import StartupGate.Health.DaemonSetCheck
import StartupGate.Proofs.Labels

set_option autoImplicit false

namespace StartupGate

open Cluster (DaemonSet)

/-- Of a set that is not empty, asking for all is asking for each. -/
theorem Labels.holdsAll_eq {l wanted : Labels} (nonempty : wanted.isEmpty = false) :
    l.holdsAll wanted = wanted.pairs.all l.holds := by
  rw [Bool.eq_iff_iff, holdsAll_iff nonempty, List.all_eq_true]
  simp only [holds_iff_mem wanted]

/-! ## What an object says -/

namespace Cluster.DaemonSet

variable {ds : DaemonSet} {pair : String × String}

/-- The object has labels, and this one is among them. -/
def Carries (ds : DaemonSet) (pair : String × String) : Prop := ∃ labels ∈ ds.labels, pair ∈ labels.pairs

/-- The object says that its pods use the host network. -/
def OnHostNetwork (ds : DaemonSet) : Prop :=
  ∃ spec ∈ ds.spec, ∃ pods ∈ spec.podSpec, pods.hostNetwork = some true

/-- The object says that its pods run only on nodes with this label. -/
def Selects (ds : DaemonSet) (pair : String × String) : Prop :=
  ∃ spec ∈ ds.spec, ∃ pods ∈ spec.podSpec, ∃ selector ∈ pods.nodeSelector, pair ∈ selector.pairs

theorem holds_labelSet_iff : ds.labelSet.holds pair = true ↔ ds.Carries pair := by
  rw [Labels.holds_iff_mem, labelSet, Carries]
  cases ds.labels with
  | none => simp [Labels.empty]
  | some labels => simp

theorem usesHostNetwork_iff : ds.usesHostNetwork = true ↔ ds.OnHostNetwork := by
  rw [usesHostNetwork, podSpec?, OnHostNetwork]
  cases ds.spec with
  | none => simp
  | some spec =>
      cases pods : spec.podSpec with
      | none => simp [pods]
      | some pods' => cases network : pods'.hostNetwork <;> simp [pods, network]

theorem mem_selector_iff : pair ∈ ds.selector.pairs ↔ ds.Selects pair := by
  rw [selector, podSpec?, Selects]
  cases ds.spec with
  | none => simp [Labels.empty]
  | some spec =>
      cases pods : spec.podSpec with
      | none => simp [pods, Labels.empty]
      | some pods' => cases selector : pods'.nodeSelector <;> simp [pods, selector, Labels.empty]

end Cluster.DaemonSet

/-! ## Reasons -/

/-- The reasons in the order in which they are looked at. -/
def SkipReason.inOrder : List SkipReason :=
  [.excludeLabels, .includeLabels, .notHostNetwork, .nodeSelector]

/-- The reasons that are looked at before this one. -/
def SkipReason.before (reason : SkipReason) : List SkipReason :=
  SkipReason.inOrder.takeWhile (· ≠ reason)

theorem SkipReason.mem_inOrder (reason : SkipReason) : reason ∈ SkipReason.inOrder := by
  cases reason <;> decide

/-- What is found is the member that passes before which none does. -/
theorem find?_eq_some_iff_takeWhile {α : Type} [DecidableEq α] {p : α → Bool} {l : List α} {x : α}
    (listed : x ∈ l) :
    l.find? p = some x ↔ p x = true ∧ ∀ y ∈ l.takeWhile (· ≠ x), p y = false := by
  induction l with
  | nil => cases listed
  | cons y rest ih =>
      rw [List.find?_cons, List.takeWhile_cons]
      by_cases found : y = x
      · subst found
        cases passes : p y with
        | true => simp
        | false =>
            simp only [decide_not, decide_true, Bool.not_true, Bool.false_eq_true, if_false, false_and,
              iff_false]
            intro later
            rw [List.find?_some later] at passes
            cases passes
      · have later : x ∈ rest := (List.mem_cons.mp listed).resolve_left (Ne.symm found)
        cases passes : p y with
        | true => simp [found, passes]
        | false => simp [found, passes, ih later]

namespace DaemonSetFilter

variable {f : DaemonSetFilter} {ds : DaemonSet} {node : Labels} {reason : SkipReason}

/-- The reason keeps the DaemonSet from counting for a node with these labels. -/
def Bars (f : DaemonSetFilter) (ds : DaemonSet) (node : Labels) : SkipReason → Prop
  | .excludeLabels => ∃ pair ∈ f.excludes.pairs, ds.Carries pair
  | .includeLabels => ∃ pair ∈ f.includes.pairs, ¬ ds.Carries pair
  | .notHostNetwork => f.hostNetworkOnly = true ∧ ¬ ds.OnHostNetwork
  | .nodeSelector => ∃ pair, ds.Selects pair ∧ pair ∉ node.pairs

theorem bars_excludeLabels_iff :
    f.Bars ds node .excludeLabels ↔ ds.labelSet.holdsAny f.excludes = true := by
  simp [Bars, Labels.holdsAny, DaemonSet.holds_labelSet_iff]

theorem bars_includeLabels_iff :
    f.Bars ds node .includeLabels ↔ f.includes.pairs.all ds.labelSet.holds = false := by
  simp [Bars, ← DaemonSet.holds_labelSet_iff]

theorem bars_notHostNetwork_iff :
    f.Bars ds node .notHostNetwork ↔ (f.hostNetworkOnly && !ds.usesHostNetwork) = true := by
  simp [Bars, ← DaemonSet.usesHostNetwork_iff]

theorem bars_nodeSelector_iff :
    f.Bars ds node .nodeSelector ↔ ds.selector.pairs.all node.holds = false := by
  simp [Bars, ← DaemonSet.mem_selector_iff, ← Labels.holds_iff_mem node]

instance : DecidablePred (f.Bars ds node)
  | .excludeLabels => decidable_of_iff' _ bars_excludeLabels_iff
  | .includeLabels => decidable_of_iff' _ bars_includeLabels_iff
  | .notHostNetwork => decidable_of_iff' _ bars_notHostNetwork_iff
  | .nodeSelector => decidable_of_iff' _ bars_nodeSelector_iff

/-! ## The first reason -/

/-- The first reason, with some test for whether a set of labels holds all of another. -/
def skipBy (holdsAll : Labels → Labels → Bool) (f : DaemonSetFilter) (ds : DaemonSet) (node : Labels) :
    Option SkipReason :=
  if !f.excludes.isEmpty && ds.labelSet.holdsAny f.excludes then some .excludeLabels
  else if !f.includes.isEmpty && !holdsAll ds.labelSet f.includes then some .includeLabels
  else if f.hostNetworkOnly && !ds.usesHostNetwork then some .notHostNetwork
  else if !(ds.selector.isEmpty || holdsAll node ds.selector) then some .nodeSelector
  else none

theorem skip?_eq_skipBy : f.skip? ds node = f.skipBy Labels.holdsAll ds node := rfl

/-- **The first reason that bars the DaemonSet** is what the filter gives, by any test that is right for sets
that are not empty. -/
theorem skipBy_eq_find? {holdsAll : Labels → Labels → Bool}
    (right : ∀ l wanted : Labels, wanted.isEmpty = false → holdsAll l wanted = wanted.pairs.all l.holds) :
    f.skipBy holdsAll ds node = SkipReason.inOrder.find? (f.Bars ds node ·) := by
  have guarded : ∀ l wanted : Labels,
      (wanted.isEmpty || holdsAll l wanted) = wanted.pairs.all l.holds := by
    intro l wanted
    cases empty : wanted.isEmpty with
    | true => simp [List.isEmpty_iff.mp empty]
    | false => simp [right l wanted empty]
  have excludes : (!f.excludes.isEmpty && ds.labelSet.holdsAny f.excludes) =
      decide (f.Bars ds node .excludeLabels) := by
    rw [Bool.eq_iff_iff, decide_eq_true_iff, bars_excludeLabels_iff]
    cases empty : f.excludes.isEmpty with
    | true => simp [Labels.holdsAny, List.isEmpty_iff.mp empty]
    | false => simp
  have includes : (!f.includes.isEmpty && !holdsAll ds.labelSet f.includes) =
      decide (f.Bars ds node .includeLabels) := by
    rw [← Bool.not_or, guarded, Bool.eq_iff_iff, decide_eq_true_iff, bars_includeLabels_iff,
      Bool.not_eq_true']
  have network : (f.hostNetworkOnly && !ds.usesHostNetwork) =
      decide (f.Bars ds node .notHostNetwork) := by
    rw [Bool.eq_iff_iff, decide_eq_true_iff, bars_notHostNetwork_iff]
  have selector : (!(ds.selector.isEmpty || holdsAll node ds.selector)) =
      decide (f.Bars ds node .nodeSelector) := by
    rw [guarded, Bool.eq_iff_iff, decide_eq_true_iff, bars_nodeSelector_iff, Bool.not_eq_true']
  rw [skipBy, excludes, includes, network, selector]
  simp only [SkipReason.inOrder, List.find?_cons, List.find?_nil]
  cases decide (f.Bars ds node .excludeLabels) <;> cases decide (f.Bars ds node .includeLabels) <;>
    cases decide (f.Bars ds node .notHostNetwork) <;> cases decide (f.Bars ds node .nodeSelector) <;> rfl

theorem skip?_eq_find? : f.skip? ds node = SkipReason.inOrder.find? (f.Bars ds node ·) := by
  rw [skip?_eq_skipBy]
  exact skipBy_eq_find? fun _ _ nonempty => Labels.holdsAll_eq nonempty

/-- A filter gives a reason exactly if it bars the DaemonSet and none before it does. -/
theorem skip?_eq_some_iff : f.skip? ds node = some reason ↔
    f.Bars ds node reason ∧ ∀ earlier ∈ reason.before, ¬ f.Bars ds node earlier := by
  rw [skip?_eq_find?, find?_eq_some_iff_takeWhile (SkipReason.mem_inOrder reason), SkipReason.before]
  simp

/-- A filter gives no reason exactly if none bars the DaemonSet. -/
theorem skip?_eq_none_iff : f.skip? ds node = none ↔ ∀ reason, ¬ f.Bars ds node reason := by
  rw [skip?_eq_find?, List.find?_eq_none]
  constructor
  · intro free reason
    simpa using free reason reason.mem_inOrder
  · intro free reason _
    simpa using free reason

/-- **A filter means plain inclusion and disjointness.**

* A DaemonSet counts for a node if and only if it carries no label to exclude and every label to include,
  uses the host network if that is asked for, and selects only labels of the node.
* Otherwise the reason is the first one that bars it, in the order labels to exclude, labels to include,
  host network, selector.
* Asking for all labels is refused where either side is empty, but no decision rests on it: any test that
  is right for sets of wanted labels that are not empty leads to the same reason, or to none. -/
theorem counts_by_inclusion (f : DaemonSetFilter) (ds : DaemonSet) (node : Labels) :
    (f.applies node ds = true ↔
      (∀ pair ∈ f.excludes.pairs, ¬ ds.Carries pair) ∧ (∀ pair ∈ f.includes.pairs, ds.Carries pair) ∧
        (f.hostNetworkOnly = true → ds.OnHostNetwork) ∧ ∀ pair, ds.Selects pair → pair ∈ node.pairs) ∧
    (f.applies node ds = true ↔ f.skip? ds node = none) ∧
    (∀ reason, f.skip? ds node = some reason ↔
      f.Bars ds node reason ∧ ∀ earlier ∈ reason.before, ¬ f.Bars ds node earlier) ∧
    (∀ l wanted : Labels, l.isEmpty = true ∨ wanted.isEmpty = true → l.holdsAll wanted = false) ∧
    ∀ holdsAll : Labels → Labels → Bool,
      (∀ l wanted : Labels, wanted.isEmpty = false → holdsAll l wanted = wanted.pairs.all l.holds) →
      f.skipBy holdsAll ds node = f.skip? ds node := by
  have counts : f.applies node ds = true ↔ f.skip? ds node = none := Option.isNone_iff_eq_none
  refine ⟨?_, counts, fun reason => skip?_eq_some_iff, ?_, ?_⟩
  · rw [counts, skip?_eq_none_iff]
    constructor
    · intro free
      refine ⟨fun pair wanted carried => free .excludeLabels ⟨pair, wanted, carried⟩, ?_, ?_, ?_⟩
      · intro pair wanted
        by_contra missing
        exact free .includeLabels ⟨pair, wanted, missing⟩
      · intro asked
        by_contra missing
        exact free .notHostNetwork ⟨asked, missing⟩
      · intro pair selected
        by_contra missing
        exact free .nodeSelector ⟨pair, selected, missing⟩
    · rintro ⟨disjoint, included, network, selected⟩ reason bars
      cases reason with
      | excludeLabels =>
          obtain ⟨pair, wanted, carried⟩ := bars
          exact disjoint pair wanted carried
      | includeLabels =>
          obtain ⟨pair, wanted, missing⟩ := bars
          exact missing (included pair wanted)
      | notHostNetwork => exact bars.2 (network bars.1)
      | nodeSelector =>
          obtain ⟨pair, selects, missing⟩ := bars
          exact missing (selected pair selects)
  · rintro l wanted (empty | empty) <;> simp [Labels.holdsAll, empty]
  · intro holdsAll right
    rw [skipBy_eq_find? right, skip?_eq_find?]

end DaemonSetFilter

end StartupGate

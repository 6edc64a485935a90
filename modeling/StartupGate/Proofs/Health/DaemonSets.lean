/-
# StartupGate.Proofs.Health.DaemonSets -- the check of the DaemonSets, item by item

A run drops the DaemonSets that do not count, then those that are rolled out, stops early if none is
left, and asks for the pods of the rest together.  What it finds can be said of each DaemonSet
alone: one that counts has to be available to the node (`DaemonSetCheck.Available`).

* `DaemonSetCheck.healthy_iff`: the verdict is that of the single DaemonSets, and no failed read
  passes but one of pods that were not needed.
* `DaemonSetCheck.run_congr`: only which DaemonSets are listed and count matters, not their order nor
  how often they are listed.
* `DaemonSetCheck.run_reads`: the pods are read once, and only for a DaemonSet that is not rolled out.
-/
import StartupGate.Health.DaemonSetCheck

set_option autoImplicit false

namespace StartupGate.DaemonSetCheck

open Cluster

variable {ε : Type} {c : DaemonSetCheck} {sets : Except ε (List DaemonSet)}
  {pods : Except ε (List Pod)} {listed : List DaemonSet} {ds : DaemonSet}

/-- A DaemonSet counts for the node of the check. -/
def Counts (c : DaemonSetCheck) (ds : DaemonSet) : Prop := c.filter.applies c.nodeLabels ds = true

/-- A DaemonSet is available to a node: it is rolled out everywhere, or the pods of the node could be
read and it has a ready one among them. -/
def Available (pods : Except ε (List Pod)) (ds : DaemonSet) : Prop :=
  ds.isRolledOut = true ∨ ∃ found, pods = .ok found ∧ ds.hasReadyPod found = true

/-- Some DaemonSet that counts is listed and not rolled out. -/
def NeedsPods (c : DaemonSetCheck) (sets : Except ε (List DaemonSet)) : Prop :=
  ∃ listed, sets = .ok listed ∧ ∃ ds ∈ listed, c.Counts ds ∧ ds.isRolledOut = false

/-! ## The DaemonSets that are left -/

theorem mem_pending : ds ∈ c.pending listed ↔ ds ∈ listed ∧ c.Counts ds ∧ ds.isRolledOut = false := by
  simp only [pending, List.mem_filter, Bool.not_eq_true', Counts, and_assoc]

theorem pending_eq_nil_iff :
    c.pending listed = [] ↔ ∀ ds ∈ listed, c.Counts ds → ds.isRolledOut = true := by
  simp only [List.eq_nil_iff_forall_not_mem, mem_pending, not_and, Bool.not_eq_false]

theorem needsPods_ok_iff :
    c.NeedsPods (.ok listed : Except ε (List DaemonSet)) ↔ c.pending listed ≠ [] := by
  rw [Ne, pending_eq_nil_iff]
  constructor
  · rintro ⟨_, ⟨⟩, ds, member, counts, notYet⟩ all
    exact absurd (all ds member counts) (by rw [notYet]; exact Bool.false_ne_true)
  · intro notAll
    simp only [Classical.not_forall, Bool.not_eq_true] at notAll
    obtain ⟨ds, member, counts, notYet⟩ := notAll
    exact ⟨listed, rfl, ds, member, counts, notYet⟩

/-! ## One run -/

/-- Where nothing is left, the run passes after the first read. -/
theorem run_of_settled (settled : c.pending listed = []) :
    c.run (.ok listed) pods = ⟨true, [.daemonSets c.namespaceName]⟩ := by
  simp only [run, settled, List.isEmpty_nil, if_true]

/-- Where something is left, the pods decide. -/
theorem run_of_pending (left : c.pending listed ≠ []) :
    c.run (.ok listed) pods =
      ⟨match pods with
        | .error _ => false
        | .ok found => (c.pending listed).all (·.hasReadyPod found),
        [.daemonSets c.namespaceName, .nodePods c.nodeName]⟩ := by
  have notEmpty : (c.pending listed).isEmpty = false := by
    rw [← Bool.not_eq_true, List.isEmpty_iff]
    exact left
  simp only [run, notEmpty, if_false, Bool.false_eq_true]
  cases pods <;> rfl

/-- **The verdict is that of the single DaemonSets.** -/
theorem healthy_iff : (c.run sets pods).healthy = true ↔
    ∃ listed, sets = .ok listed ∧ ∀ ds ∈ listed, c.Counts ds → Available pods ds := by
  cases sets with
  | error e => simp [run]
  | ok listed =>
      simp only [Except.ok.injEq, exists_eq_left']
      by_cases settled : c.pending listed = []
      · rw [run_of_settled settled]
        exact iff_of_true rfl fun ds member counts =>
          .inl (pending_eq_nil_iff.mp settled ds member counts)
      · rw [run_of_pending settled]
        cases pods with
        | error e =>
            simp only [Bool.false_eq_true, false_iff]
            intro all
            refine settled (pending_eq_nil_iff.mpr fun ds member counts => ?_)
            rcases all ds member counts with done | ⟨_, unread, _⟩
            · exact done
            · cases unread
        | ok found =>
            simp only [List.all_eq_true, mem_pending, Available, Except.ok.injEq, exists_eq_left']
            constructor
            · intro ready ds member counts
              cases done : ds.isRolledOut with
              | true => exact .inl rfl
              | false => exact .inr (ready ds ⟨member, counts, done⟩)
            · rintro all ds ⟨member, counts, notYet⟩
              rcases all ds member counts with done | ready
              · exact absurd (notYet.symm.trans done) Bool.false_ne_true
              · exact ready

/-- **The reads of a run**, and that it does not look at pods which it does not read. -/
theorem run_reads (c : DaemonSetCheck) (sets : Except ε (List DaemonSet))
    (pods : Except ε (List Pod)) :
    (c.NeedsPods sets →
      (c.run sets pods).reads = [.daemonSets c.namespaceName, .nodePods c.nodeName]) ∧
    (¬ c.NeedsPods sets → (c.run sets pods).reads = [.daemonSets c.namespaceName] ∧
      ∀ others, c.run sets others = c.run sets pods) := by
  cases sets with
  | error e =>
      refine ⟨?_, fun _ => ⟨rfl, fun _ => rfl⟩⟩
      rintro ⟨_, unread, _⟩
      cases unread
  | ok listed =>
      rw [needsPods_ok_iff]
      refine ⟨fun left => by rw [run_of_pending left], fun none_left => ?_⟩
      have settled : c.pending listed = [] := Classical.not_not.mp none_left
      refine ⟨by rw [run_of_settled settled], fun others => ?_⟩
      rw [run_of_settled settled, run_of_settled settled]

/-- **Which DaemonSets are listed and count decides**, and not their order nor how often each is
listed. -/
theorem run_congr {listed others : List DaemonSet} (pods : Except ε (List Pod))
    (same : ∀ ds, c.Counts ds → (ds ∈ listed ↔ ds ∈ others)) :
    c.run (.ok listed) pods = c.run (.ok others) pods := by
  have left : ∀ ds, ds ∈ c.pending listed ↔ ds ∈ c.pending others := by
    intro ds
    rw [mem_pending, mem_pending]
    exact and_congr_left fun pending => same ds pending.1
  by_cases settled : c.pending listed = []
  · have settled' : c.pending others = [] := by
      simp only [List.eq_nil_iff_forall_not_mem, ← left]
      exact List.eq_nil_iff_forall_not_mem.mp settled
    rw [run_of_settled settled, run_of_settled settled']
  · have pending : c.pending others ≠ [] := by
      obtain ⟨ds, member⟩ := List.exists_mem_of_ne_nil _ settled
      exact List.ne_nil_of_mem ((left ds).mp member)
    rw [run_of_pending settled, run_of_pending pending]
    cases pods with
    | error e => rfl
    | ok found =>
        have ready : (c.pending listed).all (·.hasReadyPod found) =
            (c.pending others).all (·.hasReadyPod found) := by
          rw [Bool.eq_iff_iff, List.all_eq_true, List.all_eq_true]
          simp only [left]
        simp only [ready]

/-- **The check of the DaemonSets is the check of each of them, and fails closed.**  A run passes if and
only if the DaemonSets could be listed and every one that counts is rolled out or has a ready pod
among pods that could be read.  So

* the whole finding depends only on which DaemonSets are listed and count, whatever their order, how
  often they are listed and what else is listed;
* listing more of them never makes a failing run pass;
* the pods are read once if some DaemonSet that counts is not rolled out, and otherwise not at all and
  their answer does not matter;
* a run with a failed read fails, unless it is one of pods that were not needed. -/
theorem run_item_by_item (c : DaemonSetCheck) (sets : Except ε (List DaemonSet))
    (pods : Except ε (List Pod)) :
    ((c.run sets pods).healthy = true ↔
      ∃ listed, sets = .ok listed ∧ ∀ ds ∈ listed, c.Counts ds → Available pods ds) ∧
    (∀ listed others : List DaemonSet, (∀ ds, c.Counts ds → (ds ∈ listed ↔ ds ∈ others)) →
      c.run (.ok listed) pods = c.run (.ok others) pods) ∧
    (∀ listed more : List DaemonSet, (∀ ds, c.Counts ds → ds ∈ listed → ds ∈ more) →
      (c.run (.ok more) pods).healthy = true → (c.run (.ok listed) pods).healthy = true) ∧
    (c.NeedsPods sets →
      (c.run sets pods).reads = [.daemonSets c.namespaceName, .nodePods c.nodeName]) ∧
    (¬ c.NeedsPods sets → (c.run sets pods).reads = [.daemonSets c.namespaceName] ∧
      ∀ unread, c.run sets unread = c.run sets pods) ∧
    (∀ e, sets = .error e → (c.run sets pods).healthy = false) ∧
    ∀ e, pods = .error e → c.NeedsPods sets → (c.run sets pods).healthy = false := by
  obtain ⟨reads, unread⟩ := c.run_reads sets pods
  refine ⟨healthy_iff, fun listed others => run_congr pods, ?_, reads, unread, ?_, ?_⟩
  · intro listed more within passes
    obtain ⟨_, ⟨⟩, all⟩ := healthy_iff.mp passes
    exact healthy_iff.mpr ⟨listed, rfl, fun ds member counts =>
      all ds (within ds counts member) counts⟩
  · rintro e rfl
    rfl
  · rintro e rfl ⟨listed, rfl, ds, member, counts, notYet⟩
    rw [← Bool.not_eq_true, healthy_iff]
    rintro ⟨_, ⟨⟩, all⟩
    rcases all ds member counts with done | ⟨_, found, _⟩
    · exact absurd (notYet.symm.trans done) Bool.false_ne_true
    · cases found

end StartupGate.DaemonSetCheck

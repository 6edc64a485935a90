/-
# StartupGate.Proofs.Health.NodeLoadCheck -- the check of the load never divides by nothing

A check is made of a node only if the node's capacity can be read and is not zero
(`NodeLoadCheck.new_eq_ok_iff`), so every check has something to compare the usage with.  It passes
exactly if the usage could be read and is within the threshold (`NodeLoadCheck.healthy_iff`).

* `NodeLoadCheck.decides_soundly`: over all 64-bit amounts, a load up to the threshold is within it and
  one from the next percent on is not; and what a check of a node answers is this decision.
-/
import StartupGate.Health.NodeLoadCheck
import StartupGate.Proofs.NodeLoad.Percent

set_option autoImplicit false

namespace StartupGate

open Cluster

/-! ## Capacity -/

theorem CpuQuantity.millis_le {raw : String} {millis : Nat} (read : CpuQuantity.millis raw = .ok millis) :
    millis ≤ Integer.maxUnsigned64 := by
  unfold CpuQuantity.millis at read
  split at read
  · cases read
  · next m _ =>
    split at read
    · cases read
    · cases read
      exact Binary64.toNatSaturating_le _ _

/-- A node has a capacity if it states one that is not zero. -/
theorem Cluster.Node.capacity_eq_ok_iff {node : Node} {millis : Nat} : node.capacity = .ok millis ↔
    0 < millis ∧ ∃ q, node.cpuCapacity = some q ∧ CpuQuantity.millis q = .ok millis := by
  unfold Node.capacity
  constructor
  · intro read
    split at read
    · cases read
    · next q stated =>
      split at read
      · cases read
      · cases read
      · next positive amount =>
        cases read
        exact ⟨Nat.pos_of_ne_zero fun zero => positive zero, q, stated, amount⟩
  · rintro ⟨positive, q, stated, amount⟩
    rw [stated]
    simp only [amount]
    cases millis with
    | zero => exact absurd positive (Nat.lt_irrefl 0)
    | succ n => rfl

namespace NodeLoadCheck

variable {ε : Type} {nodeName : String} {node : Node} {threshold : Nat} {check : NodeLoadCheck}
  {usage : Except ε Nat}

theorem new_eq_ok_iff : new nodeName node threshold = .ok check ↔
    node.capacity = .ok check.capacity ∧ check.nodeName = nodeName ∧ check.threshold = threshold := by
  unfold new
  cases node.capacity with
  | error cause => simp
  | ok capacity =>
      obtain ⟨name, c, t⟩ := check
      simp only [Except.ok.injEq, NodeLoadCheck.mk.injEq]
      constructor
      · rintro ⟨rfl, rfl, rfl⟩
        exact ⟨rfl, rfl, rfl⟩
      · rintro ⟨rfl, rfl, rfl⟩
        exact ⟨rfl, rfl, rfl⟩

/-- **Only a usage that was read passes**, and only within the threshold. -/
theorem healthy_iff : (check.run usage).healthy = true ↔
    ∃ used, usage = .ok used ∧ NodeLoad.within used check.capacity check.threshold = true := by
  cases usage with
  | error cause => simp [run]
  | ok used => simp [run]

/-- **The decision is sound for all amounts of 64 bits, and a check of a node decides so.** -/
theorem decides_soundly :
    (∀ used capacity threshold : Nat,
      used < 2 ^ 64 → 1 ≤ capacity → capacity < 2 ^ 64 → threshold < 256 →
        (100 * used ≤ threshold * capacity → NodeLoad.within used capacity threshold = true) ∧
        ((threshold + 1) * capacity ≤ 100 * used → NodeLoad.within used capacity threshold = false)) ∧
      ∀ (nodeName : String) (node : Node) (threshold : Nat) (check : NodeLoadCheck),
        new nodeName node threshold = .ok check →
          1 ≤ check.capacity ∧ check.capacity < 2 ^ 64 ∧ check.threshold = threshold ∧
          ∀ (ε : Type) (usage : Except ε Nat), (check.run usage).healthy = true ↔
            ∃ used, usage = .ok used ∧ NodeLoad.within used check.capacity threshold = true := by
  refine ⟨fun used capacity threshold word positive word' byte => ?_,
    fun nodeName node threshold check made => ?_⟩
  · exact ⟨NodeLoad.within_eq_true word positive word' byte,
      NodeLoad.within_eq_false word positive word' byte⟩
  · obtain ⟨capacity, -, rfl⟩ := new_eq_ok_iff.mp made
    obtain ⟨positive, q, -, amount⟩ := Node.capacity_eq_ok_iff.mp capacity
    have most : Integer.maxUnsigned64 < 2 ^ 64 := by decide
    exact ⟨positive, Nat.lt_of_le_of_lt (CpuQuantity.millis_le amount) most, rfl,
      fun ε usage => healthy_iff⟩

/-- A node with one CPU, of which four fifths may be used: 800 milli-CPU pass and 810 do not. -/
theorem decides_soundly_one_cpu :
    new "worker-1" ⟨some "worker-1", none, some "1"⟩ 80 = .ok ⟨"worker-1", 1000, 80⟩ ∧
      (run ⟨"worker-1", 1000, 80⟩ (.ok 800 : Except Unit Nat)).healthy = true ∧
      NodeLoad.within 810 1000 80 = false := by
  have made : new "worker-1" ⟨some "worker-1", none, some "1"⟩ 80 = .ok ⟨"worker-1", 1000, 80⟩ := by
    have value : (new "worker-1" ⟨some "worker-1", none, some "1"⟩ 80).toOption =
        some ⟨"worker-1", 1000, 80⟩ := by
      decide +kernel
    cases result : new "worker-1" ⟨some "worker-1", none, some "1"⟩ 80 with
    | error cause =>
        rw [result] at value
        cases value
    | ok check =>
        rw [result] at value
        cases value
        rfl
  obtain ⟨sound, checks⟩ := decides_soundly
  obtain ⟨-, -, -, verdict⟩ := checks _ _ _ _ made
  refine ⟨made, ?_, ?_⟩
  · rw [verdict]
    exact ⟨800, rfl, (sound 800 1000 80 (by norm_num) (by norm_num) (by norm_num) (by norm_num)).1
      (by norm_num)⟩
  · exact (sound 810 1000 80 (by norm_num) (by norm_num) (by norm_num) (by norm_num)).2 (by norm_num)

end NodeLoadCheck

end StartupGate

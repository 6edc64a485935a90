/-
# StartupGate.Proofs.Health.ReadyPods -- which pods of a DaemonSet are looked at

The search for a ready pod stops at the first pod of the DaemonSet, ready or not.  So it finds no ready
pod where there is none, but it may miss one: a pod that was left over, and is listed earlier, hides
it (`DaemonSet.Hides`).

* `hasReadyPod_iff`: the answer is that of the first pod of the DaemonSet.
* `hasReadyPod_exact_iff`: it is the answer of all pods exactly if none hides another.
* `hasReadyPod_perm_iff`: it does not depend on the order of the pods exactly if those of the DaemonSet
  are alike, all of them ready or none.
-/
import StartupGate.Health.DaemonSetCheck

set_option autoImplicit false

namespace StartupGate.Cluster

variable {ds : DaemonSet} {pod : Pod} {pods : List Pod}

/-! ## One pod -/

/-- One of the owners of the pod has the uid of the DaemonSet. -/
def Pod.BelongsTo (pod : Pod) (ds : DaemonSet) : Prop := ∃ uid, ds.uid = some uid ∧ uid ∈ pod.owners

/-- The pod is in the phase `Running`, and a condition `Ready` has the status `True`. -/
def Pod.Ready (pod : Pod) : Prop :=
  ∃ status, pod.status = some status ∧ status.phase = some "Running" ∧
    ∃ c ∈ status.conditions, c.kind = "Ready" ∧ c.status = "True"

theorem Pod.isOwnedBy_iff : pod.isOwnedBy ds = true ↔ pod.BelongsTo ds := by
  unfold isOwnedBy BelongsTo
  cases ds.uid <;> simp

theorem Pod.isReady_iff : pod.isReady = true ↔ pod.Ready := by
  unfold isReady Ready
  cases pod.status <;> simp [Condition.isReady]

namespace DaemonSet

/-- The DaemonSet has a ready pod in a listing, wherever it stands. -/
def HasReady (ds : DaemonSet) (pods : List Pod) : Prop := ∃ pod ∈ pods, pod.BelongsTo ds ∧ pod.Ready

/-- A pod that is not ready is the first of the DaemonSet's pods in a listing, and a later one is ready. -/
def Hides (ds : DaemonSet) (pods : List Pod) : Prop :=
  ∃ before pod after, pods = before ++ pod :: after ∧ (∀ p ∈ before, ¬ p.BelongsTo ds) ∧
    pod.BelongsTo ds ∧ ¬ pod.Ready ∧ ds.HasReady after

/-! ## The first pod -/

/-- The search stops at a pod of the DaemonSet that no other stands before. -/
theorem find?_iff : pods.find? (·.isOwnedBy ds) = some pod ↔
    ∃ before after, pods = before ++ pod :: after ∧ (∀ p ∈ before, ¬ p.BelongsTo ds) ∧
      pod.BelongsTo ds := by
  simp only [List.find?_eq_some_iff_append, Bool.not_eq_eq_eq_not, Bool.not_true,
    ← Bool.not_eq_true, Pod.isOwnedBy_iff]
  constructor
  · rintro ⟨own, before, after, rfl, others⟩
    exact ⟨before, after, rfl, others, own⟩
  · rintro ⟨before, after, rfl, others, own⟩
    exact ⟨own, before, after, rfl, others⟩

/-- Where a pod of the DaemonSet stands before all others, it decides. -/
theorem hasReadyPod_of_find? (first : pods.find? (·.isOwnedBy ds) = some pod) :
    ds.hasReadyPod pods = true ↔ pod.Ready := by
  rw [hasReadyPod, first]
  exact Pod.isReady_iff

/-- **The answer is that of the first pod of the DaemonSet.** -/
theorem hasReadyPod_iff : ds.hasReadyPod pods = true ↔
    ∃ before pod after, pods = before ++ pod :: after ∧ (∀ p ∈ before, ¬ p.BelongsTo ds) ∧
      pod.BelongsTo ds ∧ pod.Ready := by
  constructor
  · intro found
    cases first : pods.find? (·.isOwnedBy ds) with
    | none => simp [hasReadyPod, first] at found
    | some pod =>
        obtain ⟨before, after, split, others, own⟩ := find?_iff.mp first
        exact ⟨before, pod, after, split, others, own, (hasReadyPod_of_find? first).mp found⟩
  · rintro ⟨before, pod, after, split, others, own, ready⟩
    have first := find?_iff.mpr ⟨before, after, split, others, own⟩
    exact (hasReadyPod_of_find? first).mpr ready

/-- A ready pod that is found is there. -/
theorem hasReady_of_hasReadyPod (found : ds.hasReadyPod pods = true) : ds.HasReady pods := by
  obtain ⟨before, pod, after, rfl, -, own, ready⟩ := hasReadyPod_iff.mp found
  exact ⟨pod, by simp, own, ready⟩

/-- Where the first pod of the DaemonSet is not ready, none is found. -/
theorem hasReadyPod_of_notReady {before after : List Pod} (others : ∀ p ∈ before, ¬ p.BelongsTo ds)
    (own : pod.BelongsTo ds) (notReady : ¬ pod.Ready) :
    ds.hasReadyPod (before ++ pod :: after) = false := by
  have first := find?_iff.mpr ⟨before, after, rfl, others, own⟩
  rw [← Bool.not_eq_true, hasReadyPod_of_find? first]
  exact notReady

/-- A ready pod that is missed is hidden by the first pod of the DaemonSet. -/
theorem hides_of_missed (ready : ds.HasReady pods) (missed : ds.hasReadyPod pods = false) :
    ds.Hides pods := by
  obtain ⟨q, member, ownQ, readyQ⟩ := ready
  cases first : pods.find? (·.isOwnedBy ds) with
  | none =>
      have notOwn := List.find?_eq_none.mp first q member
      exact absurd (Pod.isOwnedBy_iff.mpr ownQ) notOwn
  | some pod =>
      have notReady : ¬ pod.Ready := by
        rw [← hasReadyPod_of_find? first, missed]
        exact Bool.false_ne_true
      obtain ⟨before, after, rfl, others, own⟩ := find?_iff.mp first
      refine ⟨before, pod, after, rfl, others, own, notReady, q, ?_, ownQ, readyQ⟩
      simp only [List.mem_append, List.mem_cons] at member
      rcases member with early | rfl | late
      · exact absurd ownQ (others q early)
      · exact absurd readyQ notReady
      · exact late

/-- **The answer is that of all pods exactly if none hides another.** -/
theorem hasReadyPod_exact_iff :
    (ds.hasReadyPod pods = true ↔ ds.HasReady pods) ↔ ¬ ds.Hides pods := by
  constructor
  · rintro answers ⟨before, pod, after, rfl, others, own, notReady, q, member, ownQ, readyQ⟩
    have found := answers.mpr ⟨q, by simp [member], ownQ, readyQ⟩
    rw [hasReadyPod_of_notReady others own notReady] at found
    cases found
  · intro none_hidden
    refine ⟨hasReady_of_hasReadyPod, fun ready => ?_⟩
    cases found : ds.hasReadyPod pods with
    | true => rfl
    | false => exact absurd (hides_of_missed ready found) none_hidden

/-! ## The order of the pods -/

/-- Where all pods of the DaemonSet are alike, none hides another. -/
theorem not_hides_of_alike
    (alike : (∀ pod ∈ pods, pod.BelongsTo ds → pod.Ready) ∨
      ∀ pod ∈ pods, pod.BelongsTo ds → ¬ pod.Ready) : ¬ ds.Hides pods := by
  rintro ⟨before, pod, after, rfl, -, own, notReady, q, member, belongs, ready⟩
  rcases alike with all | none
  · exact notReady (all pod (by simp) own)
  · exact none q (by simp [member]) belongs ready

/-- **The answer does not depend on the order of the pods exactly if those of the DaemonSet are alike.** -/
theorem hasReadyPod_perm_iff :
    (∀ others : List Pod, others.Perm pods → ds.hasReadyPod others = ds.hasReadyPod pods) ↔
      (∀ pod ∈ pods, pod.BelongsTo ds → pod.Ready) ∨
        ∀ pod ∈ pods, pod.BelongsTo ds → ¬ pod.Ready := by
  constructor
  · intro same
    by_cases all : ∀ pod ∈ pods, pod.BelongsTo ds → pod.Ready
    · exact .inl all
    · simp only [Classical.not_forall] at all
      obtain ⟨p, memberP, ownP, notReady⟩ := all
      refine .inr fun q memberQ ownQ ready => ?_
      -- either pod can be listed first, and the answers differ
      have missed : ds.hasReadyPod ([] ++ p :: pods.erase p) = false :=
        hasReadyPod_of_notReady (by simp) ownP notReady
      have found : ds.hasReadyPod (q :: pods.erase q) = true :=
        hasReadyPod_iff.mpr ⟨[], q, pods.erase q, rfl, by simp, ownQ, ready⟩
      rw [List.nil_append, same _ (List.perm_cons_erase memberP).symm,
        ← same _ (List.perm_cons_erase memberQ).symm, found] at missed
      cases missed
  · intro alike others perm
    have answers : ds.hasReadyPod pods = true ↔ ds.HasReady pods :=
      hasReadyPod_exact_iff.mpr (not_hides_of_alike alike)
    simp only [← perm.mem_iff] at alike
    have answers' : ds.hasReadyPod others = true ↔ ds.HasReady others :=
      hasReadyPod_exact_iff.mpr (not_hides_of_alike alike)
    rw [Bool.eq_iff_iff, answers, answers']
    simp only [HasReady, perm.mem_iff]

/-- **A ready pod counts unless an earlier pod of the DaemonSet hides it.**  For every DaemonSet and every
listing of pods:

* The answer is that of the first pod of the DaemonSet in the listing, so a ready pod that is found is
  there.
* It is the answer of all pods, that some pod of the DaemonSet is ready, if and only if the first pod of
  the DaemonSet is ready or no later one is.
* It is the same for every order of the pods if and only if those of the DaemonSet are all ready or none
  of them is. -/
theorem ready_pod_unless_hidden (ds : DaemonSet) (pods : List Pod) :
    (ds.hasReadyPod pods = true ↔
      ∃ before pod after, pods = before ++ pod :: after ∧ (∀ p ∈ before, ¬ p.BelongsTo ds) ∧
        pod.BelongsTo ds ∧ pod.Ready) ∧
    (ds.hasReadyPod pods = true → ∃ pod ∈ pods, pod.BelongsTo ds ∧ pod.Ready) ∧
    ((ds.hasReadyPod pods = true ↔ ∃ pod ∈ pods, pod.BelongsTo ds ∧ pod.Ready) ↔
      ¬ ds.Hides pods) ∧
    ((∀ others : List Pod, others.Perm pods → ds.hasReadyPod others = ds.hasReadyPod pods) ↔
      (∀ pod ∈ pods, pod.BelongsTo ds → pod.Ready) ∨
        ∀ pod ∈ pods, pod.BelongsTo ds → ¬ pod.Ready) :=
  ⟨hasReadyPod_iff, hasReady_of_hasReadyPod, hasReadyPod_exact_iff, hasReadyPod_perm_iff⟩

/-- A failed pod that was left over hides the ready one behind it, and the check of the node fails; in the
other order of the two pods it passes. -/
theorem leftover_pod_hides_ready :
    let ds : DaemonSet := ⟨some "agent", some "kube-system", some "u", none, none, some ⟨3, 2⟩⟩
    let failed : Pod := ⟨some "agent-old", some "kube-system", ["u"], some ⟨some "Failed", []⟩⟩
    let running : Pod :=
      ⟨some "agent-new", some "kube-system", ["u"], some ⟨some "Running", [⟨"Ready", "True"⟩]⟩⟩
    let check : DaemonSetCheck := ⟨⟨.empty, .empty, false⟩, none, "worker-1", .empty⟩
    let verdict := fun pods : List Pod => (check.run (ε := Unit) (.ok [ds]) (.ok pods)).healthy
    (∃ pod ∈ [failed, running], pod.BelongsTo ds ∧ pod.Ready) ∧
      ds.hasReadyPod [failed, running] = false ∧ verdict [failed, running] = false ∧
      ds.hasReadyPod [running, failed] = true ∧ verdict [running, failed] = true := by
  intro ds failed running check verdict
  refine ⟨⟨running, by simp, ⟨"u", rfl, by simp [running]⟩, ?_⟩, by decide, by decide, by decide,
    by decide⟩
  exact ⟨_, rfl, rfl, ⟨"Ready", "True"⟩, by simp, rfl, rfl⟩

end DaemonSet

end StartupGate.Cluster

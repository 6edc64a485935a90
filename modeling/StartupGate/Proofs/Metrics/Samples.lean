/-
# StartupGate.Proofs.Metrics.Samples -- reading a sample after a change

Samples are kept in the order of their label values (`Samples.Ordered`).  Then each
combination of label values stands there once, and a change of one sample is seen in that
sample and in no other (`Samples.get?_update`).  `Metrics.leaseCount` reads the counter of an
outcome; recording an outcome raises its own counter by one (`Metrics.leaseCount_record`).
-/
import StartupGate.Metrics

set_option autoImplicit false

namespace StartupGate

namespace Samples

/-! ## The order of label values -/

theorem keyBefore_cons {a b : String} {as bs : List String} :
    keyBefore (a :: as) (b :: bs) = true ↔ a < b ∨ a = b ∧ keyBefore as bs = true := by
  rw [keyBefore]
  by_cases below : a < b
  · simp [below]
  · by_cases above : b < a
    · have different : a ≠ b := by
        rintro rfl
        exact below above
      simp [below, above, different]
    · have same : a = b := String.le_antisymm above below
      subst same
      simp only [below, if_false, false_or, true_and]

theorem keyBefore_irrefl (as : List String) : keyBefore as as = false := by
  induction as with
  | nil => rfl
  | cons a as ih => simp only [keyBefore, String.lt_irrefl, if_false, ih]

theorem keyBefore_trans {as bs cs : List String} (first : keyBefore as bs = true)
    (second : keyBefore bs cs = true) : keyBefore as cs = true := by
  induction as generalizing bs cs with
  | nil =>
      cases cs with
      | nil => cases bs <;> cases second
      | cons c cs => rfl
  | cons a as ih =>
      cases bs with
      | nil => cases first
      | cons b bs =>
          cases cs with
          | nil => cases second
          | cons c cs =>
              rw [keyBefore_cons] at first second ⊢
              rcases first with below | ⟨rfl, first⟩
              · rcases second with below' | ⟨rfl, -⟩
                · exact .inl (String.lt_trans below below')
                · exact .inl below
              · rcases second with below' | ⟨rfl, second⟩
                · exact .inl below'
                · exact .inr ⟨rfl, ih first second⟩

theorem keyBefore_of_not {as bs : List String} (different : as ≠ bs)
    (notBefore : ¬ keyBefore as bs = true) : keyBefore bs as = true := by
  induction as generalizing bs with
  | nil =>
      cases bs with
      | nil => exact absurd rfl different
      | cons b bs => exact absurd rfl notBefore
  | cons a as ih =>
      cases bs with
      | nil => rfl
      | cons b bs =>
          rw [keyBefore_cons] at notBefore ⊢
          obtain ⟨notBelow, later⟩ := not_or.mp notBefore
          by_cases above : b < a
          · exact .inl above
          · have same : a = b := String.le_antisymm above notBelow
            refine .inr ⟨same.symm, ih (fun tails => different ?_) fun before => later ⟨same, before⟩⟩
            rw [same, tails]

/-! ## Ordered samples -/

/-- Every sample stands before those with later label values. -/
def Ordered (s : Samples) : Prop := s.Pairwise fun a b => keyBefore a.1 b.1 = true

theorem ordered_nil : Ordered [] := List.Pairwise.nil

/-- A changed sample is a new one or has the label values of an old one. -/
theorem key_of_mem_update {key : List String} {f : Nat → Nat} {s : Samples} {x : List String × Nat}
    (member : x ∈ update key f s) : x.1 = key ∨ ∃ y ∈ s, y.1 = x.1 := by
  induction s with
  | nil => exact .inl (congrArg Prod.fst (List.mem_singleton.mp member))
  | cons y rest ih =>
      obtain ⟨k, v⟩ := y
      rw [update] at member
      split at member
      · rename_i same
        rcases List.mem_cons.mp member with rfl | old
        · exact .inl same
        · exact .inr ⟨x, List.mem_cons_of_mem _ old, rfl⟩
      · split at member
        · rcases List.mem_cons.mp member with rfl | old
          · exact .inl rfl
          · exact .inr ⟨x, old, rfl⟩
        · rcases List.mem_cons.mp member with rfl | later
          · exact .inr ⟨(k, v), List.mem_cons_self, rfl⟩
          · rcases ih later with new | ⟨y, old, same⟩
            · exact .inl new
            · exact .inr ⟨y, List.mem_cons_of_mem _ old, same⟩

theorem ordered_update {s : Samples} (ordered : s.Ordered) (key : List String) (f : Nat → Nat) :
    Ordered (update key f s) := by
  induction s with
  | nil => exact List.pairwise_singleton _ _
  | cons y rest ih =>
      obtain ⟨k, v⟩ := y
      obtain ⟨first, others⟩ := List.pairwise_cons.mp ordered
      rw [update]
      split
      · exact List.pairwise_cons.mpr ⟨first, others⟩
      · rename_i different
        split
        · rename_i before
          refine List.pairwise_cons.mpr ⟨fun x member => ?_, ordered⟩
          rcases List.mem_cons.mp member with rfl | later
          · exact before
          · exact keyBefore_trans before (first x later)
        · rename_i notBefore
          refine List.pairwise_cons.mpr ⟨fun x member => ?_, ih others⟩
          rcases key_of_mem_update member with new | ⟨y, old, same⟩
          · rw [new]
            exact keyBefore_of_not (Ne.symm different) notBefore
          · rw [← same]
            exact first y old

/-! ## Reading -/

theorem get?_cons (k key : List String) (v : Nat) (rest : Samples) :
    get? ((k, v) :: rest) key = if key = k then some v else get? rest key := by
  rw [get?, List.lookup_cons]
  by_cases same : key = k
  · rw [if_pos same, same, beq_self_eq_true]
  · have other : (key == k) = false := beq_false_of_ne same
    rw [if_neg same, other]
    rfl

theorem get?_eq_none {key : List String} {s : Samples} (absent : ∀ x ∈ s, x.1 ≠ key) :
    s.get? key = none := by
  induction s with
  | nil => rfl
  | cons y rest ih =>
      obtain ⟨k, v⟩ := y
      have other : key ≠ k := Ne.symm (absent (k, v) List.mem_cons_self)
      rw [get?_cons, if_neg other]
      exact ih fun x member => absent x (List.mem_cons_of_mem _ member)

/-- **A change of one sample is seen there and nowhere else.** -/
theorem get?_update {s : Samples} (ordered : s.Ordered) (key k' : List String) (f : Nat → Nat) :
    (update key f s).get? k' =
      if k' = key then some (f ((s.get? key).getD 0)) else s.get? k' := by
  induction s with
  | nil => exact get?_cons key k' (f 0) []
  | cons y rest ih =>
      obtain ⟨k, v⟩ := y
      obtain ⟨first, others⟩ := List.pairwise_cons.mp ordered
      rw [update]
      split
      · rename_i same
        subst same
        simp only [get?_cons, if_true, Option.getD_some]
        split <;> rfl
      · rename_i different
        split
        · rename_i before
          -- the key comes before all that are there, so it is new
          have absent : get? ((k, v) :: rest) key = none := by
            refine get?_eq_none fun x member same => ?_
            have later : keyBefore key x.1 = true := by
              rcases List.mem_cons.mp member with rfl | later
              · exact before
              · exact keyBefore_trans before (first x later)
            rw [same, keyBefore_irrefl] at later
            cases later
          rw [absent, get?_cons]
          rfl
        · simp only [get?_cons, ih others, Ne.symm different, if_false]
          by_cases here : k' = k
          · have notKey : k' ≠ key := fun same => different (here.symm.trans same)
            simp only [here, if_true]
            rw [if_neg (here ▸ notKey)]
          · simp only [here, if_false]

end Samples

namespace Metrics

/-! ## Counted outcomes -/

/-- How often an outcome of a request for a lease was counted. -/
def leaseCount (m : Metrics) (outcome : LeaseOutcome) : Nat :=
  (m.leaseRequests.get? [outcome.word]).getD 0

theorem word_inj {a b : LeaseOutcome} : [a.word] = [b.word] ↔ a = b := by
  cases a <;> cases b <;> decide

/-- Recording an outcome raises its counter by one and leaves the others. -/
theorem leaseCount_record {m : Metrics} (ordered : m.leaseRequests.Ordered)
    (recorded outcome : LeaseOutcome) :
    (m.recordLease recorded).leaseCount outcome =
      m.leaseCount outcome + if outcome = recorded then 1 else 0 := by
  simp only [leaseCount, recordLease, Samples.get?_update ordered, word_inj]
  by_cases same : outcome = recorded
  · simp only [same, if_true, Option.getD_some]
  · simp only [same, if_false, Nat.add_zero]

end Metrics

end StartupGate

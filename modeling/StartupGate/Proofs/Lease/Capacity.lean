/-
# StartupGate.Proofs.Lease.Capacity -- more room never takes a grant away

Two stores answer the same events at the same instants, one with less room than the other.
The larger one takes leases that the smaller one denies, and these could crowd out what the
smaller one grants later.  They never do: the smaller store keeps a part of what the larger
one keeps, in the same order, and the rest is never more than the room that the larger one
has beyond the smaller (`LeaseStore.Within`).  Grants, denials and sweeps all keep that
relation (`Within.acquire`), so `LeaseSession.run_mono_capacity` follows for every run.
-/
import Mathlib.Data.List.Forall2
import StartupGate.Proofs.Lease.Session

set_option autoImplicit false

namespace StartupGate

namespace LeaseStore

/-- The smaller store keeps a part of what the larger one keeps, and the rest fits into the room that
the larger one has beyond it. -/
structure Within (small large : LeaseStore) : Prop where
  capacity_le : small.capacity ≤ large.capacity
  sublist : small.expiries.Sublist large.expiries
  length_le : large.expiries.length ≤ small.expiries.length + (large.capacity - small.capacity)

theorem within_new {c₁ c₂ : Nat} (order : c₁ ≤ c₂) : (new c₁).Within (new c₂) where
  capacity_le := order
  sublist := List.Sublist.refl []
  length_le := Nat.zero_le _

namespace Within

variable {small large : LeaseStore}

/-- What is left after a sweep at one instant is related as before. -/
theorem sweep (within : small.Within large) (now : Instant) :
    (small.sweep now).Within (large.sweep now) where
  capacity_le := within.capacity_le
  sublist := within.sublist.filter _
  length_le := by
    -- the filter drops at most as many of the surplus as there are
    have dropped := within.sublist.le_countP (isLive now)
    have surplus := within.length_le
    rw [List.countP_eq_length_filter, List.countP_eq_length_filter] at dropped
    simp only [LeaseStore.sweep]
    omega

/-- At every instant the larger store has at least the live leases of the smaller one, and at most
as many more as it has more room. -/
theorem active_between (within : small.Within large) (t : Instant) :
    small.active t ≤ large.active t ∧
      large.active t ≤ small.active t + (large.capacity - small.capacity) :=
  ⟨(within.sweep t).sublist.length_le, (within.sweep t).length_le⟩

/-- **A lease granted with less room is granted with more**, and the relation is kept. -/
theorem acquire (within : small.Within large) (now : Instant) (d : Duration) :
    ((small.acquire now d).1 = true → (large.acquire now d).1 = true) ∧
      (small.acquire now d).2.Within (large.acquire now d).2 := by
  have swept := within.sweep now
  obtain ⟨-, upper⟩ := within.active_between now
  have order := within.capacity_le
  rw [acquire_eq, acquire_eq]
  by_cases room : small.active now < small.capacity
  · -- the surplus cannot fill the larger store while the smaller one has room
    have roomToo : large.active now < large.capacity := by omega
    simp only [room, roomToo, if_true]
    refine ⟨fun _ => trivial, order, swept.sublist.append (List.Sublist.refl _), ?_⟩
    have lengths := swept.length_le
    simp only [List.length_append]
    have capacities : (large.sweep now).capacity - (small.sweep now).capacity =
        large.capacity - small.capacity := rfl
    omega
  · by_cases roomToo : large.active now < large.capacity
    · -- the smaller store is full, so one more lease still fits the surplus
      simp only [room, roomToo, if_true, if_false]
      refine ⟨nofun, order, swept.sublist.trans (List.sublist_append_left _ _), ?_⟩
      rw [active_eq_sweep] at room roomToo
      simp only [List.length_append, List.length_singleton, LeaseStore.sweep] at room roomToo ⊢
      omega
    · simp only [room, roomToo, if_false]
      exact ⟨nofun, swept⟩

end Within

end LeaseStore

namespace LeaseSession

/-- Two sessions show the same instant, and the store of the one is within that of the other. -/
structure Within (small large : LeaseSession) : Prop where
  now_eq : small.now = large.now
  store : small.store.Within large.store

/-- How the answers of a store with less room compare with those of one with `surplus` more. -/
def AnswerWithin (surplus : Nat) (a b : LeaseAnswer) : Prop :=
  (a.granted = some true → b.granted = some true) ∧
    a.active ≤ b.active ∧ b.active ≤ a.active + surplus

theorem capacity_step (s : LeaseSession) (e : LeaseEvent) :
    (s.step e).2.store.capacity = s.store.capacity := by
  cases e with
  | acquire d =>
      simp only [step, LeaseStore.acquire_eq]
      split <;> rfl
  | advance d => rfl
  | look => rfl

/-- One event keeps two sessions related, and their answers are related. -/
theorem within_step {small large : LeaseSession} (within : small.Within large) (e : LeaseEvent) :
    (small.step e).2.Within (large.step e).2 ∧
      ((small.step e).1 = some true → (large.step e).1 = some true) := by
  obtain ⟨sameNow, stores⟩ := within
  cases e with
  | acquire d =>
      obtain ⟨granted, next⟩ := stores.acquire small.now d
      simp only [step, Option.some.injEq]
      rw [← sameNow]
      exact ⟨⟨rfl, next⟩, granted⟩
  | advance d => exact ⟨⟨congrArg (· + d.nanos) sameNow, stores⟩, id⟩
  | look => exact ⟨⟨sameNow, stores⟩, id⟩

theorem within_after {small large : LeaseSession} (within : small.Within large)
    (events : List LeaseEvent) : (small.after events).Within (large.after events) := by
  induction events generalizing small large with
  | nil => exact within
  | cons e events ih => exact ih (within_step within e).1

theorem capacity_after (s : LeaseSession) (events : List LeaseEvent) :
    (s.after events).store.capacity = s.store.capacity := by
  induction events generalizing s with
  | nil => rfl
  | cons e events ih => exact (ih (s.step e).2).trans (capacity_step s e)

/-- Along one run of events, the answers of related sessions are related one by one. -/
theorem within_run {small large : LeaseSession} (within : small.Within large)
    (events : List LeaseEvent) :
    List.Forall₂ (AnswerWithin (large.store.capacity - small.store.capacity))
      (small.run events) (large.run events) := by
  induction events generalizing small large with
  | nil => exact .nil
  | cons e events ih =>
      obtain ⟨next, granted⟩ := within_step within e
      have counts := next.store.active_between (small.step e).2.now
      have rest := ih next
      rw [capacity_step, capacity_step] at counts rest
      rw [run_cons, run_cons]
      refine .cons ⟨granted, ?_⟩ rest
      rw [active, active, ← next.now_eq]
      exact counts

/-- **Raising the capacity never takes a grant away.**  Of two fresh stores that answer the same
events, the one with more room grants whatever the other grants, and counts at least as many live
leases, but at most as many more as it has more room; the counts compare so at every answer and at
every instant of the clock. -/
theorem run_mono_capacity {c₁ c₂ : Nat} (order : c₁ ≤ c₂) (events : List LeaseEvent) :
    List.Forall₂
        (fun a b : LeaseAnswer =>
          (a.granted = some true → b.granted = some true) ∧
            a.active ≤ b.active ∧ b.active ≤ a.active + (c₂ - c₁))
        ((new c₁).run events) ((new c₂).run events) ∧
      ∀ t, ((new c₁).after events).store.active t ≤ ((new c₂).after events).store.active t ∧
        ((new c₂).after events).store.active t ≤
          ((new c₁).after events).store.active t + (c₂ - c₁) := by
  have within : (new c₁).Within (new c₂) := ⟨rfl, LeaseStore.within_new order⟩
  refine ⟨within_run within events, fun t => ?_⟩
  have counts := (within_after within events).store.active_between t
  rw [capacity_after, capacity_after] at counts
  exact counts

/-- With room for one and for two: the second lease is granted only where there is room for it, and
it is still live when the third one is granted in both. -/
theorem run_mono_capacity_one_two :
    let events := [.acquire ⟨3⟩, .acquire ⟨5⟩, .advance ⟨3⟩, .acquire ⟨4⟩]
    (new 1).run events = [⟨some true, 1⟩, ⟨some false, 1⟩, ⟨none, 0⟩, ⟨some true, 1⟩] ∧
      (new 2).run events = [⟨some true, 1⟩, ⟨some true, 2⟩, ⟨none, 1⟩, ⟨some true, 2⟩] ∧
      1 ≤ 2 ∧
      List.Forall₂
        (fun a b : LeaseAnswer =>
          (a.granted = some true → b.granted = some true) ∧
            a.active ≤ b.active ∧ b.active ≤ a.active + (2 - 1))
        ((new 1).run events) ((new 2).run events) :=
  ⟨by decide, by decide, by decide, (run_mono_capacity (by decide) _).1⟩

end LeaseSession

end StartupGate

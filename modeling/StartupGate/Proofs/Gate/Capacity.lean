/-
# StartupGate.Proofs.Gate.Capacity -- no interleaving grants more leases than there is room

Any number of requests are at the gate at once, each between two of its steps, while check
results are published and the clock moves on.  Seen from the leases, a step of the whole
system does one of two things (`Floor.step_cases`):

* it keeps all grants, and at most sweeps the store (`Floor.KeepsGrants`);
* it grants one lease to one request that had none (`Floor.AddsGrant`).

`Floor.Sound` is what both keep: the store tracks the record of grants, and the leases of the
record belong to the requests that were granted one, each to exactly one.
`Floor.run_within_capacity` reads the bound off it for every run.
-/
import Mathlib.Logic.ExistsUnique
import StartupGate.Gate.Interleaving
import StartupGate.Proofs.Lease.Record

set_option autoImplicit false

namespace StartupGate

/-- What a request that was granted a lease asked with, and the number of that lease. -/
def LeaseRequest.granted? (r : LeaseRequest) : Option (List (String × String) × Option Nat) :=
  match r.stage with
  | .decided .granted lease => some (r.params, lease)
  | .answered .granted lease => some (r.params, lease)
  | _ => none

namespace Floor

/-- What the request of a number asked with and the number of its lease, if it was granted one. -/
def granted? (f : Floor) (i : Nat) : Option (List (String × String) × Option Nat) :=
  f.requests[i]?.bind LeaseRequest.granted?

/-! ## One step, seen from the leases -/

/-- A step that grants nothing; it may have swept the store. -/
structure KeepsGrants (f f' : Floor) : Prop where
  leases_eq : f'.gate.leases = f.gate.leases ∨
    f'.gate.leases = f.gate.leases.sweep f.now ∧ f'.now = f.now
  default_eq : f'.gate.defaultDuration = f.gate.defaultDuration
  now_le : f.now ≤ f'.now
  grants_eq : f'.grants = f.grants
  granted_eq : ∀ i, f'.granted? i = f.granted? i

/-- A step that grants one lease to the request of a number, which had none. -/
structure AddsGrant (f f' : Floor) (i : Nat) (params : List (String × String)) : Prop where
  room : f.gate.leases.active f.now < f.gate.leases.capacity
  leases_eq : f'.gate.leases = ⟨f.gate.leases.capacity,
    (f.gate.leases.sweep f.now).expiries ++ [Instant.after f.now (f.gate.leaseDuration params)]⟩
  default_eq : f'.gate.defaultDuration = f.gate.defaultDuration
  now_eq : f'.now = f.now
  grants_eq : f'.grants =
    f.grants ++ [⟨f.now, Instant.after f.now (f.gate.leaseDuration params)⟩]
  waiting : f.granted? i = none
  granted_eq : ∀ j, f'.granted? j =
    if j = i then some (params, some f.grants.length) else f.granted? j

theorem granted?_setStage (f : Floor) (i j : Nat) (stage : RequestStage) :
    (f.setStage i stage).granted? j =
      if j = i then f.requests[j]?.bind fun r => LeaseRequest.granted? { r with stage }
      else f.granted? j := by
  simp only [granted?, setStage, List.getElem?_modify]
  by_cases same : j = i
  · subst same
    simp only [if_true]
    cases f.requests[j]? <;> rfl
  · have other : i ≠ j := fun h => same h.symm
    simp only [same, other, if_false]
    cases f.requests[j]? <;> rfl

/-- A request that goes over to a stage in which it was granted what it was granted before. -/
theorem granted?_setStage_same {f : Floor} {i : Nat} {r : LeaseRequest} {stage : RequestStage}
    (found : f.requests[i]? = some r) (same : LeaseRequest.granted? { r with stage } = r.granted?)
    (j : Nat) : (f.setStage i stage).granted? j = f.granted? j := by
  rw [granted?_setStage]
  split
  · rename_i here
    subst here
    rw [granted?, found]
    exact same
  · rfl

theorem step_arrive (f : Floor) (params : List (String × String)) :
    f.KeepsGrants (f.step (.arrive params)) where
  leases_eq := .inl rfl
  default_eq := rfl
  now_le := Nat.le_refl _
  grants_eq := rfl
  granted_eq := by
    intro i
    simp only [granted?, step, List.getElem?_append]
    split
    · rfl
    · rename_i beyond
      have absent : f.requests[i]? = none := List.getElem?_eq_none (Nat.not_lt.mp beyond)
      rw [absent]
      cases i - f.requests.length <;> rfl

theorem step_publish (f : Floor) (signal : Nat) (healthy : Bool) :
    f.KeepsGrants (f.step (.publish signal healthy)) :=
  ⟨.inl rfl, rfl, Nat.le_refl _, rfl, fun _ => rfl⟩

theorem step_advance (f : Floor) (d : Duration) : f.KeepsGrants (f.step (.advance d)) :=
  ⟨.inl rfl, rfl, Nat.le_add_right _ _, rfl, fun _ => rfl⟩

/-- A request that tries to take a lease is granted one if there is room, and else the store is
swept and nothing more. -/
theorem takeLease_cases {f : Floor} {i : Nat} {r : LeaseRequest} (found : f.requests[i]? = some r)
    (ready : r.stage = .sawHealthy) :
    f.KeepsGrants (f.takeLease i r.params) ∨ f.AddsGrant (f.takeLease i r.params) i r.params := by
  have waiting : r.granted? = none := by rw [LeaseRequest.granted?, ready]
  simp only [takeLease, Gate.acquire, LeaseStore.acquire_eq]
  by_cases room : f.gate.leases.active f.now < f.gate.leases.capacity
  · refine .inr ?_
    simp only [room, if_true]
    refine ⟨room, rfl, rfl, rfl, rfl, by rw [granted?, found]; exact waiting, fun j => ?_⟩
    rw [granted?_setStage]
    split
    · rename_i here
      subst here
      simp only [found]
      rfl
    · rfl
  · refine .inl ?_
    simp only [room, if_false]
    have denied : LeaseRequest.granted? { r with stage := .decided .locked none } = r.granted? :=
      waiting.symm
    exact ⟨.inr ⟨rfl, rfl⟩, rfl, Nat.le_refl _, rfl, granted?_setStage_same found denied⟩

/-- **What a step does to the leases**: it grants nothing, or it is the step of one request that is
granted one lease. -/
theorem step_cases (f : Floor) (e : FloorEvent) :
    f.KeepsGrants (f.step e) ∨
      ∃ i params, e = .proceed i ∧ f.AddsGrant (f.step e) i params := by
  cases e with
  | arrive params => exact .inl (f.step_arrive params)
  | publish signal healthy => exact .inl (f.step_publish signal healthy)
  | advance d => exact .inl (f.step_advance d)
  | proceed i =>
      simp only [step, proceed]
      cases found : f.requests[i]? with
      | none => exact .inl ⟨.inl rfl, rfl, Nat.le_refl _, rfl, fun _ => rfl⟩
      | some r =>
          obtain ⟨params, stage⟩ := r
          cases stage with
          | arrived =>
              dsimp only
              split
              · exact .inl ⟨.inl rfl, rfl, Nat.le_refl _, rfl, granted?_setStage_same found rfl⟩
              · exact .inl ⟨.inl rfl, rfl, Nat.le_refl _, rfl, granted?_setStage_same found rfl⟩
          | sawHealthy =>
              rcases takeLease_cases found rfl with keeps | adds
              · exact .inl keeps
              · exact .inr ⟨i, params, rfl, adds⟩
          | decided outcome lease =>
              refine .inl ⟨.inl rfl, rfl, Nat.le_refl _, rfl, ?_⟩
              have counted : ({ f with gate := f.gate.record outcome } : Floor).requests[i]? =
                  some ⟨params, .decided outcome lease⟩ := found
              refine granted?_setStage_same counted ?_
              cases outcome <;> rfl
          | answered outcome lease =>
              exact .inl ⟨.inl rfl, rfl, Nat.le_refl _, rfl, fun _ => rfl⟩

/-! ## What every step keeps -/

/-- The store tracks the record; a granted request owns a lease of the record that lasts as long as
it asked; and every lease of the record has exactly one owner. -/
structure Sound (capacity : Nat) (default : Duration) (f : Floor) : Prop where
  tracks : f.gate.leases.Tracks ⟨capacity, f.grants⟩ f.now
  default_eq : f.gate.defaultDuration = default
  owns : ∀ i params lease, f.granted? i = some (params, lease) →
    ∃ n g, lease = some n ∧ f.grants[n]? = some g ∧ g.granted ≤ f.now ∧
      g.expiry = g.granted.after ((Gate.requestedDuration params).getD default)
  owned : ∀ n, n < f.grants.length → ∃! i, ∃ params, f.granted? i = some (params, some n)

theorem sound_new (capacity : Nat) (default : Duration) (signals : List Signal) :
    (new (.new capacity default signals)).Sound capacity default where
  tracks := LeaseStore.tracks_new capacity 0
  default_eq := rfl
  owns := nofun
  owned := nofun

variable {capacity : Nat} {default : Duration} {f f' : Floor}

theorem KeepsGrants.sound (keeps : f.KeepsGrants f') (sound : f.Sound capacity default) :
    f'.Sound capacity default where
  tracks := by
    rw [keeps.grants_eq]
    rcases keeps.leases_eq with same | ⟨swept, sameNow⟩
    · rw [same]
      exact sound.tracks.later keeps.now_le
    · rw [swept, sameNow]
      exact sound.tracks.sweep
  default_eq := keeps.default_eq.trans sound.default_eq
  owns := by
    intro i params lease granted
    rw [keeps.granted_eq] at granted
    obtain ⟨n, g, number, recorded, began, ends⟩ := sound.owns i params lease granted
    exact ⟨n, g, number, keeps.grants_eq ▸ recorded, Nat.le_trans began keeps.now_le, ends⟩
  owned := by
    simp only [keeps.granted_eq, keeps.grants_eq]
    exact sound.owned

theorem AddsGrant.sound {i : Nat} {params : List (String × String)}
    (adds : f.AddsGrant f' i params) (sound : f.Sound capacity default) :
    f'.Sound capacity default where
  tracks := by
    rw [adds.leases_eq, adds.grants_eq, adds.now_eq]
    exact sound.tracks.grant adds.room _
  default_eq := adds.default_eq.trans sound.default_eq
  owns := by
    intro j asked lease granted
    rw [adds.granted_eq] at granted
    rw [adds.grants_eq, adds.now_eq]
    split at granted
    · obtain ⟨rfl, rfl⟩ := Prod.mk.inj (Option.some.inj granted)
      refine ⟨f.grants.length, _, rfl, List.getElem?_concat_length, Nat.le_refl _, ?_⟩
      rw [Gate.leaseDuration, sound.default_eq]
    · obtain ⟨n, g, number, recorded, began, ends⟩ := sound.owns j asked lease granted
      have inside : n < f.grants.length := (List.getElem?_eq_some_iff.mp recorded).1
      exact ⟨n, g, number, by rw [List.getElem?_append_left inside, recorded], began, ends⟩
  owned := by
    intro n bound
    rw [adds.grants_eq, List.length_append, List.length_singleton] at bound
    by_cases newest : n = f.grants.length
    · subst newest
      refine ⟨i, ⟨params, by rw [adds.granted_eq, if_pos rfl]⟩, ?_⟩
      -- an owner of the newest lease among the old requests would own a lease of the old record
      rintro j ⟨asked, granted⟩
      rw [adds.granted_eq] at granted
      by_cases here : j = i
      · exact here
      · rw [if_neg here] at granted
        obtain ⟨m, g, number, recorded, -⟩ := sound.owns j asked _ granted
        cases number
        exact absurd (List.getElem?_eq_some_iff.mp recorded).1 (Nat.lt_irrefl _)
    · obtain ⟨owner, ⟨asked, granted⟩, unique⟩ := sound.owned n (by omega)
      have other : owner ≠ i := by
        rintro rfl
        rw [adds.waiting] at granted
        cases granted
      refine ⟨owner, ⟨asked, by rw [adds.granted_eq, if_neg other]; exact granted⟩, ?_⟩
      rintro j ⟨asked', granted'⟩
      rw [adds.granted_eq] at granted'
      split at granted'
      · cases granted'
        exact absurd rfl newest
      · exact unique j ⟨asked', granted'⟩

theorem sound_step (sound : f.Sound capacity default) (e : FloorEvent) :
    (f.step e).Sound capacity default := by
  rcases f.step_cases e with keeps | ⟨i, params, -, adds⟩
  · exact keeps.sound sound
  · exact adds.sound sound

theorem sound_run (sound : f.Sound capacity default) (events : List FloorEvent) :
    (f.run events).Sound capacity default := by
  induction events generalizing f with
  | nil => exact sound
  | cons e events ih => exact ih (sound_step sound e)

/-! ## The bound -/

/-- **No interleaving exceeds the capacity.**  Whatever requests arrive, in whatever order their
steps, published check results and the clock follow each other: at no instant do more than
`capacity` of the leases ever granted cover it, and the store never holds more.  Each lease was
granted to exactly one request, and each granted request owns one, which ends after the span it asked
for, or after thirty years where the clock cannot show that.  And each further step grants nothing,
or one lease to one request. -/
theorem run_within_capacity (capacity : Nat) (default : Duration) (signals : List Signal)
    (events : List FloorEvent) :
    let f := (new (.new capacity default signals)).run events
    (∀ t, f.liveAt t ≤ capacity) ∧
      f.gate.leases.expiries.length ≤ capacity ∧
      (∀ n, n < f.grants.length → ∃! i, ∃ params, f.granted? i = some (params, some n)) ∧
      (∀ i params lease, f.granted? i = some (params, lease) →
        ∃ n g, lease = some n ∧ f.grants[n]? = some g ∧ g.granted ≤ f.now ∧
          let d := (Gate.requestedDuration params).getD default
          g.expiry = if g.granted + d.nanos < clockLimit then g.granted + d.nanos
            else g.granted + farFuture.nanos) ∧
      ∀ e, f.KeepsGrants (f.step e) ∨
        ∃ i params, e = .proceed i ∧ f.AddsGrant (f.step e) i params := by
  intro f
  have sound : f.Sound capacity default := sound_run (sound_new capacity default signals) events
  have stored := sound.tracks.length_le
  rw [sound.tracks.capacity_eq] at stored
  refine ⟨sound.tracks.liveAt_le, stored, sound.owned, ?_, f.step_cases⟩
  intro i params lease granted
  obtain ⟨n, g, number, recorded, began, ends⟩ := sound.owns i params lease granted
  exact ⟨n, g, number, recorded, began, ends.trans (Instant.after_eq _ _)⟩

end Floor

end StartupGate

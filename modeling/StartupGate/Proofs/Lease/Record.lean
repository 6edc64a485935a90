/-
# StartupGate.Proofs.Lease.Record -- the swept store keeps the live part of the full record

The store forgets a lease at some sweep after it has expired; the record of all grants
(`LeaseHistory`) forgets nothing.  `LeaseStore.Tracks s h now` says that the two agree at
an instant: what a sweep of the store would leave is exactly what the record shows as
unexpired, in the order of the grants, and at no instant do more recorded leases cover it
than the store has room for.

* `LeaseStore.tracks_new`: an empty store tracks an empty record;
* `LeaseStore.Tracks.later`: time may pass, as long as it does not run backwards;
* `LeaseStore.Tracks.acquire`: an acquire decides as the record does, and the store goes on
  tracking it.
-/
import StartupGate.Lease.History

set_option autoImplicit false

namespace StartupGate

/-- The end of a lease, spelled out: after its span, or after thirty years if the clock cannot show
that instant. -/
theorem Instant.after_eq (now : Instant) (d : Duration) :
    now.after d =
      if now + d.nanos < clockLimit then now + d.nanos else now + farFuture.nanos := by
  by_cases fits : now + d.nanos < clockLimit
  · simp only [Instant.after, Instant.after?, fits, if_true]
  · simp only [Instant.after, Instant.after?, fits, if_false]

/-- A lease for a span can be granted as long as thirty years still fit the clock. -/
theorem Instant.hasAfter_of_farFuture {now : Instant} (fits : now + farFuture.nanos < clockLimit)
    (d : Duration) : now.hasAfter d = true := by
  simp only [Instant.hasAfter, Instant.after?, fits, if_true, Option.isSome_some, Bool.or_true]

/-- A clock that can show thirty years beyond two spans can show all that comes before. -/
theorem Instant.fits_of_spans {now first rest : Nat}
    (fits : now + (first + rest) + farFuture.nanos < clockLimit) :
    now + farFuture.nanos < clockLimit ∧ now + first < clockLimit ∧
      now + first + rest + farFuture.nanos < clockLimit := by
  generalize (clockLimit : Nat) = limit at fits ⊢
  refine ⟨?_, ?_, ?_⟩ <;> omega

/-! ## Sweeping -/

namespace LeaseStore

theorem isLive_iff {now expiry : Instant} : isLive now expiry = true ↔ now < expiry :=
  decide_eq_true_iff

/-- Sweeping at an instant takes nothing away that a later sweep would leave. -/
theorem filter_isLive_later {α : Type} (expiry : α → Instant) {now later : Instant}
    (order : now ≤ later) (l : List α) :
    l.filter (fun a => isLive later (expiry a)) =
      (l.filter fun a => isLive now (expiry a)).filter fun a => isLive later (expiry a) := by
  rw [List.filter_filter]
  refine List.filter_congr fun a _ => ?_
  cases live : isLive later (expiry a) with
  | false => rfl
  | true =>
      have before : isLive now (expiry a) = true :=
        isLive_iff.mpr (Nat.lt_of_le_of_lt order (isLive_iff.mp live))
      rw [before]
      rfl

theorem sweep_length_le (s : LeaseStore) (now : Instant) :
    (s.sweep now).expiries.length ≤ s.expiries.length :=
  List.length_filter_le _ _

/-- The store counts what a sweep would leave. -/
theorem active_eq_sweep (s : LeaseStore) (now : Instant) :
    s.active now = (s.sweep now).expiries.length := rfl

/-- What an acquire does: it sweeps, and takes a lease exactly if there is room. -/
theorem acquire_eq (s : LeaseStore) (now : Instant) (d : Duration) :
    s.acquire now d =
      if s.active now < s.capacity then
        (true, ⟨s.capacity, (s.sweep now).expiries ++ [now.after d]⟩)
      else (false, s.sweep now) := by
  rw [active_eq_sweep]
  by_cases room : (s.sweep now).expiries.length < s.capacity
  · have notFull : ¬ s.capacity ≤ (s.sweep now).expiries.length := Nat.not_le.mpr room
    rw [if_pos room]
    exact if_neg notFull
  · have full : s.capacity ≤ (s.sweep now).expiries.length := Nat.not_lt.mp room
    rw [if_neg room]
    exact if_pos full

end LeaseStore

/-! ## The record -/

namespace LeaseHistory

/-- The recorded leases that have not expired at an instant, oldest first. -/
def unexpired (h : LeaseHistory) (t : Instant) : List Grant :=
  h.grants.filter fun g => LeaseStore.isLive t g.expiry

/-- Once all recorded leases have begun, those that cover an instant are the unexpired ones. -/
theorem liveAt_eq_unexpired {h : LeaseHistory} {t : Instant} (begun : ∀ g ∈ h.grants, g.granted ≤ t) :
    h.liveAt t = (h.unexpired t).length := by
  unfold liveAt unexpired
  congr 1
  refine List.filter_congr fun g member => ?_
  simp only [covers, begun g member, decide_true, Bool.true_and, LeaseStore.isLive]

theorem unexpired_later {now later : Instant} (order : now ≤ later) (h : LeaseHistory) :
    h.unexpired later = (h.unexpired now).filter fun g => LeaseStore.isLive later g.expiry :=
  LeaseStore.filter_isLive_later Grant.expiry order h.grants

/-- After a lease is recorded at an instant, no instant before it is covered more often, and any
other at most once more than the record shows as unexpired. -/
theorem liveAt_append {h : LeaseHistory} {now : Instant} (begun : ∀ g ∈ h.grants, g.granted ≤ now)
    (expiry t : Instant) :
    (⟨h.capacity, h.grants ++ [⟨now, expiry⟩]⟩ : LeaseHistory).liveAt t ≤
      if t < now then h.liveAt t else (h.unexpired now).length + 1 := by
  unfold liveAt
  rw [List.filter_append, List.length_append]
  by_cases before : t < now
  · have notYet : covers t ⟨now, expiry⟩ = false := by
      simp [covers, Nat.not_le.mpr before]
    simp [before, notYet]
  · have order : now ≤ t := Nat.not_lt.mp before
    have old : (h.grants.filter (covers t)).length ≤ (h.unexpired now).length := by
      have covered := liveAt_eq_unexpired fun g member => Nat.le_trans (begun g member) order
      rw [liveAt] at covered
      rw [covered, unexpired_later order]
      exact List.length_filter_le _ _
    have new : (List.filter (covers t) [⟨now, expiry⟩]).length ≤ 1 := List.length_filter_le _ _
    rw [if_neg before]
    exact Nat.add_le_add old new

end LeaseHistory

/-! ## Tracking -/

namespace LeaseStore

/-- A store tracks a record at an instant: it keeps what is unexpired there, and neither holds more
leases than it has room for nor ever granted more for one instant. -/
structure Tracks (s : LeaseStore) (h : LeaseHistory) (now : Instant) : Prop where
  capacity_eq : s.capacity = h.capacity
  begun : ∀ g ∈ h.grants, g.granted ≤ now
  live_eq : (s.sweep now).expiries = (h.unexpired now).map Grant.expiry
  length_le : s.expiries.length ≤ s.capacity
  liveAt_le : ∀ t, h.liveAt t ≤ h.capacity

theorem tracks_new (capacity : Nat) (now : Instant) :
    (new capacity).Tracks (.new capacity) now where
  capacity_eq := rfl
  begun := fun g member => by cases member
  live_eq := rfl
  length_le := Nat.zero_le _
  liveAt_le := fun _ => Nat.zero_le _

namespace Tracks

variable {s : LeaseStore} {h : LeaseHistory} {now : Instant}

/-- The live leases of the store are counted by the record. -/
theorem active_eq (tracks : s.Tracks h now) : s.active now = (h.unexpired now).length := by
  rw [active_eq_sweep, tracks.live_eq, List.length_map]

/-- At an instant no earlier, the store still tracks the record. -/
theorem later (tracks : s.Tracks h now) {t : Instant} (order : now ≤ t) : s.Tracks h t where
  capacity_eq := tracks.capacity_eq
  begun := fun g member => Nat.le_trans (tracks.begun g member) order
  live_eq := by
    have swept : (s.sweep t).expiries = (s.sweep now).expiries.filter (isLive t) :=
      filter_isLive_later (fun expiry => expiry) order s.expiries
    rw [swept, tracks.live_eq, List.filter_map, LeaseHistory.unexpired_later order]
    rfl
  length_le := tracks.length_le
  liveAt_le := tracks.liveAt_le

/-- The record grants exactly if fewer leases are unexpired than the store has room for. -/
theorem record_acquire_eq (tracks : s.Tracks h now) (d : Duration) :
    h.acquire now d =
      if s.active now < s.capacity then
        (true, ⟨h.capacity, h.grants ++ [⟨now, now.after d⟩]⟩)
      else (false, h) := by
  rw [LeaseHistory.acquire, LeaseHistory.liveAt_eq_unexpired tracks.begun, ← tracks.active_eq,
    ← tracks.capacity_eq]

/-- A swept store tracks what it tracked before. -/
theorem sweep (tracks : s.Tracks h now) : (s.sweep now).Tracks h now where
  capacity_eq := tracks.capacity_eq
  begun := tracks.begun
  live_eq := by
    have again := filter_isLive_later (fun expiry => expiry) (Nat.le_refl now) s.expiries
    exact again.symm.trans tracks.live_eq
  length_le := Nat.le_trans (s.sweep_length_le now) tracks.length_le
  liveAt_le := tracks.liveAt_le

/-- A lease that has room is kept and recorded, even one that expires at once. -/
theorem grant (tracks : s.Tracks h now) (room : s.active now < s.capacity) (expiry : Instant) :
    (⟨s.capacity, (s.sweep now).expiries ++ [expiry]⟩ : LeaseStore).Tracks
      ⟨h.capacity, h.grants ++ [⟨now, expiry⟩]⟩ now where
  capacity_eq := tracks.capacity_eq
  begun := by
    intro g member
    rcases List.mem_append.mp member with old | new
    · exact tracks.begun g old
    · cases List.mem_singleton.mp new
      exact Nat.le_refl now
  live_eq := by
    have old := tracks.sweep.live_eq
    simp only [LeaseStore.sweep, LeaseHistory.unexpired, List.filter_append, List.map_append]
      at old ⊢
    rw [old]
    congr 1
    cases live : isLive now expiry <;> simp [live]
  length_le := by
    rw [List.length_append, ← active_eq_sweep]
    exact room
  liveAt_le := by
    intro t
    have bound := LeaseHistory.liveAt_append tracks.begun expiry t
    split at bound
    · exact Nat.le_trans bound (tracks.liveAt_le t)
    · rw [← tracks.active_eq] at bound
      exact Nat.le_trans bound (tracks.capacity_eq ▸ room)

/-- **An acquire decides as the full record does, and the store goes on tracking it.** -/
theorem acquire (tracks : s.Tracks h now) (d : Duration) :
    (s.acquire now d).1 = (h.acquire now d).1 ∧
      (s.acquire now d).2.Tracks (h.acquire now d).2 now := by
  rw [acquire_eq, tracks.record_acquire_eq]
  by_cases room : s.active now < s.capacity
  · simp only [room, if_true]
    exact ⟨trivial, tracks.grant room _⟩
  · simp only [room, if_false]
    exact ⟨trivial, tracks.sweep⟩

/-- A lease is granted exactly if fewer recorded leases are unexpired than there is room for. -/
theorem granted_eq (tracks : s.Tracks h now) (d : Duration) :
    (s.acquire now d).1 = decide ((h.unexpired now).length < h.capacity) := by
  rw [acquire_eq, tracks.active_eq, tracks.capacity_eq]
  split
  · rename_i room
    exact (decide_eq_true room).symm
  · rename_i full
    exact (decide_eq_false full).symm

/-- A full store grants the next lease from the first instant at which one of its leases ends. -/
theorem granted_later_iff (tracks : s.Tracks h now) (full : (h.unexpired now).length = h.capacity)
    {t : Instant} (order : now ≤ t) (d : Duration) :
    (s.acquire t d).1 = true ↔ ∃ g ∈ h.unexpired now, g.expiry ≤ t := by
  rw [(tracks.later order).granted_eq, decide_eq_true_iff, ← full,
    LeaseHistory.unexpired_later order, List.length_filter_lt_length_iff_exists]
  simp only [isLive_iff, Nat.not_lt]

end Tracks

end LeaseStore

end StartupGate

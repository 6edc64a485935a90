/-
# StartupGate.Proofs.Lease.Session -- a store in use answers from every lease ever granted

An observer who reads the events and the answers of a run can write down every lease that
was granted, with the instant of the grant and its end (`LeaseEvent.grantsIn`).  The store has
forgotten most of them, and yet each of its answers is the one that the whole list gives:

* `LeaseSession.tracks_after`: along a run the store tracks the observer's list;
* `LeaseSession.answers_from_all_grants`: an acquire is granted exactly if fewer than
  `capacity` leases of the list are unexpired, and a look counts exactly those;
* `LeaseSession.canRun_of_elapsed`: a run that stays thirty years below the clock's limit
  is never refused.
-/
import StartupGate.Lease.Session
import StartupGate.Proofs.Lease.Record

set_option autoImplicit false

namespace StartupGate

/-! ## Reading a run -/

namespace LeaseEvent

/-- How far an event moves the clock. -/
def elapsed : LeaseEvent → Nat
  | .acquire _ => 0
  | .advance d => d.nanos
  | .look => 0

/-- How far events in order move the clock. -/
def totalElapsed : List LeaseEvent → Nat
  | [] => 0
  | e :: rest => e.elapsed + totalElapsed rest

/-- The lease that an event at an instant was granted according to its answer, if it was granted
one. -/
def granted (now : Instant) (e : LeaseEvent) (a : LeaseAnswer) : List Grant :=
  match e, a.granted with
  | .acquire d, some true => [⟨now, now.after d⟩]
  | _, _ => []

/-- All leases that events from an instant on were granted according to their answers. -/
def grantsIn : Instant → List LeaseEvent → List LeaseAnswer → List Grant
  | now, e :: events, a :: answers => e.granted now a ++ grantsIn (now + e.elapsed) events answers
  | _, _, _ => []

end LeaseEvent

namespace LeaseSession

/-- The session that events in order lead to. -/
def after (s : LeaseSession) (events : List LeaseEvent) : LeaseSession :=
  events.foldl (fun s e => (s.step e).2) s

theorem run_cons (s : LeaseSession) (e : LeaseEvent) (rest : List LeaseEvent) :
    s.run (e :: rest) = ⟨(s.step e).1, (s.step e).2.active⟩ :: (s.step e).2.run rest := rfl

/-- The answers to the later events of a run are those of the session that the earlier ones lead
to. -/
theorem run_append (s : LeaseSession) (before rest : List LeaseEvent) :
    s.run (before ++ rest) = s.run before ++ (s.after before).run rest := by
  induction before generalizing s with
  | nil => rfl
  | cons e before ih =>
      rw [List.cons_append, run_cons, run_cons, ih, List.cons_append]
      rfl

theorem step_now (s : LeaseSession) (e : LeaseEvent) : (s.step e).2.now = s.now + e.elapsed := by
  cases e <;> rfl

theorem after_now (s : LeaseSession) (events : List LeaseEvent) :
    (s.after events).now = s.now + LeaseEvent.totalElapsed events := by
  induction events generalizing s with
  | nil => rfl
  | cons e events ih =>
      have next : (s.after (e :: events)).now = ((s.step e).2.after events).now := rfl
      rw [next, ih, step_now, LeaseEvent.totalElapsed, Nat.add_assoc]

/-! ## Tracking along a run -/

/-- The record after one more event. -/
theorem tracks_step {s : LeaseSession} {h : LeaseHistory} (tracks : s.store.Tracks h s.now)
    (e : LeaseEvent) (active : Nat) :
    (s.step e).2.store.Tracks
      ⟨h.capacity, h.grants ++ e.granted s.now ⟨(s.step e).1, active⟩⟩ (s.step e).2.now := by
  cases e with
  | acquire d =>
      obtain ⟨decided, next⟩ := tracks.acquire d
      have record : h.acquire s.now d = ((s.store.acquire s.now d).1, ⟨h.capacity, h.grants ++
          LeaseEvent.granted s.now (.acquire d) ⟨some (s.store.acquire s.now d).1, active⟩⟩) := by
        rw [LeaseStore.acquire_eq, tracks.record_acquire_eq]
        by_cases room : s.store.active s.now < s.store.capacity
        · simp only [room, if_true, LeaseEvent.granted]
        · simp only [room, if_false, LeaseEvent.granted, List.append_nil]
      rw [record] at next
      exact next
  | advance d =>
      have same : LeaseEvent.granted s.now (.advance d) ⟨none, active⟩ = [] := rfl
      simp only [step, same, List.append_nil]
      exact tracks.later (Nat.le_add_right s.now d.nanos)
  | look =>
      have same : LeaseEvent.granted s.now .look ⟨none, active⟩ = [] := rfl
      simp only [step, same, List.append_nil]
      exact tracks

/-- Along a run the store tracks what an observer reads off it. -/
theorem tracks_after {s : LeaseSession} {h : LeaseHistory} (tracks : s.store.Tracks h s.now)
    (events : List LeaseEvent) :
    (s.after events).store.Tracks
      ⟨h.capacity, h.grants ++ LeaseEvent.grantsIn s.now events (s.run events)⟩
      (s.after events).now := by
  induction events generalizing s h with
  | nil =>
      simp only [LeaseEvent.grantsIn, List.append_nil]
      exact tracks
  | cons e events ih =>
      have next := ih (tracks_step tracks e (s.step e).2.active)
      rw [step_now, List.append_assoc] at next
      exact next

/-! ## The clock's range -/

/-- A run that stays thirty years below the clock's limit asks for nothing the clock cannot show. -/
theorem canRun_of_elapsed (s : LeaseSession) (events : List LeaseEvent)
    (fits : s.now + LeaseEvent.totalElapsed events + farFuture.nanos < clockLimit) :
    s.canRun events = true := by
  induction events generalizing s with
  | nil => rfl
  | cons e events ih =>
      obtain ⟨room, moved, later⟩ := Instant.fits_of_spans fits
      have first : s.canStep e = true := by
        cases e with
        | acquire d =>
            simp only [canStep, LeaseStore.canExpire, Instant.hasAfter_of_farFuture room,
              Bool.or_true]
        | advance d => exact decide_eq_true moved
        | look => rfl
      have others : (s.step e).2.canRun events = true := by
        apply ih
        rw [step_now]
        exact later
      simp only [canRun, first, others, Bool.and_true]

/-! ## What the answers say -/

/-- **The answers of a store in use are those of all leases ever granted.**  Take any point of a
run, and let `live` be the leases granted before it that end strictly later.  An acquire there is
granted exactly if `live` has room, a look counts `live`, and a sweep keeps just `live`.  A full
store admits again from the first instant at which one of `live` ends, and not before.  The run
beyond the point goes on from there, and as long as thirty years fit the clock it is not refused. -/
theorem answers_from_all_grants (capacity : Nat) (before : List LeaseEvent) :
    let start := LeaseSession.new capacity
    let s := start.after before
    let earlier := LeaseEvent.grantsIn 0 before (start.run before)
    let live := earlier.filter fun g => decide (s.now < g.expiry)
    s.now = LeaseEvent.totalElapsed before ∧
      (∀ rest, start.run (before ++ rest) = start.run before ++ s.run rest) ∧
      (∀ d, (s.step (.acquire d)).1 = some (decide (live.length < capacity))) ∧
      s.active = live.length ∧
      (s.store.sweep s.now).expiries = live.map Grant.expiry ∧
      (live.length = capacity → ∀ wait d,
        (((s.after [.advance wait]).step (.acquire d)).1 = some true ↔
          ∃ g ∈ live, g.expiry ≤ s.now + wait.nanos)) ∧
      (LeaseEvent.totalElapsed before + farFuture.nanos < clockLimit →
        start.answers before = .ok (start.run before)) := by
  intro start s earlier live
  have tracks : s.store.Tracks ⟨capacity, earlier⟩ s.now :=
    tracks_after (s := start) (LeaseStore.tracks_new capacity 0) before
  refine ⟨?_, run_append start before, fun d => ?_, tracks.active_eq, tracks.live_eq, ?_, ?_⟩
  · rw [after_now]
    exact Nat.zero_add _
  · exact congrArg some (tracks.granted_eq d)
  · intro full wait d
    have order : s.now ≤ s.now + wait.nanos := Nat.le_add_right _ _
    have answer : ((s.after [.advance wait]).step (.acquire d)).1 =
        some (s.store.acquire (s.now + wait.nanos) d).1 := rfl
    rw [answer, Option.some.injEq]
    exact tracks.granted_later_iff full order d
  · intro fits
    have canRun : start.canRun before = true := by
      apply canRun_of_elapsed
      rw [show start.now = 0 from rfl, Nat.zero_add]
      exact fits
    simp only [answers, canRun, if_true]

end LeaseSession

end StartupGate

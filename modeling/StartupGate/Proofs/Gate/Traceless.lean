/-
# StartupGate.Proofs.Gate.Traceless -- requests that hold nothing leave no trace

A request that is turned away may still sweep the store, and a lease of zero duration is put
there although it has already expired, so a run with such a request and the run without it
lead to different gates.  Nobody can tell them apart by what they answer:

* `GateSession.Alike`: two sessions show the same instant, the same signals, and the same
  live leases, whatever expired ones their stores still keep and whatever they counted;
* `GateSession.Alike.step`: every event is answered alike and leads to sessions alike;
* `GateSession.alike_of_holdsNothing`: a step that holds nothing leads to a session like the
  one before it;
* `GateSession.run_without_traceless`: if any steps that hold nothing are taken out of a run,
  what is left is a run.
-/
import StartupGate.Proofs.Gate.Decision

set_option autoImplicit false

namespace StartupGate

/-! ## Stores with the same live leases -/

namespace LeaseStore

/-- A second sweep at an instant no earlier leaves what it would have left by itself. -/
theorem sweep_sweep (s : LeaseStore) {now later : Instant} (order : now ≤ later) :
    (s.sweep now).sweep later = s.sweep later := by
  simp only [sweep]
  rw [← filter_isLive_later (fun expiry => expiry) order]

/-- A lease that has expired is swept like one that never was. -/
theorem sweep_expired (s : LeaseStore) {now expiry : Instant} (expired : expiry ≤ now) :
    (⟨s.capacity, s.expiries ++ [expiry]⟩ : LeaseStore).sweep now = s.sweep now := by
  have dead : isLive now expiry = false := decide_eq_false (Nat.not_lt.mpr expired)
  simp only [sweep, List.filter_append, List.filter_cons, dead, List.filter_nil,
    Bool.false_eq_true, if_false, List.append_nil]

theorem sweep_eq_later {a b : LeaseStore} {now later : Instant} (alike : a.sweep now = b.sweep now)
    (order : now ≤ later) : a.sweep later = b.sweep later := by
  rw [← a.sweep_sweep order, alike, b.sweep_sweep order]

/-- An acquire sees nothing of a store but what a sweep leaves of it. -/
theorem acquire_congr {a b : LeaseStore} {now : Instant} (alike : a.sweep now = b.sweep now)
    (d : Duration) : a.acquire now d = b.acquire now d := by
  rw [acquire, alike, ← acquire]

/-- A denied acquire leaves the live leases as they are. -/
theorem sweep_denied {s : LeaseStore} {now : Instant} {d : Duration}
    (denied : (s.acquire now d).1 = false) : (s.acquire now d).2.sweep now = s.sweep now := by
  rw [acquire_eq] at denied ⊢
  split at denied
  · cases denied
  · rename_i full
    rw [if_neg full]
    exact s.sweep_sweep (Nat.le_refl now)

/-- So does an acquire of zero duration, granted or not, as long as the clock shows the instant. -/
theorem sweep_acquire_zero (s : LeaseStore) {now : Instant} (shown : now < clockLimit) :
    (s.acquire now .zero).2.sweep now = s.sweep now := by
  have ended : now.after .zero = now := by
    rw [Instant.after_eq]
    exact if_pos shown
  rw [acquire_eq, ended]
  split
  · exact ((s.sweep now).sweep_expired (Nat.le_refl now)).trans (s.sweep_sweep (Nat.le_refl now))
  · exact s.sweep_sweep (Nat.le_refl now)

end LeaseStore

/-! ## What a request for a lease reads and changes -/

namespace Gate

theorem requestLease_outcome (g : Gate) (now : Instant) (params : List (String × String)) :
    (g.requestLease now params).1 =
      if g.isHealthy then
        if (g.leases.acquire now (g.leaseDuration params)).1 then .granted else .locked
      else .unhealthy := by
  rw [requestLease]
  split <;> rfl

theorem requestLease_leases (g : Gate) (now : Instant) (params : List (String × String)) :
    (g.requestLease now params).2.leases =
      if g.isHealthy then (g.leases.acquire now (g.leaseDuration params)).2 else g.leases := by
  rw [requestLease]
  split <;> rfl

theorem requestLease_signals (g : Gate) (now : Instant) (params : List (String × String)) :
    (g.requestLease now params).2.signals = g.signals := by
  rw [requestLease]
  split <;> rfl

theorem requestLease_default (g : Gate) (now : Instant) (params : List (String × String)) :
    (g.requestLease now params).2.defaultDuration = g.defaultDuration := by
  rw [requestLease]
  split <;> rfl

/-- The status for a request that does not read `/` has nothing to do with the gate. -/
theorem respond_other_status {r : Http.Request} (other : ¬ r.ReadsRoot) (g g' : Gate)
    (now now' : Instant) :
    (g.respond .gate now r).1.status = (g'.respond .gate now' r).1.status := by
  simp only [respond]
  cases found : Page.ofPath? (Http.Target.read r.target).path with
  | none => rfl
  | some page =>
      cases page with
      | metrics =>
          simp only [showPage]
          split
          · rfl
          · split <;> rfl
      | main =>
          have path : (Http.Target.read r.target).path = ['/'] := by
            simp only [Page.ofPath?] at found
            split at found
            · assumption
            · split at found <;> cases found
          have notGet : ¬ r.method = "GET" := fun get => other ⟨path, .inl get⟩
          have notHead : ¬ r.method = "HEAD" := fun head => other ⟨path, .inr head⟩
          simp only [notGet, notHead, if_false]

end Gate

/-! ## Steps -/

/-- One step of a run: the event, the status of its answer, how a request for a lease ended, and the
leases that are live after it. -/
structure GateStep where
  event : GateEvent
  status : Option Nat
  outcome : Option LeaseOutcome
  active : Nat
  deriving DecidableEq

/-- A request that was denied, or was granted a lease of zero duration. -/
def GateSetup.HoldsNothing (setup : GateSetup) (x : GateStep) : Prop :=
  x.outcome = some .locked ∨ x.outcome = some .unhealthy ∨
    x.outcome = some .granted ∧ ∃ params, x.event.leaseParams? = some params ∧
      setup.duration params = .zero

/-- A list is left of another when some members with a property are taken out. -/
inductive Thinned {α : Type} (p : α → Prop) : List α → List α → Prop where
  | nil : Thinned p [] []
  | keep (x : α) {xs kept : List α} : Thinned p xs kept → Thinned p (x :: xs) (x :: kept)
  | drop {x : α} {xs kept : List α} : p x → Thinned p xs kept → Thinned p (x :: xs) kept

namespace GateSession

/-- How the request for a lease that an event makes ends, if it makes one. -/
def outcome? (s : GateSession) (e : GateEvent) : Option LeaseOutcome :=
  e.leaseParams?.map fun params => (s.gate.requestLease s.now params).1

/-- What an event shows. -/
def observe (s : GateSession) (e : GateEvent) : GateStep :=
  ⟨e, (s.step e).1.status?, s.outcome? e, (s.step e).2.active⟩

/-- The steps of a run. -/
def steps (s : GateSession) : List GateEvent → List GateStep
  | [] => []
  | e :: rest => s.observe e :: (s.step e).2.steps rest

/-- Each step shows what the run answers there. -/
theorem steps_eq_run (s : GateSession) (events : List GateEvent) :
    (s.steps events).map (fun x => (x.status, x.active)) =
      (s.run events).1.map fun (answer, active) => (answer.status?, active) := by
  induction events generalizing s with
  | nil => rfl
  | cons e events ih =>
      rw [steps, List.map_cons, ih]
      rfl

/-! ## Sessions alike -/

/-- Two sessions that differ at most in expired leases and in what was counted. -/
structure Alike (a b : GateSession) : Prop where
  role_eq : a.role = b.role
  now_eq : a.now = b.now
  default_eq : a.gate.defaultDuration = b.gate.defaultDuration
  signals_eq : a.gate.signals = b.gate.signals
  sweep_eq : a.gate.leases.sweep a.now = b.gate.leases.sweep a.now

variable {a b : GateSession}

theorem Alike.refl (a : GateSession) : a.Alike a := ⟨rfl, rfl, rfl, rfl, rfl⟩

namespace Alike

theorem isHealthy_eq (alike : a.Alike b) : a.gate.isHealthy = b.gate.isHealthy := by
  rw [Gate.isHealthy, alike.signals_eq, ← Gate.isHealthy]

theorem acquire_eq (alike : a.Alike b) (params : List (String × String)) :
    a.gate.leases.acquire a.now (a.gate.leaseDuration params) =
      b.gate.leases.acquire b.now (b.gate.leaseDuration params) := by
  rw [Gate.leaseDuration, alike.default_eq, ← Gate.leaseDuration, ← alike.now_eq]
  exact LeaseStore.acquire_congr alike.sweep_eq _

theorem outcome_eq (alike : a.Alike b) (e : GateEvent) : a.outcome? e = b.outcome? e := by
  unfold outcome?
  congr 1
  funext params
  rw [Gate.requestLease_outcome, Gate.requestLease_outcome, alike.isHealthy_eq,
    alike.acquire_eq params]

theorem active_eq (alike : a.Alike b) : a.active = b.active := by
  rw [active, Gate.active, LeaseStore.active_eq_sweep, alike.sweep_eq, alike.now_eq]
  rfl

/-- A request for a lease leads to sessions alike. -/
theorem requestLease (alike : a.Alike b) (params : List (String × String)) :
    ({ a with gate := (a.gate.requestLease a.now params).2 } : GateSession).Alike
      { b with gate := (b.gate.requestLease b.now params).2 } where
  role_eq := alike.role_eq
  now_eq := alike.now_eq
  default_eq := by
    simp only [Gate.requestLease_default]
    exact alike.default_eq
  signals_eq := by
    simp only [Gate.requestLease_signals]
    exact alike.signals_eq
  sweep_eq := by
    simp only [Gate.requestLease_leases, alike.isHealthy_eq, alike.acquire_eq params]
    split
    · rfl
    · exact alike.sweep_eq

/-- **Every event is answered alike and leads to sessions alike.** -/
theorem step (alike : a.Alike b) (role : a.role = .gate) (e : GateEvent) :
    a.observe e = b.observe e ∧ (a.step e).2.Alike (b.step e).2 := by
  have role' : b.role = .gate := alike.role_eq.symm.trans role
  suffices both : (a.step e).1.status? = (b.step e).1.status? ∧ (a.step e).2.Alike (b.step e).2 by
    obtain ⟨status, next⟩ := both
    refine ⟨?_, next⟩
    simp only [observe, status, alike.outcome_eq e, next.active_eq]
  cases asked : e.leaseParams? with
  | some params =>
      obtain ⟨status, next⟩ := step_lease role asked
      obtain ⟨status', next'⟩ := step_lease role' asked
      have outcome := alike.outcome_eq e
      simp only [outcome?, asked, Option.map_some, Option.some.injEq] at outcome
      rw [status, status', outcome, next, next']
      exact ⟨rfl, alike.requestLease params⟩
  | none =>
      cases e with
      | request r =>
          have other : ¬ r.ReadsRoot := by
            intro root
            simp [GateEvent.leaseParams?, root] at asked
          rw [step_other role other, step_other role' other]
          refine ⟨?_, alike⟩
          simp only [GateSession.step, role, role', GateAnswer.status?]
          rw [Gate.respond_other_status other a.gate b.gate a.now b.now]
      | call params => cases asked
      | publish signal healthy =>
          refine ⟨rfl, alike.role_eq, alike.now_eq, alike.default_eq, ?_, alike.sweep_eq⟩
          show (publishAt a.gate.signals signal healthy).2 =
            (publishAt b.gate.signals signal healthy).2
          rw [alike.signals_eq]
      | advance d =>
          refine ⟨rfl, alike.role_eq, ?_, alike.default_eq, alike.signals_eq, ?_⟩
          · show a.now + d.nanos = b.now + d.nanos
            rw [alike.now_eq]
          · exact LeaseStore.sweep_eq_later alike.sweep_eq (Nat.le_add_right _ _)

/-- An event asks for an instant that the clock cannot show in both or in neither. -/
theorem canStep_eq (alike : a.Alike b) (e : GateEvent) : a.canStep e = b.canStep e := by
  have lease : ∀ params, a.gate.canExpire a.now params = b.gate.canExpire b.now params := by
    intro params
    have capacity : (a.gate.leases.sweep a.now).capacity = (b.gate.leases.sweep a.now).capacity :=
      congrArg LeaseStore.capacity alike.sweep_eq
    change a.gate.leases.capacity = b.gate.leases.capacity at capacity
    simp only [Gate.canExpire, LeaseStore.canExpire, Gate.leaseDuration, alike.isHealthy_eq,
      alike.default_eq, ← alike.now_eq, alike.sweep_eq, capacity]
  cases e with
  | request r => simp only [canStep, alike.role_eq, lease]
  | call params => exact lease params
  | publish signal healthy => rfl
  | advance d => simp only [canStep, alike.now_eq]

end Alike

/-! ## Steps that hold nothing -/

theorem role_step (s : GateSession) (e : GateEvent) : (s.step e).2.role = s.role := by
  cases e <;> rfl

theorem default_step (s : GateSession) (role : s.role = .gate) (e : GateEvent) :
    (s.step e).2.gate.defaultDuration = s.gate.defaultDuration := by
  cases asked : e.leaseParams? with
  | some params =>
      rw [(step_lease role asked).2]
      exact s.gate.requestLease_default s.now params
  | none =>
      cases e with
      | request r =>
          have other : ¬ r.ReadsRoot := by
            intro root
            simp [GateEvent.leaseParams?, root] at asked
          rw [step_other role other]
      | call params => cases asked
      | publish signal healthy => rfl
      | advance d => rfl

/-- **A step that holds nothing leads to a session like the one before it.** -/
theorem alike_of_holdsNothing {setup : GateSetup} {s : GateSession} {e : GateEvent}
    (role : s.role = .gate) (default : s.gate.defaultDuration = setup.defaultDuration)
    (shown : s.now < clockLimit) (traceless : setup.HoldsNothing (s.observe e)) :
    (s.step e).2.Alike s := by
  cases asked : e.leaseParams? with
  | none =>
      -- only a request for a lease has an outcome
      simp [GateSetup.HoldsNothing, observe, outcome?, asked] at traceless
  | some params =>
      have swept : (s.gate.requestLease s.now params).2.leases.sweep s.now =
          s.gate.leases.sweep s.now := by
        simp only [GateSetup.HoldsNothing, observe, outcome?, asked, Option.map_some,
          Option.some.injEq] at traceless
        rw [Gate.requestLease_outcome] at traceless
        rw [Gate.requestLease_leases]
        cases healthy : s.gate.isHealthy with
        | false => rfl
        | true =>
            simp only [healthy, if_true] at traceless ⊢
            cases granted : (s.gate.leases.acquire s.now (s.gate.leaseDuration params)).1 with
            | false => exact LeaseStore.sweep_denied granted
            | true =>
                simp only [granted, if_true, reduceCtorEq, false_or, true_and] at traceless
                obtain ⟨_, rfl, zero⟩ := traceless
                have nothing : s.gate.leaseDuration params = .zero := by
                  rw [Gate.leaseDuration, default]
                  exact zero
                rw [nothing]
                exact LeaseStore.sweep_acquire_zero _ shown
      rw [(step_lease role asked).2]
      exact ⟨rfl, rfl, Gate.requestLease_default _ _ _, Gate.requestLease_signals _ _ _, swept⟩

/-- A clock that can show what an event asks for can show the instant after it. -/
theorem shown_step {s : GateSession} {e : GateEvent} (shown : s.now < clockLimit)
    (canStep : s.canStep e = true) : (s.step e).2.now < clockLimit := by
  cases e with
  | request r => exact shown
  | call params => exact shown
  | publish signal healthy => exact shown
  | advance d => exact of_decide_eq_true canStep

/-- What is left of a run when steps that hold nothing are taken out is a run from every session like
the first one. -/
theorem steps_thinned {setup : GateSetup} {events : List GateEvent} {kept : List GateStep}
    (alike : a.Alike b) (role : a.role = .gate)
    (default : a.gate.defaultDuration = setup.defaultDuration) (shown : a.now < clockLimit)
    (canRun : a.canRun events = true) (thinned : Thinned setup.HoldsNothing (a.steps events) kept) :
    b.steps (kept.map GateStep.event) = kept ∧ b.canRun (kept.map GateStep.event) = true := by
  induction events generalizing a b kept with
  | nil =>
      cases thinned
      exact ⟨rfl, rfl⟩
  | cons e events ih =>
      simp only [GateSession.canRun, Bool.and_eq_true] at canRun
      obtain ⟨canStep, canRun⟩ := canRun
      have role' : (a.step e).2.role = .gate := (a.role_step e).trans role
      have default' := (a.default_step role e).trans default
      have shown' := shown_step shown canStep
      rw [steps] at thinned
      cases thinned with
      | keep x rest =>
          obtain ⟨same, next⟩ := alike.step role e
          obtain ⟨others, canOthers⟩ := ih next role' default' shown' canRun rest
          have event : (a.observe e).event = e := rfl
          rw [List.map_cons, event, steps, GateSession.canRun, others, ← same, canOthers,
            ← alike.canStep_eq e, canStep]
          exact ⟨rfl, rfl⟩
      | drop traceless rest =>
          have back := alike_of_holdsNothing role default shown traceless
          have onward : (a.step e).2.Alike b := by
            obtain ⟨roles, nows, defaults, signals, sweeps⟩ := back
            refine ⟨roles.trans alike.role_eq, nows.trans alike.now_eq,
              defaults.trans alike.default_eq, signals.trans alike.signals_eq, ?_⟩
            rw [nows] at sweeps ⊢
            exact sweeps.trans alike.sweep_eq
          exact ih onward role' default' shown' canRun rest

/-- **Requests that hold nothing leave no trace.**  Take any run of a gate from its start in which the
clock can show every instant asked for, and take out any of the requests that were denied or were
granted a lease of zero duration.  What is left is a run: from the start, the remaining events alone
are answered with the same status and the same outcome each, with as many live leases after each, and
ask for no instant that the clock cannot show.  The live leases are read after every event; to read
them in between is to advance by nothing. -/
theorem run_without_traceless (setup : GateSetup) (events : List GateEvent) (kept : List GateStep)
    (canRun : setup.start.canRun events = true)
    (thinned : Thinned setup.HoldsNothing (setup.start.steps events) kept) :
    setup.start.steps (kept.map GateStep.event) = kept ∧
      (setup.start.run (kept.map GateStep.event)).1.map
          (fun (answer, active) => (answer.status?, active)) =
        kept.map (fun x => (x.status, x.active)) ∧
      setup.start.canRun (kept.map GateStep.event) = true := by
  have shown : 0 < clockLimit := by decide
  obtain ⟨same, canRest⟩ :=
    steps_thinned (Alike.refl setup.start) rfl rfl shown canRun thinned
  refine ⟨same, ?_, canRest⟩
  rw [← steps_eq_run, same]

/-- A gate with room for one lease, asked before its check passes, for no time at all, for seven
seconds, and twice when it is full: without the first, the second and the last request the others are
answered as before. -/
theorem run_without_traceless_four :
    let setup : GateSetup := ⟨1, .ofSeconds 5, [("nodeload", true)]⟩
    let kept : List GateStep :=
      [⟨.publish 0 true, none, none, 0⟩,
        ⟨.call [("duration", "7")], some 200, some .granted, 1⟩,
        ⟨.advance (.ofSeconds 1), none, none, 1⟩,
        ⟨.call [], some 423, some .locked, 1⟩]
    setup.start.steps (kept.map GateStep.event) = kept := by
  intro setup kept
  let events : List GateEvent :=
    [.call [], .publish 0 true, .call [("duration", "0")], .call [("duration", "7")],
      .advance (.ofSeconds 1), .call [], .call []]
  have canRun : setup.start.canRun events = true := by decide
  have ran : setup.start.steps events =
      [⟨.call [], some 423, some .unhealthy, 0⟩, ⟨.publish 0 true, none, none, 0⟩,
        ⟨.call [("duration", "0")], some 200, some .granted, 0⟩,
        ⟨.call [("duration", "7")], some 200, some .granted, 1⟩,
        ⟨.advance (.ofSeconds 1), none, none, 1⟩, ⟨.call [], some 423, some .locked, 1⟩,
        ⟨.call [], some 423, some .locked, 1⟩] := by decide
  have noTime : setup.duration [("duration", "0")] = .zero := by decide
  have thinned : Thinned setup.HoldsNothing (setup.start.steps events) kept := by
    rw [ran]
    refine .drop (.inr (.inl rfl)) (.keep _ (.drop (.inr (.inr ⟨rfl, _, rfl, noTime⟩)) ?_))
    exact .keep _ (.keep _ (.keep _ (.drop (.inl rfl) .nil)))
  exact (run_without_traceless setup events kept canRun thinned).1

end GateSession

end StartupGate

/-
# StartupGate.Proofs.Gate.Decision -- a gate decides by health and by live leases

Someone who knows how a gate was set up, sees what happens to it and reads the status of
each answer can keep a log: the leases granted so far, the results published so far, and how
many requests were turned away while healthy and while unhealthy (`GateLog`).  The log says
all there is to say about the gate:

* `GateSession.Agrees`: the store tracks the grants of the log, the signals show the last
  published results, and the counters stand at the numbers of the log;
* `GateSession.agrees_step`, `GateSession.agrees_run`: every event keeps this;
* `GateSession.answers_from_health_and_grants`: a request for `/` is answered 200 exactly if
  the last results are all passes and fewer than `capacity` logged leases are unexpired.
-/
import StartupGate.Gate.Session
import StartupGate.Proofs.Lease.Record
import StartupGate.Proofs.Metrics.Samples

set_option autoImplicit false

namespace StartupGate

/-! ## Requests, events and answers -/

namespace Http.Request

/-- A request that reads the exact path `/`. -/
def ReadsRoot (r : Request) : Prop :=
  (Target.read r.target).path = ['/'] ∧ (r.method = "GET" ∨ r.method = "HEAD")

instance (r : Request) : Decidable r.ReadsRoot :=
  inferInstanceAs (Decidable (_ ∧ _))

/-- The parameters in the target of a request. -/
def params (r : Request) : List (String × String) :=
  FormEncoded.decodePairs (Target.read r.target).query

end Http.Request

namespace GateEvent

/-- The parameters with which an event asks for a lease, if it asks for one. -/
def leaseParams? : GateEvent → Option (List (String × String))
  | .request r => if r.ReadsRoot then some r.params else none
  | .call params => some params
  | .publish _ _ => none
  | .advance _ => none

def asks (e : GateEvent) : Bool := e.leaseParams?.isSome

/-- How far an event moves the clock. -/
def elapsed : GateEvent → Nat
  | .advance d => d.nanos
  | _ => 0

/-- How far events in order move the clock. -/
def totalElapsed : List GateEvent → Nat
  | [] => 0
  | e :: rest => e.elapsed + totalElapsed rest

end GateEvent

/-- The status of an answer, if it has one. -/
def GateAnswer.status? : GateAnswer → Option Nat
  | .response r => some r.status
  | .called status _ => some status
  | .published _ _ => none
  | .advanced => none

/-! ## The setup and the log -/

/-- How a gate is set up. -/
structure GateSetup where
  capacity : Nat
  defaultDuration : Duration
  /-- The checks by name, each switched on or off. -/
  checks : List (String × Bool)

namespace GateSetup

/-- The duration of a lease that is asked for with parameters. -/
def duration (setup : GateSetup) (params : List (String × String)) : Duration :=
  (Gate.requestedDuration params).getD setup.defaultDuration

/-- A gate to which nothing has happened yet. -/
def start (setup : GateSetup) : GateSession :=
  ⟨.gate, .new setup.capacity setup.defaultDuration (setup.checks.map fun (name, enabled) =>
    if enabled then .new name else .disabled name), 0⟩

/-- The signals after results were published, the latest first. -/
def signals (setup : GateSetup) (published : List (Nat × Bool)) : List Signal :=
  setup.checks.mapIdx fun i check => ⟨check.1, check.2, (published.lookup i).getD (!check.2)⟩

end GateSetup

/-- What is known of a gate from its events and the status of its answers. -/
structure GateLog where
  now : Instant
  /-- The leases granted, oldest first. -/
  grants : List Grant
  /-- The results published, latest first, each with the number of its signal. -/
  published : List (Nat × Bool)
  /-- How many requests were turned away while healthy. -/
  locked : Nat
  /-- How many requests were turned away while unhealthy. -/
  unhealthy : Nat

namespace GateLog

def empty : GateLog := ⟨0, [], [], 0, 0⟩

/-- Every signal of a check that is switched on has been set, and last to a pass. -/
def Healthy (setup : GateSetup) (log : GateLog) : Prop :=
  ∀ i, (inside : i < setup.checks.length) → setup.checks[i].2 = true →
    log.published.lookup i = some true

instance (setup : GateSetup) (log : GateLog) : Decidable (log.Healthy setup) :=
  inferInstanceAs (Decidable (∀ i, (_ : i < _) → _ → _))

/-- The leases that have not expired. -/
def unexpired (log : GateLog) : List Grant :=
  log.grants.filter fun g => decide (log.now < g.expiry)

/-- How many requests for a lease were answered. -/
def answered (log : GateLog) : Nat := log.grants.length + log.locked + log.unhealthy

/-- Notes the status of the answer to a request for a lease: 200 grants it, 423 turns it away. -/
def noteStatus (setup : GateSetup) (log : GateLog) (params : List (String × String)) :
    Option Nat → GateLog
  | some 200 =>
      { log with grants := log.grants ++ [⟨log.now, Instant.after log.now (setup.duration params)⟩] }
  | some 423 =>
      if log.Healthy setup then { log with locked := log.locked + 1 }
      else { log with unhealthy := log.unhealthy + 1 }
  | _ => log

theorem answered_noteStatus (setup : GateSetup) (log : GateLog) (params : List (String × String))
    {status : Nat} (known : status = 200 ∨ status = 423) :
    (log.noteStatus setup params (some status)).answered = log.answered + 1 := by
  rcases known with rfl | rfl
  · simp only [noteStatus, answered, List.length_append, List.length_singleton]
    omega
  · simp only [noteStatus, answered]
    split
    · show log.grants.length + (log.locked + 1) + log.unhealthy = _
      omega
    · rfl

/-- Notes an event that asks for no lease. -/
def noteEvent (log : GateLog) : GateEvent → GateLog
  | .publish signal healthy => { log with published := (signal, healthy) :: log.published }
  | .advance d => { log with now := log.now + d.nanos }
  | .request _ => log
  | .call _ => log

/-- Notes an event and its answer. -/
def note (setup : GateSetup) (log : GateLog) (e : GateEvent) (a : GateAnswer) : GateLog :=
  match e.leaseParams? with
  | some params => log.noteStatus setup params a.status?
  | none => log.noteEvent e

/-- The log after more events with their answers. -/
def read (setup : GateSetup) : GateLog → List GateEvent → List (GateAnswer × Nat) → GateLog
  | log, e :: events, (a, _) :: answers => read setup (log.note setup e a) events answers
  | log, _, _ => log

end GateLog

/-! ## What the signals show -/

namespace GateSetup

theorem signals_getElem? (setup : GateSetup) (published : List (Nat × Bool)) (i : Nat) :
    (setup.signals published)[i]? = setup.checks[i]?.map fun check =>
      ⟨check.1, check.2, (published.lookup i).getD (!check.2)⟩ :=
  List.getElem?_mapIdx

/-- At the start no signal has been set. -/
theorem signals_nil (setup : GateSetup) : setup.start.gate.signals = setup.signals [] := by
  refine List.ext_getElem? fun i => ?_
  rw [signals_getElem?]
  simp only [start, Gate.new, List.getElem?_map]
  congr 1
  funext ⟨name, enabled⟩
  cases enabled <;> rfl

/-- Publishing a result sets the signal of that number and no other. -/
theorem signals_cons (setup : GateSetup) (published : List (Nat × Bool)) (i : Nat)
    (healthy : Bool) :
    (publishAt (setup.signals published) i healthy).2 =
      setup.signals ((i, healthy) :: published) := by
  refine List.ext_getElem? fun j => ?_
  rw [signals_getElem?, List.lookup_cons]
  by_cases same : j = i
  · subst same
    rw [beq_self_eq_true, publishAt, signals_getElem?]
    cases found : setup.checks[j]? with
    | none => simp [signals_getElem?, found]
    | some check =>
        have inside : j < (setup.signals published).length := by
          rw [signals, List.length_mapIdx]
          exact (List.getElem?_eq_some_iff.mp found).1
        simp [Signal.set, List.getElem?_set_self inside]
  · have other : (j == i) = false := beq_false_of_ne same
    rw [other, publishAt]
    cases (setup.signals published)[i]? with
    -- a result for a number without a signal is dropped
    | none => exact setup.signals_getElem? published j
    | some signal =>
        rw [← setup.signals_getElem? published j]
        exact List.getElem?_set_ne (Ne.symm same)

/-- Overall health is read off the last results. -/
theorem allHealthy_signals (setup : GateSetup) (log : GateLog) :
    allHealthy (setup.signals log.published) = true ↔ log.Healthy setup := by
  rw [allHealthy, List.all_eq_true]
  constructor
  · intro healthy i inside enabled
    have found := setup.signals_getElem? log.published i
    rw [List.getElem?_eq_getElem inside] at found
    have passed := healthy _ (List.mem_of_getElem? found)
    simp only [Signal.isHealthy, enabled, Bool.not_true, Bool.false_or] at passed
    cases last : log.published.lookup i with
    | none => simp [last] at passed
    | some result => simpa [last] using passed
  · intro healthy signal member
    obtain ⟨i, inside, rfl⟩ := List.mem_mapIdx.mp member
    cases enabled : setup.checks[i].2 with
    | false => simp only [Signal.isHealthy, Bool.not_false, Bool.true_or]
    | true =>
        simp only [Signal.isHealthy, healthy i inside enabled, Option.getD_some, Bool.or_true]

end GateSetup

/-! ## What one request does -/

namespace Gate

variable {r : Http.Request}

/-- A request that reads `/` is decided as a request for a lease. -/
theorem respond_root (g : Gate) (now : Instant) (root : r.ReadsRoot) :
    (g.respond .gate now r).1.status = (outcomeAnswer (g.requestLease now r.params).1).1 ∧
      (g.respond .gate now r).2 = (g.requestLease now r.params).2 := by
  obtain ⟨path, method⟩ := root
  have page : Page.ofPath? (Http.Target.read r.target).path = some .main := by
    rw [path]
    rfl
  rw [respond, page]
  rcases method with get | head
  · simp only [get, if_true]
    exact ⟨rfl, rfl⟩
  · simp only [head, if_true]
    exact ⟨rfl, rfl⟩

/-- Any other request leaves the gate as it is. -/
theorem respond_other (g : Gate) (now : Instant) (other : ¬ r.ReadsRoot) :
    (g.respond .gate now r).2 = g := by
  rw [respond]
  by_cases path : (Http.Target.read r.target).path = ['/']
  · have page : Page.ofPath? (Http.Target.read r.target).path = some .main := by
      rw [path]
      rfl
    have notGet : ¬ r.method = "GET" := fun get => other ⟨path, .inl get⟩
    have notHead : ¬ r.method = "HEAD" := fun head => other ⟨path, .inr head⟩
    simp only [page, notGet, notHead, if_false]
  · simp only [Page.ofPath?, path, if_false]
    split
    · rfl
    · rename_i page found
      split at found
      · cases found
        simp only [showPage]
        split
        · rfl
        · split <;> rfl
      · cases found

/-- What a request for a lease does: without health it is only counted, without room it sweeps the
store, and else it takes a lease. -/
theorem requestLease_cases (g : Gate) (now : Instant) (params : List (String × String)) :
    (g.isHealthy = false ∧
      g.requestLease now params = (.unhealthy, g.record .unhealthy)) ∨
    (g.isHealthy = true ∧ ¬ g.leases.active now < g.leases.capacity ∧
      g.requestLease now params =
        (.locked, { g with leases := g.leases.sweep now }.record .locked)) ∨
    (g.isHealthy = true ∧ g.leases.active now < g.leases.capacity ∧
      g.requestLease now params =
        (.granted, { g with leases := ⟨g.leases.capacity, (g.leases.sweep now).expiries ++
          [now.after (g.leaseDuration params)]⟩ }.record .granted)) := by
  rw [requestLease, acquire, LeaseStore.acquire_eq]
  cases healthy : g.isHealthy with
  | false => exact .inl ⟨rfl, rfl⟩
  | true =>
      by_cases room : g.leases.active now < g.leases.capacity
      · refine .inr (.inr ⟨rfl, room, ?_⟩)
        simp only [room, if_true]
      · refine .inr (.inl ⟨rfl, room, ?_⟩)
        simp only [room, if_false, if_true]
        rfl

/-- A request changes nothing about the room that a gate has. -/
theorem respond_capacity (g : Gate) (now : Instant) (r : Http.Request) :
    (g.respond .gate now r).2.leases.capacity = g.leases.capacity := by
  by_cases root : r.ReadsRoot
  · rw [(g.respond_root now root).2]
    rcases g.requestLease_cases now r.params with ⟨-, decided⟩ | ⟨-, -, decided⟩ | ⟨-, -, decided⟩
    all_goals
      rw [decided]
      rfl
  · rw [g.respond_other now root]

/-- As long as thirty years fit the clock, it can show the end of every lease. -/
theorem canExpire_of_farFuture {now : Instant} (fits : now + farFuture.nanos < clockLimit) (g : Gate)
    (params : List (String × String)) : g.canExpire now params = true := by
  simp only [canExpire, LeaseStore.canExpire, Instant.hasAfter_of_farFuture fits, Bool.or_true]

/-- A request for a lease is granted one by a healthy gate with room. -/
theorem status_of_room {g : Gate} {now : Instant} (root : r.ReadsRoot) (healthy : g.isHealthy = true)
    (room : g.leases.active now < g.leases.capacity) : (g.respond .gate now r).1.status = 200 := by
  rw [(g.respond_root now root).1]
  rcases g.requestLease_cases now r.params with ⟨unhealthy, -⟩ | ⟨-, full, -⟩ | ⟨-, -, decided⟩
  · rw [healthy] at unhealthy
    cases unhealthy
  · exact absurd room full
  · rw [decided]
    rfl

end Gate

/-! ## Agreement of a session with a log -/

/-- The counters of a gate stand at the numbers of a log. -/
structure Metrics.Counts (m : Metrics) (log : GateLog) : Prop where
  ordered : m.leaseRequests.Ordered
  granted_eq : m.leaseCount .granted = log.grants.length
  locked_eq : m.leaseCount .locked = log.locked
  unhealthy_eq : m.leaseCount .unhealthy = log.unhealthy

namespace Metrics.Counts

variable {m : Metrics} {log : GateLog}

theorem record_granted (counts : m.Counts log) (g : Grant) :
    (m.recordLease .granted).Counts { log with grants := log.grants ++ [g] } where
  ordered := Samples.ordered_update counts.ordered _ _
  granted_eq := by
    rw [leaseCount_record counts.ordered, counts.granted_eq, List.length_append]
    rfl
  locked_eq := (leaseCount_record counts.ordered _ _).trans counts.locked_eq
  unhealthy_eq := (leaseCount_record counts.ordered _ _).trans counts.unhealthy_eq

theorem record_locked (counts : m.Counts log) :
    (m.recordLease .locked).Counts { log with locked := log.locked + 1 } where
  ordered := Samples.ordered_update counts.ordered _ _
  granted_eq := (leaseCount_record counts.ordered _ _).trans counts.granted_eq
  locked_eq := by
    rw [leaseCount_record counts.ordered, counts.locked_eq]
    rfl
  unhealthy_eq := (leaseCount_record counts.ordered _ _).trans counts.unhealthy_eq

theorem record_unhealthy (counts : m.Counts log) :
    (m.recordLease .unhealthy).Counts { log with unhealthy := log.unhealthy + 1 } where
  ordered := Samples.ordered_update counts.ordered _ _
  granted_eq := (leaseCount_record counts.ordered _ _).trans counts.granted_eq
  locked_eq := (leaseCount_record counts.ordered _ _).trans counts.locked_eq
  unhealthy_eq := by
    rw [leaseCount_record counts.ordered, counts.unhealthy_eq]
    rfl

end Metrics.Counts

/-- A session is as its log says. -/
structure GateSession.Agrees (setup : GateSetup) (s : GateSession) (log : GateLog) : Prop where
  role_eq : s.role = .gate
  now_eq : s.now = log.now
  default_eq : s.gate.defaultDuration = setup.defaultDuration
  tracks : s.gate.leases.Tracks ⟨setup.capacity, log.grants⟩ s.now
  signals_eq : s.gate.signals = setup.signals log.published
  counts : s.gate.metrics.Counts log

namespace GateSession

variable {setup : GateSetup} {s : GateSession} {log : GateLog}

theorem agrees_start (setup : GateSetup) : setup.start.Agrees setup .empty where
  role_eq := rfl
  now_eq := rfl
  default_eq := rfl
  tracks := LeaseStore.tracks_new setup.capacity 0
  signals_eq := setup.signals_nil
  counts := ⟨Samples.ordered_nil, rfl, rfl, rfl⟩

namespace Agrees

theorem healthy_iff (agrees : s.Agrees setup log) :
    s.gate.isHealthy = true ↔ log.Healthy setup := by
  rw [Gate.isHealthy, agrees.signals_eq]
  exact setup.allHealthy_signals log

theorem room_iff (agrees : s.Agrees setup log) :
    s.gate.leases.active s.now < s.gate.leases.capacity ↔
      log.unexpired.length < setup.capacity := by
  rw [agrees.tracks.active_eq, agrees.tracks.capacity_eq, GateLog.unexpired, ← agrees.now_eq]
  rfl

/-- A request for a lease is answered as the log says. -/
theorem status_eq (agrees : s.Agrees setup log) (params : List (String × String)) :
    (Gate.outcomeAnswer (s.gate.requestLease s.now params).1).1 =
      if log.Healthy setup ∧ log.unexpired.length < setup.capacity then 200 else 423 := by
  simp only [← agrees.healthy_iff, ← agrees.room_iff]
  rcases s.gate.requestLease_cases s.now params with
    ⟨sick, decided⟩ | ⟨healthy, full, decided⟩ | ⟨healthy, room, decided⟩
  · simp only [decided, sick, Bool.false_eq_true, false_and, if_false]
    rfl
  · simp only [decided, full, and_false, if_false]
    rfl
  · simp only [decided, healthy, room, and_self, if_true]
    rfl

/-- A request for a lease leads to what its answer adds to the log. -/
theorem requestLease (agrees : s.Agrees setup log) (params : List (String × String)) :
    ({ s with gate := (s.gate.requestLease s.now params).2 } : GateSession).Agrees setup
      (log.noteStatus setup params
        (some (Gate.outcomeAnswer (s.gate.requestLease s.now params).1).1)) := by
  rcases s.gate.requestLease_cases s.now params with
    ⟨sick, decided⟩ | ⟨healthy, full, decided⟩ | ⟨healthy, room, decided⟩
  -- both refusals are answered 423; the log tells them apart by the last results
  · have known : ¬ log.Healthy setup := by
      rw [← agrees.healthy_iff, sick]
      exact Bool.false_ne_true
    simp only [decided, Gate.outcomeAnswer, GateLog.noteStatus, known, if_false]
    exact ⟨agrees.role_eq, agrees.now_eq, agrees.default_eq, agrees.tracks, agrees.signals_eq,
      agrees.counts.record_unhealthy⟩
  · have known : log.Healthy setup := agrees.healthy_iff.mp healthy
    simp only [decided, Gate.outcomeAnswer, GateLog.noteStatus, known, if_true]
    exact ⟨agrees.role_eq, agrees.now_eq, agrees.default_eq, agrees.tracks.sweep,
      agrees.signals_eq, agrees.counts.record_locked⟩
  · simp only [decided, Gate.outcomeAnswer, GateLog.noteStatus]
    refine ⟨agrees.role_eq, agrees.now_eq, agrees.default_eq, ?_, agrees.signals_eq,
      agrees.counts.record_granted _⟩
    have kept := agrees.tracks.grant room (Instant.after s.now (s.gate.leaseDuration params))
    rw [GateSetup.duration, ← agrees.default_eq, ← agrees.now_eq]
    exact kept

end Agrees

/-! ## A run -/

/-- An event that asks for a lease is a request for one. -/
theorem step_lease {e : GateEvent} {params : List (String × String)} (role : s.role = .gate)
    (asks : e.leaseParams? = some params) :
    (s.step e).1.status? = some (Gate.outcomeAnswer (s.gate.requestLease s.now params).1).1 ∧
      (s.step e).2 = { s with gate := (s.gate.requestLease s.now params).2 } := by
  cases e with
  | request r =>
      simp only [GateEvent.leaseParams?, Option.ite_none_right_eq_some, Option.some.injEq] at asks
      obtain ⟨root, rfl⟩ := asks
      obtain ⟨status, gate⟩ := s.gate.respond_root s.now root
      simp only [step, role, GateAnswer.status?, status, gate, and_self]
  | call asked =>
      cases asks
      exact ⟨rfl, rfl⟩
  | publish signal healthy => cases asks
  | advance d => cases asks

/-- A request that does not read `/` leaves the session as it is. -/
theorem step_other {r : Http.Request} (role : s.role = .gate) (other : ¬ r.ReadsRoot) :
    (s.step (.request r)).2 = s := by
  simp only [step, role, s.gate.respond_other s.now other]
  rw [← role]

/-- HEAD does all that GET does. -/
theorem step_head (s : GateSession) (target : String) :
    (s.step (.request ⟨"HEAD", target⟩)).2 = (s.step (.request ⟨"GET", target⟩)).2 := by
  simp only [step, Gate.respond]
  cases Gate.Page.ofPath? (Http.Target.read target).path with
  | none => rfl
  | some page => rfl

/-- **Every event leads to what it and its answer add to the log.** -/
theorem agrees_step (agrees : s.Agrees setup log) (e : GateEvent) :
    (s.step e).2.Agrees setup (log.note setup e (s.step e).1) := by
  unfold GateLog.note
  cases asked : e.leaseParams? with
  | some params =>
      obtain ⟨status, next⟩ := step_lease agrees.role_eq asked
      rw [status, next]
      exact agrees.requestLease params
  | none =>
      cases e with
      | request r =>
          have other : ¬ r.ReadsRoot := by
            intro root
            simp [GateEvent.leaseParams?, root] at asked
          rw [step_other agrees.role_eq other]
          exact agrees
      | call params => cases asked
      | publish signal healthy =>
          obtain ⟨ordered, granted, locked, unhealthy⟩ := agrees.counts
          refine ⟨agrees.role_eq, agrees.now_eq, agrees.default_eq, agrees.tracks, ?_,
            ordered, granted, locked, unhealthy⟩
          show (publishAt s.gate.signals signal healthy).2 =
            setup.signals ((signal, healthy) :: log.published)
          rw [agrees.signals_eq, setup.signals_cons]
      | advance d =>
          obtain ⟨ordered, granted, locked, unhealthy⟩ := agrees.counts
          have order : s.now ≤ s.now + d.nanos := Nat.le_add_right _ _
          refine ⟨agrees.role_eq, ?_, agrees.default_eq, agrees.tracks.later order,
            agrees.signals_eq, ordered, granted, locked, unhealthy⟩
          show s.now + d.nanos = log.now + d.nanos
          rw [agrees.now_eq]

/-- After an event one more request is answered if the event asks for a lease, and else as many. -/
theorem answered_step (agrees : s.Agrees setup log) (e : GateEvent) :
    (log.note setup e (s.step e).1).answered = log.answered + if e.asks then 1 else 0 := by
  unfold GateLog.note GateEvent.asks
  cases asked : e.leaseParams? with
  | some params =>
      rw [(step_lease agrees.role_eq asked).1, agrees.status_eq]
      apply GateLog.answered_noteStatus
      split
      · exact .inl rfl
      · exact .inr rfl
  | none => cases e <;> rfl

/-- **Along a run a session stays as its log says.** -/
theorem agrees_run (agrees : s.Agrees setup log) (events : List GateEvent) :
    (s.run events).2.Agrees setup (log.read setup events (s.run events).1) := by
  induction events generalizing s log with
  | nil => exact agrees
  | cons e events ih => exact ih (agrees_step agrees e)

theorem answered_run (agrees : s.Agrees setup log) (events : List GateEvent) :
    (log.read setup events (s.run events).1).answered =
      log.answered + (events.filter GateEvent.asks).length := by
  induction events generalizing s log with
  | nil => rfl
  | cons e events ih =>
      have later := ih (agrees_step agrees e)
      rw [answered_step agrees e] at later
      refine later.trans ?_
      rw [List.filter_cons]
      by_cases asks : e.asks = true
      · simp only [asks, if_true, List.length_cons]
        omega
      · simp only [asks, if_false, Nat.add_zero, Bool.false_eq_true]

theorem run_append (s : GateSession) (before rest : List GateEvent) :
    s.run (before ++ rest) =
      ((s.run before).1 ++ ((s.run before).2.run rest).1, ((s.run before).2.run rest).2) := by
  induction before generalizing s with
  | nil => rfl
  | cons e before ih => simp only [List.cons_append, run, ih]

theorem step_now (s : GateSession) (e : GateEvent) : (s.step e).2.now = s.now + e.elapsed := by
  cases e <;> rfl

/-- A run that stays thirty years below the clock's limit asks for nothing the clock cannot show. -/
theorem canRun_of_elapsed (s : GateSession) (events : List GateEvent)
    (fits : s.now + GateEvent.totalElapsed events + farFuture.nanos < clockLimit) :
    s.canRun events = true := by
  induction events generalizing s with
  | nil => rfl
  | cons e events ih =>
      obtain ⟨room, moved, later⟩ := Instant.fits_of_spans fits
      have lease := Gate.canExpire_of_farFuture room s.gate
      have first : s.canStep e = true := by
        cases e with
        | request r =>
            simp only [canStep]
            split
            · exact lease _
            · rfl
        | call params => exact lease params
        | publish signal healthy => rfl
        | advance d => exact decide_eq_true moved
      have others : (s.step e).2.canRun events = true := by
        apply ih
        rw [step_now]
        exact later
      simp only [canRun, first, others, Bool.and_true]

/-! ## What the answers say -/

/-- **A gate decides by health and by live leases, and counts every decision.**  Take any point of a
run, and the log of what happened before.  A GET or HEAD request for `/` there is answered 200 if
every signal of a check that is on was last set to a pass and fewer than `capacity` of the leases
granted are unexpired, and 423 otherwise.  HEAD leads to where GET leads, and any other request
changes nothing.  The counters stand at the answers of each kind, and together at the number of
requests for a lease.  The run goes on from there, and as long as thirty years fit the clock it is
not refused. -/
theorem answers_from_health_and_grants (setup : GateSetup) (before : List GateEvent) :
    let start := setup.start
    let s := (start.run before).2
    let log := GateLog.empty.read setup before (start.run before).1
    let count := s.gate.metrics.leaseCount
    (∀ r : Http.Request, r.ReadsRoot → (s.step (.request r)).1.status? =
        some (if log.Healthy setup ∧ log.unexpired.length < setup.capacity then 200 else 423)) ∧
      (∀ target, (s.step (.request ⟨"HEAD", target⟩)).2 = (s.step (.request ⟨"GET", target⟩)).2) ∧
      (∀ r : Http.Request, ¬ r.ReadsRoot → (s.step (.request r)).2 = s) ∧
      count .granted = log.grants.length ∧
      count .locked = log.locked ∧
      count .unhealthy = log.unhealthy ∧
      count .granted + count .locked + count .unhealthy =
        (before.filter GateEvent.asks).length ∧
      (∀ rest, start.run (before ++ rest) =
        ((start.run before).1 ++ (s.run rest).1, (s.run rest).2)) ∧
      (GateEvent.totalElapsed before + farFuture.nanos < clockLimit →
        start.answers before = .ok (start.run before)) := by
  intro start s log count
  have agrees : s.Agrees setup log := agrees_run (agrees_start setup) before
  obtain ⟨-, granted, locked, unhealthy⟩ := agrees.counts
  refine ⟨fun r root => ?_, step_head s,
    fun r other => step_other agrees.role_eq other, granted, locked, unhealthy, ?_,
    run_append start before, fun fits => ?_⟩
  · have asks : (GateEvent.request r).leaseParams? = some r.params := if_pos root
    rw [(step_lease agrees.role_eq asks).1, agrees.status_eq]
  · have total := answered_run (agrees_start setup) before
    rw [show GateLog.empty.answered = 0 from rfl, Nat.zero_add] at total
    have sum : count .granted + count .locked + count .unhealthy = log.answered := by
      show s.gate.metrics.leaseCount .granted + s.gate.metrics.leaseCount .locked +
        s.gate.metrics.leaseCount .unhealthy = log.answered
      rw [granted, locked, unhealthy]
      rfl
    exact sum.trans total
  · have canRun : start.canRun before = true := by
      apply canRun_of_elapsed
      rw [show start.now = 0 from rfl, Nat.zero_add]
      exact fits
    simp only [answers, canRun, if_true]

end GateSession

end StartupGate

/-
# StartupGate.Proofs.Health.Plan -- a plan never shows health that no check has found

A configuration that passes its rules leads to an error, with no loop started, or to a plan with a
place for each of the three checks.  The signals that overall health is made of and the loops of
the checks are written down apart from each other; they belong together place by place
(`HealthPlan.Fits`), and a loop publishes to the signal of its own place.

* `HealthPlan.fits_of_build`: every plan fits its configuration, whatever the cluster answers.
* `Cluster.Api.isAnswer_of_read`: a read comes to an end, with the standard policy and a cluster that
  answers or a shutdown that comes.
* `HealthPlan.Fits.exists_shownAfter`: however the loops go on, the node is healthy if and only if
  each check that is configured has ended a run and passed the last one.
* `Server.linked_handle`: the gate shows what the loops have published.
* `HealthPlan.build_fails_closed`: all of this, from the configuration on.
-/
import StartupGate.Proofs.Cluster.Reads
import StartupGate.Proofs.Gate.Traceless
import StartupGate.Proofs.Health.Pacing
import StartupGate.Proofs.Json.Parser
import StartupGate.Proofs.Retry.Backoff
import StartupGate.Proofs.Retry.Cancellation
import StartupGate.Proofs.Settings.Validation
import StartupGate.Service

set_option autoImplicit false

namespace StartupGate

open StartupGate.Settings (CheckSettings ConfigError)
open StartupGate.Retry (Policy Retried)

/-! ## Reads that come to an end -/

namespace Cluster

/-- What a read fails for is said by the cluster or by the shutdown: the process neither waits for ever
nor lacks a delay. -/
def Error.IsAnswer (e : Error) : Prop := e ≠ .endless ∧ ∀ cause, e ≠ .noDelay cause

theorem Error.isAnswer_api (failure : Retry.Failure ApiFailure) : (Error.api failure).IsAnswer :=
  ⟨Error.noConfusion, fun _ => Error.noConfusion⟩

namespace Api

variable {α : Type} {c : Client} {answers : Answers}

theorem attempts_ne_hangs {request : Option String} {decode : Decoder α} {k : Nat}
    (answered : answers k ≠ .silent) : attempts request answers decode k ≠ .hangs := by
  cases request with
  | none => simp [attempts]
  | some t =>
      cases answer : answers k with
      | answered status body => simp [attempts, answer, Answer.attempt]
      | failed reason => simp [attempts, answer, Answer.attempt]
      | silent => exact absurd answer answered

/-- **A read comes to an end**, with the standard policy. -/
theorem isAnswer_of_read (policy : c.policy = .standard)
    (drawn : ∀ k, Policy.standard.Draws (c.shares k))
    (answered : c.shutdown.isSome ∨ ∀ k, answers k ≠ .silent) {r : Read} {decode : Decoder α}
    {cause : Error} (fails : (read c r answers decode).result = .error cause) : cause.IsAnswer := by
  let o : Retried ApiFailure α := ⟨c.policy, c.shares, attempts (requestTarget? r) answers decode⟩
  have result : resultOf (o.run c.shutdown) = .error cause := fails
  have notForEver : (o.run c.shutdown).outcome ≠ .endless := by
    refine Retried.run_ne_endless (answered.imp_right fun all k => ?_)
    exact attempts_ne_hangs (all k)
  have delays : ∀ k, k + 1 < o.policy.budget → ∃ d, o.delay k = .ok d := by
    intro k spare
    simp only [o, Retried.delay, policy] at spare ⊢
    exact Policy.exists_delay_standard spare (drawn (k + 1))
  rw [resultOf] at result
  cases ends : (o.run c.shutdown).outcome with
  | done value =>
      rw [ends] at result
      cases result
  | exhausted attempts last =>
      rw [ends] at result
      cases result
      exact Error.isAnswer_api _
  | cancelled attempts =>
      rw [ends] at result
      cases result
      exact Error.isAnswer_api _
  | noDelay lacks => exact absurd ends (Retried.run_ne_noDelay delays lacks)
  | endless => exact absurd ends notForEver

end Api

end Cluster

/-! ## What a valid configuration has -/

namespace Settings.CheckSettings

variable {c : CheckSettings}

/-- A check waits for at least a second after each of its runs. -/
theorem Safe.secondsLong (safe : c.Safe) :
    c.endpointPeriods.SecondsLong ∧ c.daemonSetPeriods.SecondsLong ∧ c.nodeLoadPeriods.SecondsLong :=
  have long {n : Nat} (some' : n ≠ 0) := Duration.nanosPerSecond_le_ofSeconds some'
  ⟨⟨long safe.endpointPassPeriod, long safe.endpointFailPeriod⟩,
    ⟨long safe.daemonSetPassPeriod, long safe.daemonSetFailPeriod⟩,
    ⟨long safe.nodeLoadPassPeriod, long safe.nodeLoadFailPeriod⟩⟩

end Settings.CheckSettings

/-! ## Plans -/

namespace HealthPlan

variable {plan : HealthPlan} {c : CheckSettings} {b : Behaviours}

/-- The three checks in order, each configured or not. -/
def configured (c : CheckSettings) : List (String × Bool) :=
  [(EndpointCheck.name, c.endpointCheckEnabled), (DaemonSetCheck.name, c.daemonSetCheck),
    (NodeLoadCheck.name, c.nodeLoadCheck)]

/-- The periods of the check in a place. -/
def periodsAt (c : CheckSettings) : Nat → Periods
  | 0 => c.endpointPeriods
  | 1 => c.daemonSetPeriods
  | _ => c.nodeLoadPeriods

/-- What the runs of the check in a place do. -/
def Behaviours.at (b : Behaviours) : Nat → Behaviour
  | 0 => b.endpoints
  | 1 => b.daemonSets
  | _ => b.nodeLoad

/-- A place holds a check with given periods if the check is configured, and nothing otherwise. -/
def Holds {α : Type} (place : Option (Planned α)) (enabled : Bool) (periods : Periods) : Prop :=
  place.map Planned.periods = if enabled then some periods else none

/-- Each place of a plan holds its check if that is configured. -/
structure Fits (plan : HealthPlan) (c : CheckSettings) : Prop where
  endpoints : Holds plan.endpoints c.endpointCheckEnabled c.endpointPeriods
  daemonSets : Holds plan.daemonSets c.daemonSetCheck c.daemonSetPeriods
  nodeLoad : Holds plan.nodeLoad c.nodeLoadCheck c.nodeLoadPeriods

theorem holds_planEndpoints (c : CheckSettings) :
    Holds (planEndpoints c) c.endpointCheckEnabled c.endpointPeriods := by
  rw [Holds, planEndpoints]
  split <;> rfl

theorem fits_of_ofNode {nodeName : String} {node : Cluster.Node}
    (ok : ofNode c nodeName node = .ok plan) : plan.Fits c := by
  rw [ofNode] at ok
  split at ok
  · cases ok
  · next nodeLoad found =>
      cases ok
      refine ⟨holds_planEndpoints c, ?_, ?_⟩
      · rw [Holds, planDaemonSets]
        split <;> rfl
      · rw [planNodeLoad] at found
        rw [Holds]
        split at found
        · next on =>
            split at found
            · cases found
            · cases found
              rw [if_pos on]
              rfl
        · next off =>
            cases found
            rw [if_neg off]
            rfl

/-- Without checks of the cluster there is a plan, and nothing is sent. -/
theorem build_local (cluster : Option Access) (off : c.clusterChecksEnabled = false) :
    build cluster c = ⟨.ok ⟨planEndpoints c, none, none⟩, []⟩ := by
  rw [build.eq_def, off, if_neg Bool.false_ne_true]

theorem build_of_node (access : Access) {name : String} {node : Cluster.Node}
    (on : c.clusterChecksEnabled = true) (named : c.effectiveNodeName? = some name)
    (read : (Cluster.Api.node access.client name (access.answers (.node name))).result = .ok node) :
    (build (some access) c).result = ofNode c name node ∧
      (build (some access) c).sent =
        (Cluster.Api.node access.client name (access.answers (.node name))).sent := by
  simp only [build, if_pos on, named, read, and_self]

/-- How building a plan may end, one case for each point where it does. -/
inductive Built (cluster : Option Access) (c : CheckSettings) : Except PlanError HealthPlan → Prop where
  | locally : c.clusterChecksEnabled = false → Built cluster c (.ok ⟨planEndpoints c, none, none⟩)
  | unnamed : c.clusterChecksEnabled = true → c.effectiveNodeName? = none →
      Built cluster c (.error .noNodeName)
  | noCluster : cluster = none → Built cluster c (.error .noCluster)
  | unreadable {nodeName : String} {access : Access} {cause : Cluster.Error} :
      cluster = some access →
      (Cluster.Api.node access.client nodeName (access.answers (.node nodeName))).result =
        .error cause →
      Built cluster c (.error (.unreadableNode nodeName cause))
  | noCapacity (cause : Cluster.Error) : Built cluster c (.error (.nodeLoad cause))
  | planned {nodeName : String} {node : Cluster.Node} {plan : HealthPlan} :
      ofNode c nodeName node = .ok plan → Built cluster c (.ok plan)

theorem built_ofNode (cluster : Option Access) (c : CheckSettings) (nodeName : String)
    (node : Cluster.Node) : Built cluster c (ofNode c nodeName node) := by
  cases ends : ofNode c nodeName node with
  | ok plan => exact .planned ends
  | error cause =>
      rw [ofNode] at ends
      split at ends
      · cases ends
        exact .noCapacity _
      · cases ends

theorem built_build (cluster : Option Access) (c : CheckSettings) :
    Built cluster c (build cluster c).result := by
  cases on : c.clusterChecksEnabled with
  | false =>
      rw [build_local cluster on]
      exact .locally on
  | true =>
      rw [build.eq_def, on, if_pos rfl]
      cases named : c.effectiveNodeName? with
      | none => exact .unnamed on named
      | some nodeName =>
          cases given : cluster with
          | none => exact .noCluster rfl
          | some access =>
              cases read : (Cluster.Api.node access.client nodeName
                  (access.answers (.node nodeName))).result with
              | error cause =>
                  simp only [read]
                  exact .unreadable rfl read
              | ok node =>
                  simp only [read]
                  exact built_ofNode _ c nodeName node

/-- **A plan fits its configuration**, whatever the cluster answers. -/
theorem fits_of_build {cluster : Option Access} (ok : (build cluster c).result = .ok plan) :
    plan.Fits c := by
  have built := built_build cluster c
  rw [ok] at built
  cases built with
  | planned made => exact fits_of_ofNode made
  | locally off =>
      obtain ⟨noDaemonSet, noNodeLoad⟩ := (Bool.or_eq_false_iff).mp off
      refine ⟨holds_planEndpoints c, ?_, ?_⟩
      · rw [Holds, noDaemonSet]
        rfl
      · rw [Holds, noNodeLoad]
        rfl

/-! ## The loop of a place -/

section Place

variable {α : Type} {name : String} {place : Option (Planned α)} {enabled : Bool} {periods : Periods}
  {behaviour : Behaviour}

/-- A loop begins with the signal of its place. -/
theorem loopOf_signal (name : String) (place : Option (Planned α)) (behaviour : Behaviour) :
    (loopOf name place behaviour).signal = signalOf name place := by
  cases place <;> rfl

theorem loopOf_due (name : String) (place : Option (Planned α)) (behaviour : Behaviour) :
    (loopOf name place behaviour).due?.isSome = (loopOf name place behaviour).signal.enabled := by
  cases place <;> rfl

theorem loopOf_hasRun (name : String) (place : Option (Planned α)) (behaviour : Behaviour) :
    (loopOf name place behaviour).HasRun 0 := by
  cases place <;> rfl

theorem Holds.signalOf_eq (holds : Holds place enabled periods) :
    signalOf name place = if enabled then .new name else .disabled name := by
  cases place <;> cases enabled <;> cases holds <;> rfl

/-- The loop of a check that is configured polls it; for any other there is none. -/
theorem Holds.loopOf_eq (holds : Holds place enabled periods) :
    loopOf name place behaviour = if enabled then .new name periods behaviour else .disabled name := by
  cases place <;> cases enabled <;> cases holds <;> rfl

theorem Holds.getsPast (holds : Holds place enabled periods) (long : periods.SecondsLong)
    (h : Millis) :
    (loopOf name place behaviour).GetsPast h := by
  rw [holds.loopOf_eq]
  cases enabled with
  | false => exact ⟨0, Evaluator.quiet_of_ended rfl h⟩
  | true =>
      let check : PolledCheck := ⟨name, periods, behaviour⟩
      have second : 0 < Duration.nanosPerSecond := by decide
      have pass : 0 < periods.onPass.nanos := Nat.lt_of_lt_of_le second long.onPass
      have fail : 0 < periods.onFail.nanos := Nat.lt_of_lt_of_le second long.onFail
      have past : h < check.start (h + 1) := PolledCheck.le_start pass fail (h + 1)
      exact check.loop_getsPast ⟨h + 1, past⟩

theorem Holds.paced (holds : Holds place enabled periods) (long : periods.SecondsLong) :
    (loopOf name place behaviour).Paced := by
  rw [holds.loopOf_eq]
  cases enabled with
  | false => exact Evaluator.paced_disabled name
  | true => exact Evaluator.paced_new name long behaviour

end Place

/-! ## The signals and loops of a plan -/

/-- The configured checks as they are set up in a gate. -/
def setup (c : CheckSettings) : GateSetup := ⟨0, .zero, configured c⟩

namespace Fits

variable (fits : plan.Fits c)

include fits

/-- The signals are those of the configured checks, before any result is published. -/
theorem signals_eq : plan.signals = (setup c).signals [] := by
  rw [signals, fits.endpoints.signalOf_eq, fits.daemonSets.signalOf_eq, fits.nodeLoad.signalOf_eq,
    ← GateSetup.signals_nil]
  rfl

theorem map_signals : plan.signals.map (fun s => (s.name, s.enabled)) = configured c := by
  rw [fits.signals_eq]
  rfl

theorem neverStuck (valid : c.validate = .ok ()) (b : Behaviours) : (plan.start b).NeverStuck := by
  obtain ⟨endpoints, daemonSets, nodeLoad⟩ := (CheckSettings.validate_eq_ok_iff.mp valid).secondsLong
  intro e member h
  simp only [start, Evaluators.new, loops, List.mem_cons, List.not_mem_nil, or_false] at member
  rcases member with rfl | rfl | rfl
  · exact fits.endpoints.getsPast endpoints h
  · exact fits.daemonSets.getsPast daemonSets h
  · exact fits.nodeLoad.getsPast nodeLoad h

/-- The loops of a safe configuration begin with their runs a second apart. -/
theorem paced (safe : c.Safe) (b : Behaviours) : ∀ e ∈ (plan.start b).loops, e.Paced := by
  obtain ⟨endpoints, daemonSets, nodeLoad⟩ := safe.secondsLong
  intro e member
  simp only [start, Evaluators.new, loops, List.mem_cons, List.not_mem_nil, or_false] at member
  rcases member with rfl | rfl | rfl
  · exact fits.endpoints.paced endpoints
  · exact fits.daemonSets.paced daemonSets
  · exact fits.nodeLoad.paced nodeLoad

/-- Each place has the loop of its check, or none. -/
theorem loops_getElem? (b : Behaviours) (i : Nat) :
    (plan.start b).loops[i]? = (configured c)[i]?.map fun check =>
      if check.2 then .new check.1 (periodsAt c i) (b.at i) else .disabled check.1 := by
  rw [start, Evaluators.new, loops, fits.endpoints.loopOf_eq, fits.daemonSets.loopOf_eq,
    fits.nodeLoad.loopOf_eq]
  rcases i with _ | _ | _ | i <;> rfl

end Fits

/-- The loops begin with the signals that overall health is made of. -/
theorem signals_start (plan : HealthPlan) (b : Behaviours) :
    (plan.start b).signals = plan.signals := by
  simp only [Evaluators.signals, start, Evaluators.new, loops, signals, loopOf_signal, List.map_cons,
    List.map_nil]

/-- The loops that there are begin with the enabled signals, in their order. -/
theorem signals_due (plan : HealthPlan) (b : Behaviours) :
    ((plan.start b).loops.filter (·.due?.isSome)).map Evaluator.signal =
      plan.signals.filter (·.enabled) := by
  have polled : ∀ e ∈ (plan.start b).loops, e.due?.isSome = e.signal.enabled := by
    intro e member
    simp only [start, Evaluators.new, loops, List.mem_cons, List.not_mem_nil, or_false] at member
    rcases member with rfl | rfl | rfl <;> exact loopOf_due _ _ _
  rw [← plan.signals_start b, Evaluators.signals, List.filter_map, List.filter_congr polled]
  rfl

theorem hasRun_start {plan : HealthPlan} {b : Behaviours} {e : Evaluator}
    (member : e ∈ (plan.start b).loops) : e.HasRun 0 := by
  simp only [start, Evaluators.new, loops, List.mem_cons, List.not_mem_nil, or_false] at member
  rcases member with rfl | rfl | rfl <;> exact loopOf_hasRun _ _ _

/-! ## What the loops of a plan come to -/

/-- The result that was published last is the first of those of its loop. -/
theorem lookup_eq_head? (published : List (Nat × Bool)) (i : Nat) :
    published.lookup i = (published.filter (·.1 = i)).head?.map Prod.snd := by
  induction published with
  | nil => rfl
  | cons result earlier ih =>
      obtain ⟨j, healthy⟩ := result
      rw [List.lookup_cons]
      by_cases own : i = j
      · simp [own]
      · simp [beq_false_of_ne own, Ne.symm own, ih]

/-- Where results have been published to the signals of a setup one after the other, the latest first. -/
theorem foldr_publishAt (setup : GateSetup) (published : List (Nat × Bool)) :
    published.foldr (fun (i, healthy) shown => (publishAt shown i healthy).2) (setup.signals []) =
      setup.signals published := by
  induction published with
  | nil => rfl
  | cons result earlier ih =>
      rw [List.foldr_cons, ih]
      exact setup.signals_cons earlier result.1 result.2

/-- What a course of the loops has come to, with `ended` runs in each place. -/
structure ShownAfter (plan : HealthPlan) (c : CheckSettings) (b : Behaviours)
    (published : List (Nat × Bool)) (last : Evaluators) (ended : Nat → Nat) : Prop where
  /-- Each published result went to the signal of its loop, and nothing else did. -/
  signals : last.signals =
    published.foldr (fun (i, healthy) shown => (publishAt shown i healthy).2) plan.signals
  /-- The results of a configured check are those of its runs that have ended. -/
  runs : ∀ (i : Nat) (name : String), (configured c)[i]? = some (name, true) →
    (∃ e, last.loops[i]? = some e ∧ e.HasRun (ended i)) ∧
      published.filter (·.1 = i) =
        ((List.range (ended i)).map fun k => (i, (b.at i k).healthy)).reverse
  /-- There is no loop for any other check. -/
  off : ∀ (i : Nat) (name : String), (configured c)[i]? = some (name, false) →
    last.loops[i]? = some (Evaluator.disabled name)
  /-- The node is healthy if and only if each configured check has ended a run and passed the last one. -/
  healthy : allHealthy last.signals = true ↔
    ∀ (i : Nat) (name : String), (configured c)[i]? = some (name, true) →
      ∃ k, ended i = k + 1 ∧ (b.at i k).healthy = true

/-- **In whatever order the loops go on, no health is shown that the checks have not found.** -/
theorem Fits.exists_shownAfter (fits : plan.Fits c) {published : List (Nat × Bool)}
    {last : Evaluators} (reaches : Evaluators.Reaches (plan.start b) published last) :
    ∃ ended, plan.ShownAfter c b published last ended := by
  have signals := reaches.signals_eq
  rw [signals_start] at signals
  -- of a configured check, the runs that have ended are its published results
  have runs : ∀ i, ∃ n, ∀ name, (configured c)[i]? = some (name, true) →
      (∃ e, last.loops[i]? = some e ∧ e.HasRun n) ∧
        published.filter (·.1 = i) =
          ((List.range n).map fun k => (i, (b.at i k).healthy)).reverse := by
    intro i
    by_cases on : ∃ name, (configured c)[i]? = some (name, true)
    · obtain ⟨name, here⟩ := on
      have found : (plan.start b).loops[i]? = some (.new name (periodsAt c i) (b.at i)) := by
        rw [fits.loops_getElem? b i, here]
        rfl
      obtain ⟨e, n, there, -, hasRun, results⟩ :=
        reaches.hasRun found (hasRun_start (List.mem_of_getElem? found))
      exact ⟨n, fun _ _ => ⟨⟨e, there, hasRun⟩, results⟩⟩
    · exact ⟨0, fun name here => absurd ⟨name, here⟩ on⟩
  choose ended runs using runs
  have latest : ∀ i name, (configured c)[i]? = some (name, true) →
      (published.lookup i = some true ↔ ∃ k, ended i = k + 1 ∧ (b.at i k).healthy = true) := by
    intro i name here
    rw [lookup_eq_head?, (runs i name here).2]
    cases ended i with
    | zero => simp
    | succ n => simp [List.range_succ]
  refine ⟨ended, signals, runs, ?_, ?_⟩
  · intro i name here
    refine reaches.ended ?_ rfl
    rw [fits.loops_getElem? b i, here]
    rfl
  · rw [signals, fits.signals_eq, foldr_publishAt]
    refine ((setup c).allHealthy_signals { GateLog.empty with published }).trans ⟨?_, ?_⟩
    · intro healthy i name here
      obtain ⟨inside, value⟩ := List.getElem?_eq_some_iff.mp here
      exact (latest i name here).mp (healthy i inside (congrArg Prod.snd value))
    · intro healthy i inside enabled
      have here : (configured c)[i]? = some ((configured c)[i].1, true) :=
        (List.getElem?_eq_getElem inside).trans (congrArg some (Prod.ext rfl enabled))
      exact (latest i _ here).mpr (healthy i _ here)

/-- As long as a configured check has no result, the node is unhealthy. -/
theorem ShownAfter.unhealthy {published : List (Nat × Bool)} {last : Evaluators} {ended : Nat → Nat}
    (shown : plan.ShownAfter c b published last ended) {i : Nat} {name : String}
    (here : (configured c)[i]? = some (name, true)) (noResult : published.filter (·.1 = i) = []) :
    allHealthy last.signals = false := by
  rw [Bool.eq_false_iff]
  intro healthy
  obtain ⟨k, ran, -⟩ := shown.healthy.mp healthy i name here
  have results := (shown.runs i name here).2
  rw [ran, noResult, List.range_succ] at results
  simp at results

end HealthPlan

/-! ## Servers -/

/-- A request changes no signal. -/
theorem Gate.respond_signals (g : Gate) (role : ServerRole) (now : Instant) (r : Http.Request) :
    (g.respond role now r).2.signals = g.signals := by
  have shown : ∀ page query, (showPage role g now page query).2.signals = g.signals := by
    intro page query
    cases page with
    | metrics => cases role <;> rfl
    | main =>
        cases role with
        | status => rfl
        | gate => exact g.requestLease_signals now (FormEncoded.decodePairs query)
  rw [respond]
  split
  · rfl
  · split
    · exact shown _ _
    · split
      · exact shown _ _
      · rfl

/-- What may happen to a server. -/
inductive ServerEvent where
  | advance (instant : Millis)
  | request (r : Http.Request)
  | shutdown

namespace Server

/-- The server after an event. -/
def handle (s : Server) : ServerEvent → Server
  | .advance instant => s.advance instant
  | .request r => (s.request r).2
  | .shutdown => s.shutdown

/-- **The gate of a server shows what its loops have published**, after every event. -/
theorem linked_handle {s : Server} (linked : s.gate.signals = s.checks.signals)
    (free : s.checks.NeverStuck) (event : ServerEvent) :
    (s.handle event).gate.signals = (s.handle event).checks.signals ∧
      ∃ published, Evaluators.Reaches s.checks published (s.handle event).checks := by
  cases event with
  | advance instant => exact ⟨rfl, Evaluators.reaches_runTo free instant⟩
  | request r => exact ⟨(s.gate.respond_signals s.role s.now r).trans linked, [], .start⟩
  | shutdown =>
      exact ⟨linked.trans s.checks.signals_shutdown.symm, _, Evaluators.Happens.shutdown.reaches⟩

/-- After all events the gate shows what the loops have published in some order. -/
theorem linked_foldl {s : Server} (linked : s.gate.signals = s.checks.signals)
    (free : s.checks.NeverStuck) (events : List ServerEvent) :
    (events.foldl handle s).gate.signals = (events.foldl handle s).checks.signals ∧
      ∃ published, Evaluators.Reaches s.checks published (events.foldl handle s).checks := by
  induction events generalizing s with
  | nil => exact ⟨linked, [], .start⟩
  | cons event rest ih =>
      obtain ⟨still, published, first⟩ := linked_handle linked free event
      obtain ⟨after, more, second⟩ := ih still (free.reaches first)
      exact ⟨after, more ++ published, first.trans second⟩

end Server

/-! ## A node with four CPUs -/

namespace HealthPlan

/-- An object that says nothing but the CPU capacity of a node. -/
def capacityTree (cpu : String) : Json.Tree :=
  .object [(some "status", .object [(some "capacity", .object [(some "cpu", .leaf (some (.string cpu)))])])]

theorem ofTree?_capacityTree (cpu : String) :
    Cluster.Node.ofTree? Json.maxDepth (capacityTree cpu) = some ⟨none, none, some cpu⟩ := by
  have shaped : Cluster.Schema.node.read Json.maxDepth (capacityTree cpu) =
      some (.object [("status", .object [("capacity", .object [("cpu", .string cpu)])])]) := by
    simp [capacityTree, Cluster.Schema.node, Cluster.Schema.nodeStatus, Cluster.Shape.read,
      Cluster.Shape.readFields, Cluster.Shape.readEntries, Cluster.Shape.each, Cluster.Shape.quantities,
      Cluster.Shape.quantity, Cluster.Scalar.admits, Json.maxDepth, List.lookup_cons]
  rw [Cluster.Node.ofTree?, shaped]
  rfl

/-- A cluster that answers every request with an object that has four CPUs. -/
def fourCores : Access where
  client := ⟨.standard, fun _ => .finite false 0, none⟩
  answers := fun _ _ => .answered 200 "\x7b\"status\":\x7b\"capacity\":\x7b\"cpu\":\"4\"\x7d\x7d\x7d"

theorem accepted_fourCores : Cluster.Api.Accepted Cluster.Node.ofTree?
    (fourCores.answers (.node "worker-1")) 0 ⟨none, none, some "4"⟩ := by
  have four := Json.Writes.string (show "4".toList.all Json.isPlain by decide)
  have cpu := four.object (show "cpu".toList.all Json.isPlain by decide)
  have capacity := cpu.object (show "capacity".toList.all Json.isPlain by decide)
  have status := capacity.object (show "status".toList.all Json.isPlain by decide)
  exact ⟨200, _, capacityTree "4", rfl, by decide, status.parse?_eq_some, ofTree?_capacityTree "4"⟩

theorem node_fourCores :
    let exchange := Cluster.Api.node fourCores.client "worker-1" (fourCores.answers (.node "worker-1"))
    exchange.result = .ok ⟨none, none, some "4"⟩ ∧
      exchange.sent.map Cluster.Api.Sent.target = ["/api/v1/nodes/worker-1"] :=
  have delays : fourCores.client.HasDelays := Cluster.Api.Client.hasDelays_standard_zero none
  Cluster.Api.read_of_accepted rfl delays (by decide) accepted_fourCores

theorem build_fourCores {c : CheckSettings} (daemonSets : c.daemonSetCheck = true)
    (nodeLoad : c.nodeLoadCheck = true) (named : c.effectiveNodeName? = some "worker-1") :
    (build (some fourCores) c).result =
        .ok ⟨planEndpoints c, planDaemonSets c "worker-1" ⟨none, none, some "4"⟩,
          some ⟨⟨"worker-1", 4000, c.nodeLoadThreshold⟩, c.nodeLoadPeriods⟩⟩ ∧
      (build (some fourCores) c).sent.map Cluster.Api.Sent.target = ["/api/v1/nodes/worker-1"] := by
  obtain ⟨read, sent⟩ := node_fourCores
  have enabled : c.clusterChecksEnabled = true := by rw [CheckSettings.clusterChecksEnabled, daemonSets]; rfl
  have amount : CpuQuantity.millis "4" = .ok 4000 := by decide +kernel
  have capacity : Cluster.Node.capacity ⟨none, none, some "4"⟩ = .ok 4000 :=
    Cluster.Node.capacity_eq_ok_iff.mpr ⟨by decide, "4", rfl, amount⟩
  have check : NodeLoadCheck.new "worker-1" ⟨none, none, some "4"⟩ c.nodeLoadThreshold =
      .ok ⟨"worker-1", 4000, c.nodeLoadThreshold⟩ :=
    NodeLoadCheck.new_eq_ok_iff.mpr ⟨capacity, rfl, rfl⟩
  have load : planNodeLoad c "worker-1" ⟨none, none, some "4"⟩ =
      .ok (some ⟨⟨"worker-1", 4000, c.nodeLoadThreshold⟩, c.nodeLoadPeriods⟩) := by
    rw [planNodeLoad, if_pos nodeLoad, check]
  obtain ⟨result, requests⟩ := build_of_node fourCores enabled named read
  rw [result, ofNode, load, requests]
  exact ⟨rfl, sent⟩

/-! ## From a configuration to what is shown -/

/-- The process reads the cluster as it does by default: with the standard policy, with shares that are
drawn as it has it, and until the cluster answers or the shutdown comes. -/
structure Access.Ordinary (a : Access) : Prop where
  policy : a.client.policy = .standard
  drawn : ∀ k, Policy.standard.Draws (a.client.shares k)
  answered : a.client.shutdown.isSome ∨ ∀ r k, a.answers r k ≠ .silent

/-- Only a configuration that breaks its rules lacks the name of the node. -/
theorem result_ne_noNodeName {cluster : Option Access} {c : CheckSettings}
    (valid : c.validate = .ok ()) : (build cluster c).result ≠ .error .noNodeName := by
  intro fails
  have built := built_build cluster c
  rw [fails] at built
  cases built with
  | unnamed on unnamed =>
      obtain ⟨name, named⟩ := (CheckSettings.validate_eq_ok_iff.mp valid).exists_nodeName on
      cases named.symm.trans unnamed

/-- If the node cannot be read, the cluster or the shutdown has said so. -/
theorem isAnswer_of_build {cluster : Option Access} {c : CheckSettings}
    (ordinary : ∀ access ∈ cluster, access.Ordinary) {name : String} {cause : Cluster.Error}
    (fails : (build cluster c).result = .error (.unreadableNode name cause)) : cause.IsAnswer := by
  have built := built_build cluster c
  rw [fails] at built
  cases built with
  | unreadable given unread =>
      obtain ⟨policy, drawn, answered⟩ := ordinary _ given
      exact Cluster.Api.isAnswer_of_read policy drawn
        (answered.imp_right fun all => all (.node name)) unread

/-- **No configuration leads to health that no check has found.**  Take a configuration that passes its
rules, and a cluster that does what it likes.

Either there is an error, which is never that the node has no name, and then no server and no loop
is started; with ordinary access the reading of the node comes to an end, too.  Without checks of
the cluster there is a plan, and nothing is sent.

Or there is a plan.  It has the three signals in order, each enabled if its check is configured, and
the loops that there are begin with the enabled signals, in their order.  In whatever order the loops
go on, each result goes to the signal of its own place, and the node is healthy if and only if
each configured check has ended a run and passed the last one (`ShownAfter`).  This is so of a
server after any events, and its gate shows what the loops have published. -/
theorem build_fails_closed (cluster : Option Access) (c : CheckSettings)
    (valid : c.validate = .ok ()) :
    let built := build cluster c
    (∀ cause, built.result = .error cause → cause ≠ .noNodeName ∧
      ∀ (w : Service.Surroundings) role gate host port, w.cluster = cluster →
        Service.open? w role gate host port c = .error (.noPlan cause)) ∧
    ((∀ access ∈ cluster, access.Ordinary) → ∀ name cause,
      built.result = .error (.unreadableNode name cause) → cause.IsAnswer) ∧
    (c.clusterChecksEnabled = false → built.sent = [] ∧ ∃ plan, built.result = .ok plan) ∧
    ∀ plan, built.result = .ok plan →
      plan.signals.map (fun s => (s.name, s.enabled)) =
        [("endpoints", c.endpointCheckEnabled), ("daemonsets", c.daemonSetCheck),
          ("nodeload", c.nodeLoadCheck)] ∧
      ∀ b : Behaviours,
        ((plan.start b).loops.filter (·.due?.isSome)).map Evaluator.signal =
          plan.signals.filter (·.enabled) ∧
        (∀ published last, Evaluators.Reaches (plan.start b) published last →
          ∃ ended, plan.ShownAfter c b published last ended) ∧
        ∀ role (gate : Gate), gate.signals = plan.signals → ∀ events,
          let server := List.foldl Server.handle ⟨role, gate, plan.start b⟩ events
          server.gate.signals = server.checks.signals ∧
            ∃ published, Evaluators.Reaches (plan.start b) published server.checks := by
  intro built
  refine ⟨?_, fun ordinary name cause fails => isAnswer_of_build ordinary fails, ?_, ?_⟩
  · intro cause fails
    refine ⟨?_, fun w role gate host port same => ?_⟩
    · rintro rfl
      exact result_ne_noNodeName valid fails
    · subst same
      rw [Service.open?, fails]
  · intro off
    rw [show built = _ from build_local cluster off]
    exact ⟨rfl, _, rfl⟩
  · intro plan ok
    have fits : plan.Fits c := fits_of_build ok
    refine ⟨fits.map_signals, fun b => ⟨signals_due plan b, ?_, ?_⟩⟩
    · exact fun _ _ reaches => fits.exists_shownAfter reaches
    · intro role gate shown events
      exact Server.linked_foldl (s := ⟨role, gate, plan.start b⟩)
        (shown.trans (signals_start plan b).symm) (fits.neverStuck valid b) events

/-- The endpoints alone, without a cluster, and all three checks on a node with four CPUs: two plans, of
which the one sends nothing and the other reads the node once.  Without a result of a configured check
the node is unhealthy, whatever the others have found. -/
theorem build_fails_closed_one_and_three :
    let one : CheckSettings :=
      ⟨[.raw .tcp "db" 5432], 10, 5, 3, false, "kube-system", false, [], [], 30, 5, false, 80, 30, 5,
        none⟩
    let three : CheckSettings :=
      { one with daemonSetCheck := true, nodeLoadCheck := true, nodeName := some "worker-1" }
    (one.validate = .ok () ∧ (build none one).sent = [] ∧
      ∃ plan, (build none one).result = .ok plan ∧
        plan.signals.map (fun s => (s.name, s.enabled)) =
          [("endpoints", true), ("daemonsets", false), ("nodeload", false)] ∧
        ∀ b : Behaviours, allHealthy (plan.start b).signals = false) ∧
    three.validate = .ok () ∧
      (build (some fourCores) three).sent.map Cluster.Api.Sent.target = ["/api/v1/nodes/worker-1"] ∧
      ∃ plan, (build (some fourCores) three).result = .ok plan ∧
        plan.signals.map (fun s => (s.name, s.enabled)) =
          [("endpoints", true), ("daemonsets", true), ("nodeload", true)] ∧
        plan.nodeLoad.map Planned.check = some ⟨"worker-1", 4000, 80⟩ ∧
        ∀ (b : Behaviours) published last, Evaluators.Reaches (plan.start b) published last →
          ∀ i < 3, published.filter (·.1 = i) = [] → allHealthy last.signals = false := by
  intro one three
  constructor
  · have valid : one.validate = .ok () := by decide
    obtain ⟨-, -, alone, planned⟩ := build_fails_closed none one valid
    obtain ⟨nothing, plan, ok⟩ := alone rfl
    obtain ⟨signals, started⟩ := planned plan ok
    refine ⟨valid, nothing, plan, ok, signals, fun b => ?_⟩
    obtain ⟨-, shownAfter, -⟩ := started b
    obtain ⟨ended, shown⟩ := shownAfter [] (plan.start b) .start
    exact shown.unhealthy (i := 0) rfl rfl
  · have valid : three.validate = .ok () := by decide
    obtain ⟨ok, sent⟩ := build_fourCores (c := three) rfl rfl (by decide)
    obtain ⟨-, -, -, planned⟩ := build_fails_closed (some fourCores) three valid
    obtain ⟨signals, started⟩ := planned _ ok
    refine ⟨valid, sent, _, ok, signals, rfl, fun b published last reaches i place noResult => ?_⟩
    obtain ⟨-, shownAfter, -⟩ := started b
    obtain ⟨ended, shown⟩ := shownAfter published last reaches
    have here : (configured three)[i]? = some ((configured three)[i].1, true) := by
      match i, place with
      | 0, _ => rfl
      | 1, _ => rfl
      | 2, _ => rfl
    exact shown.unhealthy here noResult

end HealthPlan

end StartupGate

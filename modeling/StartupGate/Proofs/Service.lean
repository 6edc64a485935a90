/-
# StartupGate.Proofs.Service -- what a safe configuration is safe for

Validation accepts the configurations that are safe to run.  Here that is carried over to what then
runs: a server, whose loops may go on in any order while requests and the shutdown come at any point
(`Service.Serves`), and the wait of a client.

* `Service.Serves.exists_reaches`: the loops of a server take a course from those of a fitting plan.
* `Service.Serves.opens`: a gate keeps its role and its room.
* `Service.Serves.foldl`: a server goes through events as `Server.handle` has it.
* `Service.validated_runs_safely`: from the rules to the pace of checks and requests, and to a gate that
  opens.
-/
import StartupGate.Proofs.Health.Plan
import StartupGate.Proofs.Settings.Texts

set_option autoImplicit false

namespace StartupGate

open StartupGate.Settings (Command LockSettings HealthSettings InitSettings CheckSettings ConfigError)

theorem Settings.Command.Safe.checks {command : Command} {checks : CheckSettings} (safe : command.Safe)
    (has : command.checks? = some checks) : checks.Safe := by
  cases command with
  | lock s =>
      cases has
      exact safe.2
  | health s =>
      cases has
      exact safe
  | init s => cases has

namespace Service

/-! ## Servers that start -/

/-- A server that a command starts: with a plan that was built for its checks, whatever their runs do. -/
inductive Starts : Command → Server → Prop where
  | gate {s : LockSettings} {cluster : Option HealthPlan.Access} {plan : HealthPlan} :
      (HealthPlan.build cluster s.checks).result = .ok plan →
      ∀ b, Starts (.lock s) ⟨.gate, gateOf s plan.signals, plan.start b⟩
  | status {s : HealthSettings} {cluster : Option HealthPlan.Access} {plan : HealthPlan} :
      (HealthPlan.build cluster s.checks).result = .ok plan →
      ∀ b, Starts (.health s) ⟨.status, statusOf plan.signals, plan.start b⟩

variable {command : Command} {server : Server}

/-- A server that is open has a plan for its checks. -/
theorem exists_plan_of_open {w : Surroundings} {role : ServerRole} {gate : List Signal → Gate}
    {host : String} {port : Nat} {checks : CheckSettings}
    (opened : open? w role gate host port checks = .ok server) :
    ∃ plan b, (HealthPlan.build w.cluster checks).result = .ok plan ∧
      server = ⟨role, gate plan.signals, plan.start b⟩ := by
  rw [open?] at opened
  split at opened
  · cases opened
  · next plan built =>
      split at opened
      · cases opened
        exact ⟨plan, _, built, rfl⟩
      · cases opened

theorem starts_of_openGate {w : Surroundings} {s : LockSettings} (opened : openGate w s = .ok server) :
    Starts (.lock s) server := by
  obtain ⟨plan, b, built, rfl⟩ := exists_plan_of_open opened
  exact .gate built b

theorem starts_of_openStatus {w : Surroundings} {s : HealthSettings}
    (opened : openStatus w s = .ok server) : Starts (.health s) server := by
  obtain ⟨plan, b, built, rfl⟩ := exists_plan_of_open opened
  exact .status built b

/-- A server starts with the loops of a plan that fits its checks. -/
theorem Starts.exists_fits (starts : Starts command server) :
    ∃ checks plan b, command.checks? = some checks ∧ HealthPlan.Fits plan checks ∧
      server.checks = plan.start b := by
  cases starts with
  | gate built b => exact ⟨_, _, b, rfl, HealthPlan.fits_of_build built, rfl⟩
  | status built b => exact ⟨_, _, b, rfl, HealthPlan.fits_of_build built, rfl⟩

/-! ## Servers that go on -/

/-- Where the server of a command may get to: what happens to its loops may happen in any order, the gate
sees it at any time, and requests come at any time. -/
inductive Serves (command : Command) : Server → Prop where
  | start {server : Server} : Starts command server → Serves command server
  | checks {server : Server} {result : Option (Nat × Bool)} {checks : Evaluators} :
      Serves command server → Evaluators.Happens server.checks result checks →
      Serves command { server with checks }
  | publish {server : Server} : Serves command server → Serves command server.publish
  | request {server : Server} (r : Http.Request) : Serves command server →
      Serves command (server.request r).2

namespace Serves

/-- **The loops of a server take a course** from those of a plan that fits its checks. -/
theorem exists_reaches (serves : Serves command server) :
    ∃ checks plan b published, command.checks? = some checks ∧ HealthPlan.Fits plan checks ∧
      Evaluators.Reaches (plan.start b) published server.checks := by
  induction serves with
  | start starts =>
      obtain ⟨checks, plan, b, has, fits, begun⟩ := starts.exists_fits
      rw [begun]
      exact ⟨checks, plan, b, [], has, fits, .start⟩
  | checks _ happens ih =>
      obtain ⟨checks, plan, b, published, has, fits, reaches⟩ := ih
      exact ⟨checks, plan, b, _, has, fits, reaches.step happens⟩
  | publish _ ih => exact ih
  | request r _ ih => exact ih

/-- **The runs of the checks stay a second apart.** -/
theorem paced (serves : Serves command server) (safe : command.Safe) :
    ∀ e ∈ server.checks.loops, e.Paced := by
  obtain ⟨checks, plan, b, published, has, fits, reaches⟩ := serves.exists_reaches
  exact reaches.paced (fits.paced (safe.checks has) b)

theorem neverStuck (serves : Serves command server) (safe : command.Safe) :
    server.checks.NeverStuck := by
  obtain ⟨checks, plan, b, published, has, fits, reaches⟩ := serves.exists_reaches
  have valid : checks.validate = .ok () := CheckSettings.validate_eq_ok_iff.mpr (safe.checks has)
  exact (fits.neverStuck valid b).reaches reaches

/-- **A gate keeps its role and its room.** -/
theorem opens {s : LockSettings} (serves : Serves (.lock s) server) :
    server.role = .gate ∧ server.gate.leases.capacity = s.parallelLocks := by
  induction serves with
  | start starts =>
      cases starts with
      | gate built b => exact ⟨rfl, rfl⟩
  | checks _ _ ih => exact ih
  | publish _ ih => exact ih
  | @request server r _ ih =>
      obtain ⟨role, capacity⟩ := ih
      refine ⟨role, ?_⟩
      rw [← capacity, Server.request, role]
      exact server.gate.respond_capacity server.now r

/-- **A gate that is healthy and has no live lease grants the next request.** -/
theorem grants {s : LockSettings} (serves : Serves (.lock s) server)
    (safe : Command.Safe (.lock s)) (healthy : server.gate.isHealthy = true)
    (free : server.gate.active server.now = 0) {r : Http.Request} (root : r.ReadsRoot) :
    (server.request r).1.status = 200 := by
  obtain ⟨role, capacity⟩ := serves.opens
  have room : server.gate.leases.active server.now < server.gate.leases.capacity := by
    rw [capacity, show server.gate.leases.active server.now = 0 from free]
    exact safe.1
  rw [Server.request, role]
  exact Gate.status_of_room root healthy room

/-- What the loops come to in a course of theirs, the server comes to. -/
theorem reaches {published : List (Nat × Bool)} {last : Evaluators} (serves : Serves command server)
    (reaches : Evaluators.Reaches server.checks published last) :
    Serves command { server with checks := last } := by
  induction reaches with
  | start => exact serves
  | step _ happens ih => exact ih.checks happens

/-- A server goes through an event. -/
theorem handle (serves : Serves command server) (safe : command.Safe) (event : ServerEvent) :
    Serves command (server.handle event) := by
  cases event with
  | advance instant =>
      obtain ⟨published, moved⟩ := Evaluators.reaches_runTo (serves.neverStuck safe) instant
      exact (serves.reaches moved).publish
  | request r => exact serves.request r
  | shutdown => exact serves.checks .shutdown

/-- A server goes through all events. -/
theorem foldl (serves : Serves command server) (safe : command.Safe) (events : List ServerEvent) :
    Serves command (events.foldl Server.handle server) := by
  induction events generalizing server with
  | nil => exact serves
  | cons event rest ih => exact ih (serves.handle safe event)

end Serves

/-! ## From the rules to what runs -/

/-- **Validation accepts exactly the safe commands, and safe they are when they run.**

A command is valid if and only if it is safe, and otherwise the error is the first rule that it breaks.

Take a command that is valid.  No plan for its checks lacks the name of the node, whatever the cluster
answers.  Wherever a server of it may get to, the runs of each check have started at least a second
apart.  A gate that is healthy then and has no live lease grants the next request; as long as thirty
years fit the clock, it asks for no instant that the clock cannot show.  The requests of a client are at
least a second apart, whatever comes of them and whenever the shutdown comes.  The servers that the
program opens are among these, after any events. -/
theorem validated_runs_safely (command : Command) :
    (command.validate = .ok () ↔ command.Safe) ∧
    (∀ cause, command.validate = .error cause ↔ command.broken.head? = some cause) ∧
    (command.validate = .ok () →
      (∀ checks, command.checks? = some checks → ∀ cluster,
        (HealthPlan.build cluster checks).result ≠ .error .noNodeName) ∧
      (∀ server, Serves command server → ∀ e ∈ server.checks.loops, SecondsApart e.starts) ∧
      (∀ s, command = .lock s → ∀ server, Serves command server → server.gate.isHealthy = true →
        server.gate.active server.now = 0 → ∀ r : Http.Request, r.ReadsRoot →
          (server.request r).1.status = 200 ∧
          (server.now + farFuture.nanos < clockLimit →
            server.gate.canExpire server.now r.params = true)) ∧
      (∀ s, command = .init s → ∀ polls shutdown fuel,
        SecondsApart (clientWait s polls shutdown fuel).requests) ∧
      ∀ (w : Surroundings) (server : Server) (events : List ServerEvent),
        (∀ s, command = .lock s → openGate w s = .ok server →
          Serves command (events.foldl Server.handle server)) ∧
        (∀ s, command = .health s → openStatus w s = .ok server →
          Serves command (events.foldl Server.handle server))) := by
  refine ⟨command.validate_eq_ok_iff, fun cause => ?_, fun valid => ?_⟩
  · rw [command.validate_eq, Settings.firstOf_eq_error_iff]
  · have safe : command.Safe := command.validate_eq_ok_iff.mp valid
    refine ⟨?_, fun server serves e member => (serves.paced safe e member).apart, ?_, ?_, ?_⟩
    · intro checks has cluster
      exact HealthPlan.result_ne_noNodeName (CheckSettings.validate_eq_ok_iff.mpr (safe.checks has))
    · rintro s rfl server serves healthy free r root
      exact ⟨serves.grants safe healthy free root,
        fun fits => Gate.canExpire_of_farFuture fits server.gate r.params⟩
    · rintro s rfl polls shutdown fuel
      exact LockClient.apart_wait (Duration.nanosPerSecond_le_ofSeconds safe.1) fuel
    · intro w server events
      constructor
      · rintro s rfl opened
        exact Serves.foldl (.start (starts_of_openGate opened)) safe events
      · rintro s rfl opened
        exact Serves.foldl (.start (starts_of_openStatus opened)) safe events

/-- A gate for one lease that asks one endpoint, where each run takes three seconds and passes: it has a
valid configuration, it starts the second run ten seconds after the end of the first, and it opens.  A
client whose requests are all denied at once sends the next one after a minute. -/
theorem validated_gate_opens :
    let checks : CheckSettings :=
      ⟨[.raw .tcp "db" 5432], 10, 5, 3, false, "kube-system", false, [], [], 30, 5, false, 80, 30, 5,
        none⟩
    let s : LockSettings := ⟨"0.0.0.0", 8888, 1, 10, checks⟩
    let i : InitSettings := ⟨"gate", 8888, none, 60, 1⟩
    (Command.lock s).validate = .ok () ∧ (Command.init i).validate = .ok () ∧
      (∃ server, Serves (.lock s) server ∧ server.checks.loops.map (·.starts) = [[0, 13000], [], []] ∧
        SecondsApart [0, 13000] ∧ (server.request ⟨"GET", "/"⟩).1.status = 200) ∧
      (clientWait i (fun _ => .ends (.ok 423) 0) none 3).requests = [0, 60000, 120000] ∧
      SecondsApart [0, 60000, 120000] := by
  intro checks s i
  have gateValid : (Command.lock s).validate = .ok () := by decide
  have clientValid : (Command.init i).validate = .ok () := by decide
  obtain ⟨-, -, runs⟩ := validated_runs_safely (.lock s)
  obtain ⟨-, apart, grants, -, -⟩ := runs gateValid
  obtain ⟨-, -, waits⟩ := validated_runs_safely (.init i)
  obtain ⟨-, -, -, requests, -⟩ := waits clientValid
  let plan : HealthPlan := ⟨HealthPlan.planEndpoints checks, none, none⟩
  have built : (HealthPlan.build none checks).result = .ok plan :=
    congrArg HealthPlan.Building.result (HealthPlan.build_local none rfl)
  let b : HealthPlan.Behaviours := ⟨fun _ => ⟨true, 3000⟩, fun _ => ⟨true, 0⟩, fun _ => ⟨true, 0⟩⟩
  have starts : Serves (.lock s) ⟨.gate, gateOf s plan.signals, plan.start b⟩ :=
    .start (.gate built b)
  have wakes : Millis.wake 3000 (.ofSeconds 10) = 13000 := by decide
  have serves := (((starts.checks (.due (i := 0) (t := 0) rfl rfl)).checks
    (.due (i := 0) (t := 3000) rfl rfl)).checks
      (.due (i := 0) (t := 13000) rfl (congrArg some wakes))).publish
  have sent : (clientWait i (fun _ => .ends (.ok 423) 0) none 3).requests = [0, 60000, 120000] := by
    decide
  refine ⟨gateValid, clientValid, ⟨_, serves, ?_, ?_, ?_⟩, sent, ?_⟩
  · exact congrArg (fun t => [[0, t], [], []]) wakes
  · rw [← wakes]
    exact apart _ serves _ (List.mem_cons_self ..)
  · exact (grants s rfl _ serves rfl rfl ⟨"GET", "/"⟩ (by decide)).1
  · rw [← sent]
    exact requests i rfl _ none 3

end Service

end StartupGate

/-
# StartupGate.Proofs.Cluster.Reads -- a read asks up to the first accepted response

A response is accepted if its status is no error and its body holds what is read (`Api.Accepted`); every
other one, and every failure to get one, is refused for a reason (`Api.Refused`).  Only what is refused is
asked for again.  What is wrong inside an accepted object comes after the retries.

* `Retried.endsAt_of_ok`, `Retried.endsAt_of_spent`: how a run of attempts ends that all end.
* `Api.answeredBy_read`: what a read sends and gives, in terms of the responses alone.
* `Api.reads_to_first_accepted`: the same of the four reads and of a check of the load.

A request that cannot be written is not sent at all (`Api.unwritten_name_is_not_sent`).
-/
import StartupGate.Health.Plan
import StartupGate.Proofs.Health.NodeLoadCheck
import StartupGate.Proofs.Retry.Backoff
import StartupGate.Proofs.Retry.Cancellation

set_option autoImplicit false

namespace StartupGate

/-! ## Attempts that end -/

namespace Retry.Retried

variable {ε α : Type} {o : Retried ε α} {k : Nat} {e : ε} {value : α} {takes : Millis}
  {cancel : Option Millis}

/-- A run gets past attempts that fail within the budget, if there are delays to wait. -/
theorem reaches_of_failed (failed : ∀ j < k, ∃ e takes, o.attempts j = .ends (.error e) takes)
    (delays : ∀ j, j + 1 < o.policy.budget → ∃ d, o.delay j = .ok d) (within : k < o.policy.budget) :
    o.Reaches k := by
  intro j before
  obtain ⟨e, takes, fails⟩ := failed j before
  have spare : j + 1 < o.policy.budget := Nat.lt_of_le_of_lt before within
  obtain ⟨d, found⟩ := delays j spare
  exact ending?_of_fails fails spare found

theorem budget_pos (o : Retried ε α) : 0 < o.policy.budget :=
  Nat.lt_of_lt_of_le Nat.zero_lt_one (Nat.le_max_right _ _)

/-- The first success within the budget is the last attempt. -/
theorem endsAt_of_ok (failed : ∀ j < k, ∃ e takes, o.attempts j = .ends (.error e) takes)
    (delays : ∀ j, j + 1 < o.policy.budget → ∃ d, o.delay j = .ok d) (within : k < o.policy.budget)
    (succeeds : o.attempts k = .ends (.ok value) takes) : o.EndsAt k (.done value) :=
  ⟨reaches_of_failed failed delays within, ending?_of_ok succeeds⟩

/-- Without a success the last attempt of the budget is the last. -/
theorem endsAt_of_spent
    (failed : ∀ j < o.policy.budget, ∃ e takes, o.attempts j = .ends (.error e) takes)
    (delays : ∀ j, j + 1 < o.policy.budget → ∃ d, o.delay j = .ok d)
    (fails : o.attempts (o.policy.budget - 1) = .ends (.error e) takes) :
    o.EndsAt (o.policy.budget - 1) (.exhausted o.policy.budget e) := by
  have within : o.policy.budget - 1 < o.policy.budget := Nat.sub_one_lt_of_lt o.budget_pos
  have count : o.policy.budget - 1 + 1 = o.policy.budget := Nat.sub_add_cancel o.budget_pos
  have ending := ending?_of_spent fails count.ge
  rw [count] at ending
  exact ⟨reaches_of_failed (fun j before => failed j (before.trans within)) delays within, ending⟩

/-- **A run that gives a value** made attempts that failed, and then within the budget one with that
value. -/
theorem exists_of_done (done : (o.run cancel).outcome = .done value) :
    ∃ k < o.policy.budget, (∀ j < k, ∃ e takes, o.attempts j = .ends (.error e) takes) ∧
      ∃ takes, o.attempts k = .ends (.ok value) takes := by
  rcases o.cancelled_or_endsAt cancel with ⟨attempts, cancelled⟩ | ⟨k, last, -⟩
  · rw [done] at cancelled
    cases cancelled
  · rw [done] at last
    obtain ⟨reaches, ending⟩ := last
    refine ⟨k, ?_, fun j before => (eq_of_goesOn (reaches j before)).2.1, ?_⟩
    · cases k with
      | zero => exact o.budget_pos
      | succ j => exact (eq_of_goesOn (reaches j (Nat.lt_succ_self j))).1
    · rw [ending?] at ending
      split at ending
      · cases ending
      · next result takes succeeds =>
          cases ending
          exact ⟨takes, succeeds⟩
      · split at ending
        · cases ending
        · split at ending <;> cases ending

end Retry.Retried

/-! ## Responses -/

namespace Cluster.Api

open Retry (Retried)

variable {α β : Type} {decode : Decoder α} {answers : Answers} {k : Nat} {value : α}
  {failure : ApiFailure}

/-- The request of an index gets a response that is accepted: its status is no error, and its body is a
tree that holds the value. -/
def Accepted (decode : Decoder α) (answers : Answers) (k : Nat) (value : α) : Prop :=
  ∃ status body tree, answers k = .answered status body ∧ ¬ (400 ≤ status ∧ status < 600) ∧
    Json.Tree.parse? body = some tree ∧ decode Json.maxDepth tree = some value

/-- The request of an index gets no response, or one that is not accepted, and this is why. -/
inductive Refused (decode : Decoder α) (answers : Answers) (k : Nat) : ApiFailure → Prop
  | unreachable (reason : String) (failed : answers k = .failed reason) :
      Refused decode answers k (.unreachable reason)
  | errorStatus (status : Nat) (body : String) (answered : answers k = .answered status body)
      (error : 400 ≤ status ∧ status < 600) :
      Refused decode answers k (.refused (statusOf status body))
  | undecodable (status : Nat) (body : String) (answered : answers k = .answered status body)
      (noError : ¬ (400 ≤ status ∧ status < 600))
      (holdsNone : ∀ tree, Json.Tree.parse? body = some tree → decode Json.maxDepth tree = none) :
      Refused decode answers k .undecodable

theorem isErrorStatus_iff {status : Nat} : isErrorStatus status = true ↔ 400 ≤ status ∧ status < 600 := by
  simp [isErrorStatus]

theorem accept_eq_ok_iff {status : Nat} {body : String} :
    accept decode status body = .ok value ↔ ¬ (400 ≤ status ∧ status < 600) ∧
      ∃ tree, Json.Tree.parse? body = some tree ∧ decode Json.maxDepth tree = some value := by
  rw [accept, ← isErrorStatus_iff, ← Option.bind_eq_some_iff]
  split
  · next error => simp [error]
  · next noError =>
      rw [and_iff_right noError]
      cases (Json.Tree.parse? body).bind (decode Json.maxDepth) <;> simp

/-- A response that came is refused for the reason it is not accepted for. -/
theorem refused_iff_of_answered {status : Nat} {body : String} (answer : answers k = .answered status body) :
    Refused decode answers k failure ↔ accept decode status body = .error failure := by
  constructor
  · intro refused
    cases refused with
    | unreachable reason failed => exact absurd (answer.symm.trans failed) nofun
    | errorStatus status' body' answered error =>
        cases answer.symm.trans answered
        rw [accept, if_pos (isErrorStatus_iff.mpr error)]
    | undecodable status' body' answered noError holdsNone =>
        cases answer.symm.trans answered
        have nothing : (Json.Tree.parse? body).bind (decode Json.maxDepth) = none :=
          Option.bind_eq_none_iff.mpr holdsNone
        rw [accept, if_neg (isErrorStatus_iff.not.mpr noError), nothing]
  · intro refused
    rw [accept] at refused
    split at refused
    · next error =>
        cases refused
        exact .errorStatus status body answer (isErrorStatus_iff.mp error)
    · next noError =>
        split at refused
        · cases refused
        · next holdsNone =>
            cases refused
            refine .undecodable status body answer (isErrorStatus_iff.not.mp noError) ?_
            exact fun tree parsed => (Option.bind_eq_none_iff.mp holdsNone) tree parsed

/-- A failure to get a response is the reason of a refusal. -/
theorem refused_iff_of_failed {reason : String} (answer : answers k = .failed reason) :
    Refused decode answers k failure ↔ failure = .unreachable reason := by
  constructor
  · intro refused
    cases refused with
    | unreachable reason' failed =>
        cases answer.symm.trans failed
        rfl
    | errorStatus status body answered => exact absurd (answer.symm.trans answered) nofun
    | undecodable status body answered => exact absurd (answer.symm.trans answered) nofun
  · rintro rfl
    exact .unreachable reason answer

/-- Silence is no refusal. -/
theorem not_refused_of_silent (answer : answers k = .silent) : ¬ Refused decode answers k failure := by
  intro refused
  cases refused with
  | unreachable reason failed => exact absurd (answer.symm.trans failed) nofun
  | errorStatus status body answered => exact absurd (answer.symm.trans answered) nofun
  | undecodable status body answered => exact absurd (answer.symm.trans answered) nofun

/-- An attempt ends with a value exactly if the response is accepted with it. -/
theorem attempt_ok_iff {takes : Millis} (t : String) :
    attempts (some t) answers decode k = .ends (.ok value) takes ↔
      Accepted decode answers k value ∧ takes = 0 := by
  simp only [attempts, Accepted]
  cases answer : answers k with
  | answered status body =>
      simp only [Answer.attempt, Retry.Attempt.ends.injEq, accept_eq_ok_iff, Answer.answered.injEq]
      constructor
      · rintro ⟨⟨noError, tree, parsed, held⟩, rfl⟩
        exact ⟨⟨status, body, tree, ⟨rfl, rfl⟩, noError, parsed, held⟩, rfl⟩
      · rintro ⟨⟨_, _, tree, ⟨rfl, rfl⟩, noError, parsed, held⟩, rfl⟩
        exact ⟨⟨noError, tree, parsed, held⟩, rfl⟩
  | failed reason => simp [Answer.attempt]
  | silent => simp [Answer.attempt]

/-- An attempt ends with a failure exactly if the response is refused for it. -/
theorem attempt_error_iff {takes : Millis} (t : String) :
    attempts (some t) answers decode k = .ends (.error failure) takes ↔
      Refused decode answers k failure ∧ takes = 0 := by
  simp only [attempts]
  cases answer : answers k with
  | answered status body =>
      simp [Answer.attempt, refused_iff_of_answered answer, eq_comm]
  | failed reason => simp [Answer.attempt, refused_iff_of_failed answer, eq_comm]
  | silent => simp [Answer.attempt, not_refused_of_silent answer]

/-- A response is accepted or refused, if there ever is one. -/
theorem answer_cases (decode : Decoder α) (answers : Answers) (k : Nat) :
    (∃ value, Accepted decode answers k value) ∨ answers k = .silent ∨
      ∃ failure, Refused decode answers k failure := by
  cases attempt : attempts (some "") answers decode k with
  | hangs =>
      simp only [attempts] at attempt
      cases answer : answers k with
      | silent => exact .inr (.inl rfl)
      | answered status body => rw [answer] at attempt; cases attempt
      | failed reason => rw [answer] at attempt; cases attempt
  | ends result takes =>
      cases result with
      | ok value => exact .inl ⟨value, ((attempt_ok_iff "").mp attempt).1⟩
      | error failure => exact .inr (.inr ⟨failure, ((attempt_error_iff "").mp attempt).1⟩)

/-- All requests before an index are refused. -/
def RefusedBefore (decode : Decoder α) (answers : Answers) (k : Nat) : Prop :=
  ∀ j < k, ∃ failure, Refused decode answers j failure

/-- **Up to the budget a first request is accepted or never answered, or all are refused.** -/
theorem first_settled_or_all_refused (decode : Decoder α) (answers : Answers) (budget : Nat) :
    (∃ k < budget, RefusedBefore decode answers k ∧
      ((∃ value, Accepted decode answers k value) ∨ answers k = .silent)) ∨
    RefusedBefore decode answers budget := by
  induction budget with
  | zero => exact .inr nofun
  | succ n ih =>
      have here : n < n + 1 := Nat.lt_succ_self n
      rcases ih with ⟨k, within, settled⟩ | refused
      · exact .inl ⟨k, Nat.lt_succ_of_lt within, settled⟩
      · rcases answer_cases decode answers n with accepted | silent | another
        · exact .inl ⟨n, here, refused, .inl accepted⟩
        · exact .inl ⟨n, here, refused, .inr silent⟩
        · refine .inr fun k within => ?_
          rcases Nat.lt_succ_iff_lt_or_eq.mp within with earlier | rfl
          · exact refused k earlier
          · exact another

/-! ## Reads -/

variable {c : Client} {r : Read} {t : String} {make : α → Except Error β}

/-- The policy has a delay wherever its budget may need one. -/
def Client.HasDelays (c : Client) : Prop :=
  ∀ k, k + 1 < c.policy.budget → ∃ d, c.policy.delay (k + 1) (c.shares (k + 1)) = .ok d

/-- The standard policy has its delays, for all shares of jitter that it may draw. -/
theorem Client.hasDelays_standard {c : Client} (standard : c.policy = .standard)
    (drawn : ∀ k, Retry.Policy.standard.Draws (c.shares k)) : c.HasDelays := by
  intro k spare
  rw [standard] at spare ⊢
  exact Retry.Policy.exists_delay_standard spare (drawn (k + 1))

theorem Client.hasDelays_standard_zero (shutdown : Option Millis) :
    Client.HasDelays ⟨.standard, fun _ => .finite false 0, shutdown⟩ :=
  hasDelays_standard rfl fun _ _ _ _ => ⟨0, Nat.zero_le _, rfl⟩

/-- What comes of a read follows from the responses alone, if its request can be written. -/
structure AnsweredBy (c : Client) (r : Read) (answers : Answers) (decode : Decoder α)
    (make : α → Except Error β) (e : Exchange β) : Prop where
  /-- The requests go up to the first that is accepted, and the result is what is made of it. -/
  accepted : ∀ t k value, requestTarget? r = some t → k < c.policy.budget →
    RefusedBefore decode answers k → Accepted decode answers k value →
      e.result = make value ∧ e.sent.map Sent.target = List.replicate (k + 1) t
  /-- If none is accepted, the budget is spent and the result is the last failure. -/
  exhausted : ∀ t failure, requestTarget? r = some t →
    RefusedBefore decode answers c.policy.budget →
    Refused decode answers (c.policy.budget - 1) failure →
      e.result = .error (.api (.exhausted c.policy.budget failure)) ∧
        e.sent.map Sent.target = List.replicate c.policy.budget t
  /-- A request that is never answered is the last, and nothing comes of the read. -/
  silent : ∀ t k, requestTarget? r = some t → k < c.policy.budget →
    RefusedBefore decode answers k → answers k = .silent →
      e.result = .error .endless ∧ e.sent.map Sent.target = List.replicate (k + 1) t
  /-- A request that cannot be written is not sent. -/
  unwritten : requestTarget? r = none →
    e.result = .error (.api (.exhausted c.policy.budget .badRequest)) ∧ e.sent = []

/-- The operation that a read tries. -/
def operation (c : Client) (r : Read) (answers : Answers) (decode : Decoder α) : Retried ApiFailure α :=
  ⟨c.policy, c.shares, attempts (requestTarget? r) answers decode⟩

theorem result_read (c : Client) (r : Read) (answers : Answers) (decode : Decoder α) :
    (read c r answers decode).result = resultOf ((operation c r answers decode).run c.shutdown) := rfl

theorem sent_read (written : requestTarget? r = some t) :
    (read c r answers decode).sent =
      ((operation c r answers decode).run c.shutdown).calls.map fun time => ⟨time, t⟩ := by
  simp only [read, written, operation, Retried.run]

theorem sent_read_of_unwritten (unwritten : requestTarget? r = none) :
    (read c r answers decode).sent = [] := by
  simp only [read, unwritten]

/-- What a read makes requests for, if its request can be written. -/
theorem operation_attempts (written : requestTarget? r = some t) :
    (operation c r answers decode).attempts = attempts (some t) answers decode := by
  rw [operation, written]

/-- Requests that are refused are attempts that fail. -/
theorem failed_of_refusedBefore (written : requestTarget? r = some t)
    (refused : RefusedBefore decode answers k) :
    ∀ j < k, ∃ failure takes, (operation c r answers decode).attempts j = .ends (.error failure) takes := by
  intro j before
  obtain ⟨failure, why⟩ := refused j before
  refine ⟨failure, 0, ?_⟩
  rw [operation_attempts written]
  exact (attempt_error_iff t).mpr ⟨why, rfl⟩

/-- What a read gives if nothing cancels it. -/
theorem result_of_endsAt {outcome : Retry.Outcome ApiFailure α} (noShutdown : c.shutdown = none)
    (last : (operation c r answers decode).EndsAt k outcome) :
    ((read c r answers decode).andThen make).result =
        match resultOf ((operation c r answers decode).ended k outcome 0) with
        | .error cause => .error cause
        | .ok value => make value := by
  have course : (operation c r answers decode).run none =
      (operation c r answers decode).ended k outcome ((operation c r answers decode).finish k) :=
    Retried.run_of_endsAt last nofun
  rw [Exchange.andThen, result_read, noShutdown, course]
  rfl

/-- What a read sends if nothing cancels it. -/
theorem targets_of_endsAt {outcome : Retry.Outcome ApiFailure α} (noShutdown : c.shutdown = none)
    (written : requestTarget? r = some t) (last : (operation c r answers decode).EndsAt k outcome) :
    ((read c r answers decode).andThen make).sent.map Sent.target = List.replicate (k + 1) t := by
  have course : (operation c r answers decode).run none =
      (operation c r answers decode).ended k outcome ((operation c r answers decode).finish k) :=
    Retried.run_of_endsAt last nofun
  rw [Exchange.andThen, sent_read written, noShutdown, course]
  simp [Retried.ended, Function.comp_def]

/-- **A read asks up to the first accepted response**, and what is made of the object comes after. -/
theorem answeredBy_read (noShutdown : c.shutdown = none) (delays : c.HasDelays) (r : Read)
    (answers : Answers) (decode : Decoder α) (make : α → Except Error β) :
    AnsweredBy c r answers decode make ((read c r answers decode).andThen make) where
  accepted := by
    intro t k value written within refused accepted
    have succeeds : (operation c r answers decode).attempts k = .ends (.ok value) 0 := by
      rw [operation_attempts written]
      exact (attempt_ok_iff t).mpr ⟨accepted, rfl⟩
    have last := Retried.endsAt_of_ok (failed_of_refusedBefore written refused) delays within succeeds
    exact ⟨result_of_endsAt noShutdown last, targets_of_endsAt noShutdown written last⟩
  exhausted := by
    intro t failure written refused why
    have fails : (operation c r answers decode).attempts (c.policy.budget - 1) =
        .ends (.error failure) 0 := by
      rw [operation_attempts written]
      exact (attempt_error_iff t).mpr ⟨why, rfl⟩
    have last := Retried.endsAt_of_spent (failed_of_refusedBefore written refused) delays fails
    have count : c.policy.budget - 1 + 1 = c.policy.budget :=
      Nat.sub_add_cancel (operation c r answers decode).budget_pos
    refine ⟨result_of_endsAt noShutdown last, ?_⟩
    rw [targets_of_endsAt noShutdown written last, operation, count]
  silent := by
    intro t k written within refused silent
    have hangs : (operation c r answers decode).attempts k = .hangs := by
      rw [operation_attempts written]
      simp only [attempts, silent, Answer.attempt]
    have last : (operation c r answers decode).EndsAt k .endless :=
      ⟨Retried.reaches_of_failed (failed_of_refusedBefore written refused) delays within,
        Retried.ending?_of_hangs hangs⟩
    exact ⟨result_of_endsAt noShutdown last, targets_of_endsAt noShutdown written last⟩
  unwritten := by
    intro unwritten
    have fails : ∀ j, (operation c r answers decode).attempts j = .ends (.error .badRequest) 0 := by
      intro j
      rw [operation, unwritten]
      rfl
    have last := Retried.endsAt_of_spent (fun j _ => ⟨_, _, fails j⟩) delays (fails _)
    exact ⟨result_of_endsAt noShutdown last, sent_read_of_unwritten unwritten⟩

theorem andThen_ok (e : Exchange α) : e.andThen .ok = e := by
  obtain ⟨result, sent⟩ := e
  cases result <;> rfl

/-- A read whose first response is accepted sends one request. -/
theorem read_of_accepted (noShutdown : c.shutdown = none) (delays : c.HasDelays)
    (written : requestTarget? r = some t) (accepted : Accepted decode answers 0 value) :
    (read c r answers decode).result = .ok value ∧
      (read c r answers decode).sent.map Sent.target = [t] := by
  have within : 0 < c.policy.budget := (operation c r answers decode).budget_pos
  have reads := answeredBy_read noShutdown delays r answers decode Except.ok
  have first := reads.accepted t 0 value written within nofun accepted
  rwa [andThen_ok] at first

/-! ## What a read gives -/

theorem usageMillis_of_undecodable {metrics : Json} {cause : DecodeError}
    (undecodable : readUsage metrics = .error cause) : usageMillis metrics = .error (.decode cause) := by
  rw [usageMillis, undecodable]

theorem usageMillis_of_invalid {metrics : Json} {q : String} {cause : CpuQuantity.Invalid}
    (written : readUsage metrics = .ok q) (invalid : CpuQuantity.millis q = .error cause) :
    usageMillis metrics = .error (.quantity cause) := by
  rw [usageMillis, written]
  simp only [invalid]

/-- A read that gives a value had a response accepted within the budget, after requests that were
refused. -/
theorem exists_accepted_of_ok {made : β}
    (gives : ((read c r answers decode).andThen make).result = .ok made) :
    ∃ k < c.policy.budget, RefusedBefore decode answers k ∧
      ∃ value, Accepted decode answers k value ∧ make value = .ok made := by
  rw [Exchange.andThen] at gives
  simp only at gives
  split at gives
  · cases gives
  · next value given =>
      have done : ((operation c r answers decode).run c.shutdown).outcome = .done value := by
        rw [result_read, resultOf] at given
        split at given <;> cases given
        assumption
      obtain ⟨k, within, failed, takes, succeeds⟩ := Retried.exists_of_done done
      cases written : requestTarget? r with
      | none =>
          rw [operation, written] at succeeds
          cases succeeds
      | some t =>
          rw [operation_attempts written] at failed succeeds
          refine ⟨k, within, fun j before => ?_, value, ((attempt_ok_iff t).mp succeeds).1, gives⟩
          obtain ⟨failure, takes, fails⟩ := failed j before
          exact ⟨failure, ((attempt_error_iff t).mp fails).1⟩

/-- **Only a response passes a check of the load**: one within the budget that is accepted, decodes and is
within the threshold. -/
theorem accepted_of_passes {access : HealthPlan.Access} {check : NodeLoadCheck}
    (passes : HealthPlan.nodeLoadVerdict access check = true) :
    ∃ k < access.client.policy.budget,
      RefusedBefore readMetricsObject (access.answers (.nodeUsage check.nodeName)) k ∧
      ∃ metrics used, Accepted readMetricsObject (access.answers (.nodeUsage check.nodeName)) k metrics ∧
        usageMillis metrics = .ok used ∧ NodeLoad.within used check.capacity check.threshold = true := by
  obtain ⟨used, gives, within⟩ := NodeLoadCheck.healthy_iff.mp passes
  obtain ⟨k, inBudget, refused, metrics, accepted, made⟩ := exists_accepted_of_ok gives
  exact ⟨k, inBudget, refused, metrics, used, accepted, made, within⟩

/-- **The reads of the cluster ask up to the first accepted response**, within the budget, if no shutdown
comes and the policy has its delays; a request that cannot be written is not sent.  Up to the budget a
first request is accepted or never answered, or all are refused, so this says what comes of any read.  What
is wrong with the usage in an accepted metrics object is the result, and is not asked for again.  A check of
the load passes only with a response within the budget that is accepted, decodes and is within the
threshold, whatever the API does and whenever the shutdown comes. -/
theorem reads_to_first_accepted :
    (∀ (c : Client) (answers : Answers), c.shutdown = none → c.HasDelays →
      (∀ name, AnsweredBy c (.node name) answers Node.ofTree? .ok (node c name answers)) ∧
      (∀ name, AnsweredBy c (.nodeUsage name) answers readMetricsObject usageMillis
        (nodeUsage c name answers)) ∧
      (∀ namespaceName, AnsweredBy c (.daemonSets namespaceName) answers
        (readListObject DaemonSet.ofTree?) .ok (daemonSets c namespaceName answers)) ∧
      ∀ name, AnsweredBy c (.nodePods name) answers (readListObject Pod.ofTree?) .ok
        (nodePods c name answers)) ∧
    (∀ (α : Type) (decode : Decoder α) (answers : Answers) (budget : Nat),
      (∃ k < budget, RefusedBefore decode answers k ∧
        ((∃ value, Accepted decode answers k value) ∨ answers k = .silent)) ∨
      RefusedBefore decode answers budget) ∧
    (∀ metrics cause, readUsage metrics = .error cause → usageMillis metrics = .error (.decode cause)) ∧
    (∀ metrics q cause, readUsage metrics = .ok q → CpuQuantity.millis q = .error cause →
      usageMillis metrics = .error (.quantity cause)) ∧
    ∀ (access : HealthPlan.Access) (check : NodeLoadCheck),
      HealthPlan.nodeLoadVerdict access check = true →
        ∃ k < access.client.policy.budget,
          RefusedBefore readMetricsObject (access.answers (.nodeUsage check.nodeName)) k ∧
          ∃ metrics used,
            Accepted readMetricsObject (access.answers (.nodeUsage check.nodeName)) k metrics ∧
            usageMillis metrics = .ok used ∧
            NodeLoad.within used check.capacity check.threshold = true := by
  refine ⟨fun c answers noShutdown delays => ⟨fun name => ?_, fun name => ?_, fun ns => ?_, fun name => ?_⟩,
    fun α decode answers budget => first_settled_or_all_refused decode answers budget,
    fun metrics cause => usageMillis_of_undecodable, fun metrics q cause => usageMillis_of_invalid,
    fun access check => accepted_of_passes⟩
  · rw [node, ← andThen_ok (read _ _ _ _)]
    exact answeredBy_read noShutdown delays _ answers _ _
  · exact answeredBy_read noShutdown delays _ answers _ _
  · rw [daemonSets, ← andThen_ok (read _ _ _ _)]
    exact answeredBy_read noShutdown delays _ answers _ _
  · rw [nodePods, ← andThen_ok (read _ _ _ _)]
    exact answeredBy_read noShutdown delays _ answers _ _

/-- The empty object is accepted where metrics are read. -/
theorem accepted_metrics (answered : answers k = .answered 200 "\x7b\x7d") :
    Accepted readMetricsObject answers k (.object []) :=
  ⟨200, "\x7b\x7d", .object [], answered, by decide, rfl, rfl⟩

/-- The empty object is accepted where a node is read. -/
theorem accepted_node (answered : answers k = .answered 200 "\x7b\x7d") :
    Accepted Node.ofTree? answers k ⟨none, none, none⟩ := by
  have shaped : Schema.node.read Json.maxDepth (.object []) = some (.object []) := by
    simp [Schema.node, Shape.read, Shape.readFields, Json.maxDepth]
  refine ⟨200, "\x7b\x7d", .object [], answered, by decide, rfl, ?_⟩
  rw [Node.ofTree?, shaped]
  rfl

/-- The first request gets no response, the second an error, and the third an object without the usage:
that is the result, and there is no fourth request. -/
theorem reads_to_first_accepted_empty :
    let c : Client := ⟨.standard, fun _ => .finite false 0, none⟩
    let answers : Answers := fun k =>
      match k with
      | 0 => .failed "refused"
      | 1 => .answered 503 ""
      | _ => .answered 200 "\x7b\x7d"
    (nodeUsage c "worker-1" answers).result = .error (.decode (.missingField "usage")) ∧
      (nodeUsage c "worker-1" answers).sent.map Sent.target =
        List.replicate 3 "/apis/metrics.k8s.io/v1beta1/nodes/worker-1" := by
  intro c answers
  have delays : c.HasDelays := Client.hasDelays_standard_zero none
  have written : requestTarget? (.nodeUsage "worker-1") =
      some "/apis/metrics.k8s.io/v1beta1/nodes/worker-1" := by
    decide
  have refused : RefusedBefore readMetricsObject answers 2 := by
    intro j before
    match j with
    | 0 => exact ⟨_, .unreachable "refused" rfl⟩
    | 1 => exact ⟨_, .errorStatus 503 "" rfl (by decide)⟩
  have accepted : Accepted readMetricsObject answers 2 (.object []) := accepted_metrics rfl
  obtain ⟨reads, -, undecodable, -, -⟩ := reads_to_first_accepted
  obtain ⟨-, usage, -, -⟩ := reads c answers rfl delays
  obtain ⟨result, sent⟩ := (usage "worker-1").accepted _ 2 _ written (by decide) refused accepted
  exact ⟨result.trans (undecodable _ _ rfl), sent⟩

/-- **A request that cannot be written is not sent**, whatever the API would respond: there is no request
for a name with a blank, though the first response would be accepted. -/
theorem unwritten_name_is_not_sent :
    let c : Client := ⟨.standard, fun _ => .finite false 0, none⟩
    let answers : Answers := fun _ => .answered 200 "\x7b\x7d"
    c.HasDelays ∧ Accepted Node.ofTree? answers 0 ⟨none, none, none⟩ ∧
      (node c "a b" answers).sent = [] ∧
      (node c "a b" answers).result = .error (.api (.exhausted 5 .badRequest)) := by
  intro c answers
  have delays : c.HasDelays := Client.hasDelays_standard_zero none
  have accepted : Accepted Node.ofTree? answers 0 ⟨none, none, none⟩ := accepted_node rfl
  have unwritten : requestTarget? (.node "a b") = none := by decide
  obtain ⟨result, sent⟩ :=
    (answeredBy_read rfl delays (.node "a b") answers Node.ofTree? Except.ok).unwritten unwritten
  rw [andThen_ok] at result sent
  exact ⟨delays, accepted, sent, result⟩

end Cluster.Api

end StartupGate

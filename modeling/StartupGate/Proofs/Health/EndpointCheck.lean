/-
# StartupGate.Proofs.Health.EndpointCheck -- all endpoints have to be reached, each by any address

The check walks the endpoints up to the first that is not reached, and each raw endpoint the addresses of its
family up to the first that takes a connection.  So it stops on a failure outside and on a success inside.

* `EndpointCheck.healthy_iff`: it passes if and only if the network can reach every endpoint.
* `EndpointCheck.run_upToFirst`: which endpoints are probed.
* `EndpointCheck.run_all_of_any`: both walks together, and the error of each raw endpoint.
-/
import StartupGate.Health.EndpointCheck
import StartupGate.Proofs.Network.Probe

set_option autoImplicit false

namespace StartupGate.EndpointCheck

variable {c : EndpointCheck} {net : Network} {e : Endpoint} {endpoints : List Endpoint}
  {reached : Endpoint → Bool}

/-! ## The walk through the endpoints -/

theorem probeAll_healthy_iff : (probeAll reached endpoints).1 = true ↔ ∀ e ∈ endpoints, reached e = true := by
  induction endpoints with
  | nil => simp [probeAll]
  | cons e rest ih =>
      by_cases found : reached e = true
      · simp [probeAll, found, ih]
      · simp [probeAll, found]

/-- **Endpoints are probed in order up to the first that is not reached.** -/
theorem probeAll_upToFirst (reached : Endpoint → Bool) (endpoints : List Endpoint) :
    UpToFirst (fun e => ¬ reached e = true) endpoints (probeAll reached endpoints).2 := by
  induction endpoints with
  | nil => exact .all (by simp)
  | cons e rest ih =>
      by_cases found : reached e = true
      · simp only [probeAll, found, if_true]
        exact .next (not_not_intro found) ih
      · simp only [probeAll, found]
        exact .stop found

/-! ## The check -/

/-- The verdict is that on each endpoint, whatever their order. -/
theorem healthy_eq_of_perm {order : List Endpoint} (perm : order.Perm c.endpoints) :
    (run ⟨order, c.timeout⟩ net).1 = (c.run net).1 := by
  unfold run
  rw [Bool.eq_iff_iff, probeAll_healthy_iff, probeAll_healthy_iff]
  simp only [perm.mem_iff]

section Prompt

variable (prompt : net.Prompt)

include prompt

theorem reaches_iff (timeout : Duration) : reaches net timeout e = true ↔ net.CanReach e := by
  rw [← Probe.endpoint_ok_iff prompt timeout]
  unfold reaches
  cases Probe.endpoint net timeout e with
  | ok => simp
  | error cause => simp

/-- **The check passes if and only if every endpoint can be reached.** -/
theorem healthy_iff : (c.run net).1 = true ↔ ∀ e ∈ c.endpoints, net.CanReach e := by
  unfold run
  simp only [probeAll_healthy_iff, reaches_iff prompt]

/-- **Which endpoints are probed**: all up to the first that cannot be reached. -/
theorem run_upToFirst (c : EndpointCheck) :
    UpToFirst (fun e => ¬ net.CanReach e) c.endpoints (c.run net).2 := by
  have walk := probeAll_upToFirst (reaches net c.timeout) c.endpoints
  simp only [reaches_iff prompt] at walk
  exact walk

end Prompt

/-- **All endpoints have to be reached, each raw one by any address of its family.**  In a network where every
attempt is answered,

* a check passes if and only if every URL answers with a status of success and every raw endpoint has an
  address of its family that takes a connection, whatever the order of the endpoints;
* it probes them in order, up to and including the first that is not reached;
* a probe of a raw endpoint tries the addresses of the family in order, up to and including the first that
  takes a connection, and no other address;
* its error is that there is no address if and only if there is none of the family, and otherwise that of
  the last one.  A host without addresses is an error for that cause. -/
theorem run_all_of_any (c : EndpointCheck) (net : Network) (prompt : net.Prompt) :
    ((c.run net).1 = true ↔ ∀ e ∈ c.endpoints, net.CanReach e) ∧
    (∀ order : List Endpoint, order.Perm c.endpoints →
      (run ⟨order, c.timeout⟩ net).1 = (c.run net).1) ∧
    UpToFirst (fun e => ¬ net.CanReach e) c.endpoints (c.run net).2 ∧
    ∀ (t : Transport) (host : String) (port : Nat),
      let result := Probe.endpoint net c.timeout (.raw t host port)
      let tried := (Probe.raw net c.timeout t host port).2
      (∀ cause, net.resolve host port = .error cause → result = .error (.connect cause) ∧ tried = []) ∧
      ∀ addresses, net.resolve host port = .ok addresses →
        let candidates := addresses.filter fun a => t.OfFamily a
        UpToFirst (fun a => net.connect t.isUdp a = .connected) candidates tried ∧
        (∀ a ∈ tried, a ∈ addresses ∧ t.OfFamily a) ∧
        (∀ protocol address, result = .error (.noAddress protocol address) ↔
          candidates = [] ∧ protocol = t.name ∧ address = Endpoint.addressText host port) ∧
        (candidates ≠ [] → (∀ a ∈ candidates, net.connect t.isUdp a ≠ .connected) →
          ∃ a cause, candidates.getLast? = some a ∧ net.connect t.isUdp a = .failed cause ∧
            result = .error (.connect cause)) := by
  refine ⟨healthy_iff prompt, fun order perm => healthy_eq_of_perm perm, run_upToFirst prompt c, ?_⟩
  intro t host port result tried
  refine ⟨?_, ?_⟩
  · intro cause unresolved
    have nothing := Probe.raw_of_unresolved c.timeout t unresolved
    exact ⟨congrArg Prod.fst nothing, congrArg Prod.snd nothing⟩
  · intro addresses resolved candidates
    have walk := Probe.raw_upToFirst (t := t) prompt resolved c.timeout
    exact ⟨walk, fun a member => Transport.mem_candidates.mp (walk.mem member),
      Probe.endpoint_noAddress_iff prompt resolved c.timeout,
      Probe.endpoint_eq_lastFailure prompt resolved c.timeout⟩

/-- A host with three addresses of the fourth version, of which the second takes a connection, and one of the
sixth, which does not; one URL is up and one is down. -/
theorem run_all_of_any_half_up :
    let address (family : AddressFamily) (host : String) : SocketAddress := ⟨family, host, 5432⟩
    let net : Network :=
      ⟨fun _ _ => .ok [address .v6 "::1", address .v4 "10.0.0.1", address .v4 "10.0.0.2", address .v4 "10.0.0.3"],
        fun _ a => if a.host = "10.0.0.2" then .connected else .failed .connectionRefused,
        fun url => .ok (if url = "http://up" then 204 else 503)⟩
    let endpoints : List Endpoint :=
      [.http false "http://up", .raw .tcp4 "db" 5432, .http false "http://down", .raw .tcp6 "db" 5432]
    let c : EndpointCheck := ⟨endpoints, .ofSeconds 5⟩
    net.Prompt ∧ (c.run net).1 = false ∧ (c.run net).2 = endpoints.take 3 ∧
      (run ⟨endpoints.reverse, c.timeout⟩ net).1 = false ∧
      (Probe.raw net c.timeout .tcp4 "db" 5432).2 = [address .v4 "10.0.0.1", address .v4 "10.0.0.2"] ∧
      Probe.endpoint net c.timeout (.raw .tcp6 "db" 5432) = .error (.connect .connectionRefused) := by
  intro address net endpoints c
  have prompt : net.Prompt := by
    intro udp a
    simp only [net]
    split <;> simp
  obtain ⟨verdict, order, -, raw⟩ := run_all_of_any c net prompt
  have down : ¬ net.CanReach (.http false "http://down") := by
    simp [Network.CanReach, net]
  have fails : (c.run net).1 = false := by
    rw [← Bool.not_eq_true, verdict]
    intro all
    exact down (all _ (by simp [c, endpoints]))
  obtain ⟨-, behind⟩ := raw .tcp6 "db" 5432
  obtain ⟨-, -, -, last⟩ := behind _ rfl
  have refused : Probe.endpoint net c.timeout (.raw .tcp6 "db" 5432) =
      .error (.connect .connectionRefused) := by
    obtain ⟨a, cause, isLast, failed, error⟩ := last (by decide) (by decide)
    cases isLast
    cases failed
    exact error
  exact ⟨prompt, fails, by decide, (order _ (List.reverse_perm _)).trans fails, by decide, refused⟩

end StartupGate.EndpointCheck

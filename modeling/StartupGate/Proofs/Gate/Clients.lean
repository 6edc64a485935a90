/-
# StartupGate.Proofs.Gate.Clients -- clients that wait hold no more leases than there is room

Answers may be lost: a lease granted to a request whose client has stopped waiting belongs to
nobody, and the client asks again.  So grants and clients that hold one are not in
bijection, and the bound on grants (`Floor.Sound`) carries over in one direction only.  What
links the two sides is the number of a request:

* a request goes on from stage to stage and, once answered, stays as it is
  (`Floor.step_request`);
* every request that a client has sent is at the gate with the client's own parameters, no
  two clients sent the same one, and a client that holds a lease does so by a request of its
  own that was answered with that very lease (`WaitingRoom.Linked`).

`WaitingRoom.holders_within_capacity` reads off what holds in every reachable state.  Seen from
one client, a run of the room is a wait of `LockClient` for what the client hears
(`WaitingRoom.Sound.hasHeard_run`, `LeaseClient.HasHeard.wait`).
-/
import Mathlib.Data.List.Induction
import Mathlib.Data.List.Nodup
import Mathlib.Data.List.Perm.Subperm
import StartupGate.Gate.Clients
import StartupGate.Gate.Server
import StartupGate.LockClient
import StartupGate.Proofs.Gate.Capacity

set_option autoImplicit false

namespace StartupGate

/-! ## Requests at the gate -/

namespace Floor

variable {f : Floor} {i : Nat} {r : LeaseRequest}

/-- A request may go on from one stage to another: one that is answered stays so. -/
def MayGoOn (r : LeaseRequest) (stage : RequestStage) : Prop :=
  ∀ outcome lease, r.stage = .answered outcome lease → stage = .answered outcome lease

/-- The step of a request changes no other request, and itself only if it is not yet answered. -/
theorem requests_proceed (f : Floor) (i : Nat) :
    (f.proceed i).requests = f.requests ∨
      ∃ r stage, f.requests[i]? = some r ∧ MayGoOn r stage ∧
        (f.proceed i).requests = f.requests.modify i fun r => { r with stage } := by
  simp only [proceed]
  cases found : f.requests[i]? with
  | none => exact .inl rfl
  | some r =>
      obtain ⟨params, stage⟩ := r
      cases stage with
      | arrived =>
          refine .inr ⟨_, if f.gate.isHealthy then .sawHealthy else .decided .unhealthy none, rfl,
            fun _ _ answered => ?_, ?_⟩
          · cases answered
          · cases f.gate.isHealthy <;> rfl
      | sawHealthy =>
          have taken : (f.takeLease i params).requests = f.requests.modify i fun r =>
              { r with stage := if (f.gate.acquire f.now (f.gate.leaseDuration params)).1 then
                  .decided .granted (some f.grants.length) else .decided .locked none } := by
            rw [takeLease]
            cases f.gate.acquire f.now (f.gate.leaseDuration params) with
            | mk granted gate => cases granted <;> rfl
          refine .inr ⟨_, _, rfl, fun _ _ answered => ?_, taken⟩
          cases answered
      | decided outcome lease =>
          refine .inr ⟨_, .answered outcome lease, rfl, fun _ _ answered => ?_, rfl⟩
          cases answered
      | answered outcome lease => exact .inl rfl

/-- **What becomes of a request in a step**: it keeps its number and its parameters, and once answered
also its answer. -/
theorem step_request (found : f.requests[i]? = some r) (e : FloorEvent) :
    ∃ stage, (f.step e).requests[i]? = some { r with stage } ∧ MayGoOn r stage := by
  have same : MayGoOn r r.stage := fun _ _ answered => answered
  cases e with
  | arrive params =>
      have inside : i < f.requests.length := (List.getElem?_eq_some_iff.mp found).1
      exact ⟨r.stage, (List.getElem?_append_left inside).trans found, same⟩
  | publish signal healthy => exact ⟨r.stage, found, same⟩
  | advance d => exact ⟨r.stage, found, same⟩
  | proceed j =>
      rw [step]
      rcases f.requests_proceed j with kept | ⟨r', stage, foundJ, goesOn, modified⟩
      · exact ⟨r.stage, kept ▸ found, same⟩
      · rw [modified]
        by_cases here : j = i
        · subst here
          obtain rfl : r = r' := Option.some.inj (found.symm.trans foundJ)
          exact ⟨stage, by simp [found], goesOn⟩
        · exact ⟨r.stage, by simp [found, here], same⟩

/-- **A request that nothing comes between is decided as a whole**: three steps of it leave the gate as
`Gate.requestLease` does, and give its outcome. -/
theorem proceed_undisturbed (found : f.requests[i]? = some r) (arrived : r.stage = .arrived) :
    let f' := ((f.proceed i).proceed i).proceed i
    let decided := f.gate.requestLease f.now r.params
    f'.gate = decided.2 ∧ ∃ lease, f'.requests[i]? = some ⟨r.params, .answered decided.1 lease⟩ := by
  obtain ⟨params, stage⟩ := r
  cases arrived
  cases healthy : f.gate.isHealthy with
  | false => simp [proceed, found, healthy, setStage, Gate.requestLease]
  | true =>
      cases taken : f.gate.acquire f.now (f.gate.leaseDuration params) with
      | mk granted gate =>
          cases granted <;>
            simp [proceed, takeLease, found, healthy, setStage, Gate.requestLease, taken]

/-- Of leases with different numbers no more have a property than of all leases of the record. -/
theorem length_filter_le {numbers : List Nat} (nodup : numbers.Nodup) (grants : List Grant)
    (p : Grant → Bool) :
    (numbers.filter fun n => grants[n]?.any p).length ≤ (grants.filter p).length := by
  have all : ((List.range grants.length).filter fun n => grants[n]?.any p).length =
      (grants.filter p).length := by
    induction grants using List.reverseRecOn with
    | nil => rfl
    | append_singleton grants g ih =>
        have earlier : (List.range grants.length).filter (fun n => (grants ++ [g])[n]?.any p) =
            (List.range grants.length).filter fun n => grants[n]?.any p := by
          refine List.filter_congr fun n member => ?_
          rw [List.getElem?_append_left (List.mem_range.mp member)]
        rw [List.length_append, List.length_singleton, List.range_succ, List.filter_append,
          List.filter_append, List.length_append, List.length_append, earlier, ih]
        simp [List.filter_singleton]
        cases p g <;> rfl
  rw [← all]
  refine (List.subperm_of_subset (nodup.filter _) fun n member => ?_).length_le
  obtain ⟨-, has⟩ := List.mem_filter.mp member
  refine List.mem_filter.mpr ⟨List.mem_range.mpr ?_, has⟩
  by_contra beyond
  rw [List.getElem?_eq_none (Nat.not_lt.mp beyond)] at has
  cases has

end Floor

/-! ## One step of the room -/

/-- The status with which a request was answered. -/
def LeaseRequest.status? (r : LeaseRequest) : Option Nat :=
  match r.stage with
  | .answered outcome _ => some (Gate.outcomeAnswer outcome).1
  | _ => none

namespace LeaseClient

/-- The number of the lease that a client holds. -/
def held? (c : LeaseClient) : Option Nat :=
  match c.stage with
  | .holding _ lease => some lease
  | .pausing => none
  | .waiting _ => none
  | .gone => none

/-- The number of the request that a client waits for. -/
def awaited? (c : LeaseClient) : Option Nat :=
  match c.stage with
  | .waiting number => some number
  | .pausing => none
  | .holding _ _ => none
  | .gone => none

/-- A client goes over to another stage without sending, by what it hears: that the request it waits for
was granted a lease, that it was not, or that the shutdown has come.  One that holds a lease goes over
to none. -/
inductive MovesOn (f : Floor) (c : LeaseClient) :
    Option (Except HttpFailure Nat) → LeaseClientStage → Prop where
  | granted {n lease : Nat} {r : LeaseRequest} : c.stage = .waiting n → f.requests[n]? = some r →
      r.stage = .answered .granted (some lease) →
      MovesOn f c (some (.ok LockClient.grantedStatus)) (.holding n lease)
  | denied {n : Nat} {result : Except HttpFailure Nat} : c.stage = .waiting n →
      LockClient.isGrant result = false → MovesOn f c (some result) .pausing
  | leaves : c.held? = none → MovesOn f c none .gone

theorem MovesOn.held?_eq {f : Floor} {c : LeaseClient} {heard : Option (Except HttpFailure Nat)}
    {stage : LeaseClientStage} (moves : c.MovesOn f heard stage) : c.held? = none := by
  cases moves with
  | granted waiting _ _ => rw [held?, waiting]
  | denied waiting _ => rw [held?, waiting]
  | leaves empty => exact empty

end LeaseClient

namespace WaitingRoom

/-- What a client waits for has been answered with a status. -/
def answerTo? (w : WaitingRoom) (i : Nat) : Option Nat := do
  let c ← w.clients[i]?
  let r ← w.floor.requests[← c.awaited?]?
  r.status?

/-- The client that hears something in an event, and what: the status of an answer, or that its time is
up. -/
def hears? (w : WaitingRoom) : WaitingEvent → Option (Nat × Except HttpFailure Nat)
  | .deliver i => (w.answerTo? i).map fun status => (i, .ok status)
  | .giveUp i => (w.clients[i]?.bind LeaseClient.awaited?).map fun _ => (i, .error .timeout)
  | .send _ => none
  | .shutdown _ => none
  | .floor _ => none

/-- The client of a number goes over to a stage. -/
def setStage (w : WaitingRoom) (i : Nat) (c : LeaseClient) (stage : LeaseClientStage) :
    WaitingRoom :=
  { w with clients := w.clients.set i { c with stage } }

/-- The client of a number waits for the answer to a request that has just arrived. -/
def sent (w : WaitingRoom) (i : Nat) (c : LeaseClient) : WaitingRoom :=
  let number := w.floor.requests.length
  ⟨w.floor.step (.arrive c.params),
    w.clients.set i { c with sent := c.sent ++ [number], stage := .waiting number }⟩

/-- What a step of the room can be, with what is heard in it: nothing, a step of the gate alone, one
client that moves on, or one that sends a request. -/
inductive StepCase (w : WaitingRoom) :
    Option (Nat × Except HttpFailure Nat) → WaitingRoom → Prop where
  | rests : StepCase w none w
  | floor (event : FloorEvent) : StepCase w none { w with floor := w.floor.step event }
  | moves {i : Nat} {c : LeaseClient} {heard : Option (Except HttpFailure Nat)}
      {stage : LeaseClientStage} : w.clients[i]? = some c → c.MovesOn w.floor heard stage →
      StepCase w (heard.map fun result => (i, result)) (w.setStage i c stage)
  | sends {i : Nat} {c : LeaseClient} : w.clients[i]? = some c → c.stage = .pausing →
      StepCase w none (w.sent i c)

variable {w : WaitingRoom} {i : Nat} {c : LeaseClient}

theorem set_self (found : w.clients[i]? = some c) : { w with clients := w.clients.set i c } = w := by
  obtain ⟨inside, rfl⟩ := List.getElem?_eq_some_iff.mp found
  rw [List.set_getElem_self]

theorem modify_eq (found : w.clients[i]? = some c) (f : LeaseClient → LeaseClient) :
    { w with clients := w.clients.modify i f } = { w with clients := w.clients.set i (f c) } := by
  rw [List.modify_eq_set_getElem?, found]
  rfl

theorem modify_of_none (absent : w.clients[i]? = none) (f : LeaseClient → LeaseClient) :
    { w with clients := w.clients.modify i f } = w := by
  rw [List.modify_eq_set_getElem?, absent]
  rfl

theorem stepCase_send (w : WaitingRoom) (i : Nat) : StepCase w none (w.send i) := by
  rw [send]
  split
  · exact .rests
  · rename_i c found
    split
    · rename_i pausing
      exact .sends found pausing
    all_goals exact .rests

theorem stepCase_giveUp (w : WaitingRoom) (i : Nat) :
    StepCase w (w.hears? (.giveUp i)) (w.step (.giveUp i)) := by
  simp only [hears?, step]
  cases found : w.clients[i]? with
  | none =>
      rw [modify_of_none found]
      exact .rests
  | some c =>
      rw [modify_eq found]
      obtain ⟨params, sent, stage⟩ := c
      cases stage with
      | waiting n => exact .moves found (.denied rfl rfl)
      | _ => exact (set_self found).symm ▸ .rests

theorem stepCase_shutdown (w : WaitingRoom) (i : Nat) :
    StepCase w none (w.step (.shutdown i)) := by
  simp only [step]
  cases found : w.clients[i]? with
  | none =>
      rw [modify_of_none found]
      exact .rests
  | some c =>
      rw [modify_eq found]
      obtain ⟨params, sent, stage⟩ := c
      cases stage with
      | waiting n => exact .moves found (.leaves rfl)
      | pausing => exact .moves found (.leaves rfl)
      | _ => exact (set_self found).symm ▸ .rests

/-- A request that was granted a lease at a sound gate has the number of one. -/
theorem lease_of_granted {capacity : Nat} {default : Duration} {f : Floor}
    (sound : f.Sound capacity default) {n : Nat} {r : LeaseRequest} {lease : Option Nat}
    (found : f.requests[n]? = some r) (answer : r.stage = .answered .granted lease) :
    ∃ number, lease = some number := by
  have granted : f.granted? n = some (r.params, lease) := by
    rw [Floor.granted?, found, Option.bind_some, LeaseRequest.granted?, answer]
  obtain ⟨number, -, same, -⟩ := sound.owns n r.params lease granted
  exact ⟨number, same⟩

theorem stepCase_deliver {capacity : Nat} {default : Duration}
    (sound : w.floor.Sound capacity default) (i : Nat) :
    StepCase w (w.hears? (.deliver i)) (w.step (.deliver i)) := by
  simp only [hears?, step, deliver, answerTo?]
  cases found : w.clients[i]? with
  | none => exact .rests
  | some c =>
      obtain ⟨params, sent, stage⟩ := c
      cases stage with
      | waiting n =>
          cases foundR : w.floor.requests[n]? with
          | none => simpa [LeaseClient.awaited?, foundR] using StepCase.rests
          | some r =>
              obtain ⟨asked, answer⟩ := r
              simp only [LeaseClient.awaited?, Option.bind_eq_bind, Option.bind_some, foundR]
              cases answer with
              | answered outcome lease =>
                  cases outcome with
                  | granted =>
                      obtain ⟨number, rfl⟩ := lease_of_granted sound foundR rfl
                      exact .moves found (.granted rfl foundR rfl)
                  | locked => exact .moves found (.denied rfl rfl)
                  | unhealthy => exact .moves found (.denied rfl rfl)
              | _ => exact (set_self found).symm ▸ .rests
      | _ => exact .rests

/-- **What a step of the room can be.** -/
theorem stepCase {capacity : Nat} {default : Duration} (sound : w.floor.Sound capacity default)
    (e : WaitingEvent) : StepCase w (w.hears? e) (w.step e) := by
  cases e with
  | send i => exact stepCase_send w i
  | deliver i => exact stepCase_deliver sound i
  | giveUp i => exact stepCase_giveUp w i
  | shutdown i => exact stepCase_shutdown w i
  | floor event => exact .floor event

end WaitingRoom

/-! ## What links clients and requests -/

/-- What a client goes by is so at the gate: the requests it has sent are there with its parameters, and a
lease that it holds was granted to one of them. -/
structure LeaseClient.Linked (f : Floor) (c : LeaseClient) : Prop where
  sent : ∀ n ∈ c.sent, ∃ stage, f.requests[n]? = some ⟨c.params, stage⟩
  waiting : ∀ n, c.stage = .waiting n → n ∈ c.sent
  holding : ∀ n lease, c.stage = .holding n lease →
    n ∈ c.sent ∧ f.requests[n]? = some ⟨c.params, .answered .granted (some lease)⟩

/-- Requests go on, and what a client goes by stays so. -/
theorem LeaseClient.Linked.step {f : Floor} {c : LeaseClient} (linked : c.Linked f)
    (e : FloorEvent) : c.Linked (f.step e) where
  sent n member := by
    obtain ⟨stage, found⟩ := linked.sent n member
    obtain ⟨stage', found', -⟩ := Floor.step_request found e
    exact ⟨stage', found'⟩
  waiting := linked.waiting
  holding n lease holds := by
    obtain ⟨member, found⟩ := linked.holding n lease holds
    obtain ⟨stage, found', goesOn⟩ := Floor.step_request found e
    obtain rfl := goesOn .granted (some lease) rfl
    exact ⟨member, found'⟩

/-- A client moves on in accordance with what its requests were answered. -/
theorem LeaseClient.Linked.movesOn {f : Floor} {c : LeaseClient} (linked : c.Linked f)
    {heard : Option (Except HttpFailure Nat)} {stage : LeaseClientStage}
    (moves : c.MovesOn f heard stage) : LeaseClient.Linked f { c with stage } := by
  cases moves with
  | @granted n lease r waiting found answer =>
      refine ⟨linked.sent, nofun, ?_⟩
      rintro _ _ ⟨⟩
      have member : n ∈ c.sent := linked.waiting n waiting
      obtain ⟨stage, known⟩ := linked.sent n member
      obtain rfl := Option.some.inj (found.symm.trans known)
      exact ⟨member, answer ▸ known⟩
  | denied _ _ => exact ⟨linked.sent, nofun, nofun⟩
  | leaves _ => exact ⟨linked.sent, nofun, nofun⟩

namespace WaitingRoom

/-- Every client is linked to its requests, and no two clients have sent the same one. -/
structure Linked (w : WaitingRoom) : Prop where
  client : ∀ c ∈ w.clients, c.Linked w.floor
  apart : ∀ (i j : Nat) (c d : LeaseClient), w.clients[i]? = some c → w.clients[j]? = some d →
    ∀ n ∈ c.sent, n ∈ d.sent → i = j

variable {w w' : WaitingRoom} {heard : Option (Nat × Except HttpFailure Nat)}

theorem linked_new (gate : Gate) (params : List (List (String × String))) :
    (new gate params).Linked where
  client c member := by
    obtain ⟨p, -, rfl⟩ := List.mem_map.mp member
    exact ⟨nofun, nofun, nofun⟩
  apart i j c d foundC := by
    obtain ⟨p, -, rfl⟩ := List.mem_map.mp (List.mem_of_getElem? foundC)
    exact nofun

/-- In a list with one client set, each client is the one set or was there before. -/
theorem getElem?_setClient {clients : List LeaseClient} {i j : Nat} {c d : LeaseClient}
    (found : (clients.set i c)[j]? = some d) :
    j = i ∧ d = c ∨ j ≠ i ∧ clients[j]? = some d := by
  rw [List.getElem?_set] at found
  by_cases here : i = j
  · rw [if_pos here] at found
    split at found
    · exact .inl ⟨here.symm, (Option.some.inj found).symm⟩
    · cases found
  · rw [if_neg here] at found
    exact .inr ⟨fun same => here same.symm, found⟩

theorem Linked.setStage (linked : w.Linked) {i : Nat} {c : LeaseClient}
    (found : w.clients[i]? = some c) {result : Option (Except HttpFailure Nat)}
    {stage : LeaseClientStage} (moves : c.MovesOn w.floor result stage) :
    (w.setStage i c stage).Linked where
  client d member := by
    rcases List.mem_or_eq_of_mem_set member with old | rfl
    · exact linked.client d old
    · exact (linked.client c (List.mem_of_getElem? found)).movesOn moves
  apart j k a b foundA foundB n inA inB := by
    -- every client has sent what it had sent before
    have before : ∀ (j : Nat) (a : LeaseClient), (w.clients.set i { c with stage })[j]? = some a →
        ∃ a', w.clients[j]? = some a' ∧ a'.sent = a.sent := by
      intro j a foundA
      rcases getElem?_setClient foundA with ⟨rfl, rfl⟩ | ⟨-, old⟩
      · exact ⟨c, found, rfl⟩
      · exact ⟨a, old, rfl⟩
    obtain ⟨a', foundA', sameA⟩ := before j a foundA
    obtain ⟨b', foundB', sameB⟩ := before k b foundB
    exact linked.apart j k a' b' foundA' foundB' n (sameA ▸ inA) (sameB ▸ inB)

theorem Linked.sent (linked : w.Linked) {i : Nat} {c : LeaseClient}
    (found : w.clients[i]? = some c) : (w.sent i c).Linked where
  client d member := by
    have own := (linked.client c (List.mem_of_getElem? found)).step (.arrive c.params)
    rcases List.mem_or_eq_of_mem_set member with old | rfl
    · exact (linked.client d old).step (.arrive c.params)
    · refine ⟨fun n inSent => ?_, ?_, nofun⟩
      · rcases List.mem_append.mp inSent with old | new
        · exact own.sent n old
        · obtain rfl := List.mem_singleton.mp new
          exact ⟨.arrived, List.getElem?_concat_length⟩
      · rintro n ⟨⟩
        exact List.mem_append_right _ (List.mem_singleton_self _)
  apart j k a b foundA foundB n inA inB := by
    -- no client has sent the newest request before
    have fresh : ∀ (j : Nat) (a : LeaseClient), w.clients[j]? = some a →
        w.floor.requests.length ∉ a.sent := by
      intro j a foundA inA
      obtain ⟨stage, known⟩ := (linked.client a (List.mem_of_getElem? foundA)).sent _ inA
      exact Nat.lt_irrefl _ (List.getElem?_eq_some_iff.mp known).1
    rcases getElem?_setClient foundA with ⟨rfl, rfl⟩ | ⟨-, oldA⟩ <;>
      rcases getElem?_setClient foundB with ⟨rfl, rfl⟩ | ⟨-, oldB⟩
    · rfl
    · rcases List.mem_append.mp inA with old | new
      · exact linked.apart j k c b found oldB n old inB
      · exact absurd (List.mem_singleton.mp new ▸ inB) (fresh k b oldB)
    · rcases List.mem_append.mp inB with old | new
      · exact linked.apart j k a c oldA found n inA old
      · exact absurd (List.mem_singleton.mp new ▸ inA) (fresh j a oldA)
    · exact linked.apart j k a b oldA oldB n inA inB

theorem StepCase.linked (step : StepCase w heard w') (linked : w.Linked) : w'.Linked := by
  cases step with
  | rests => exact linked
  | floor event => exact ⟨fun c member => (linked.client c member).step event, linked.apart⟩
  | moves found moves => exact linked.setStage found moves
  | sends found _ => exact linked.sent found

theorem StepCase.floor_sound {capacity : Nat} {default : Duration} (step : StepCase w heard w')
    (sound : w.floor.Sound capacity default) : w'.floor.Sound capacity default := by
  cases step with
  | rests => exact sound
  | floor event => exact Floor.sound_step sound event
  | moves _ _ => exact sound
  | @sends i c _ _ => exact Floor.sound_step sound (.arrive c.params)

/-- A client that holds a lease stays as it is. -/
theorem StepCase.holds (step : StepCase w heard w') {i : Nat} {c : LeaseClient}
    (found : w.clients[i]? = some c) (holds : c.held?.isSome) : w'.clients[i]? = some c := by
  cases step with
  | rests => exact found
  | floor event => exact found
  | @moves j d result stage foundD moves =>
      have other : j ≠ i := by
        rintro rfl
        cases foundD.symm.trans found
        rw [moves.held?_eq] at holds
        cases holds
      exact (List.getElem?_set_ne other).trans found
  | @sends j d foundD pausing =>
      have other : j ≠ i := by
        rintro rfl
        cases foundD.symm.trans found
        rw [LeaseClient.held?, pausing] at holds
        cases holds
      exact (List.getElem?_set_ne other).trans found

end WaitingRoom

/-! ## What a client has heard -/

/-- So is a client that has heard answers and failures in order: it holds a lease exactly if the last was
a grant, none before was one, and it has sent a request for each, and one more if it waits. -/
structure LeaseClient.HasHeard (c : LeaseClient) (heard : List (Except HttpFailure Nat)) : Prop where
  empty : c.held? = none → ∀ result ∈ heard, LockClient.isGrant result = false
  holds : c.held?.isSome → ∃ earlier, heard = earlier ++ [.ok LockClient.grantedStatus] ∧
    ∀ result ∈ earlier, LockClient.isGrant result = false
  answered : c.stage = .pausing ∨ c.held?.isSome → c.sent.length = heard.length
  unanswered : ∀ n, c.stage = .waiting n → c.sent.length = heard.length + 1

theorem LeaseClient.HasHeard.movesOn {f : Floor} {c : LeaseClient}
    {heard : List (Except HttpFailure Nat)} (has : c.HasHeard heard)
    {result : Option (Except HttpFailure Nat)} {stage : LeaseClientStage}
    (moves : c.MovesOn f result stage) :
    LeaseClient.HasHeard { c with stage } (heard ++ result.toList) := by
  have denied := has.empty moves.held?_eq
  cases moves with
  | @granted n lease r waiting _ _ =>
      have count : c.sent.length = heard.length + 1 := has.unanswered n waiting
      refine ⟨nofun, fun _ => ⟨heard, rfl, denied⟩, fun _ => ?_, nofun⟩
      rw [List.length_append]
      exact count
  | @denied n result waiting noGrant =>
      have count : c.sent.length = heard.length + 1 := has.unanswered n waiting
      refine ⟨fun _ => ?_, nofun, fun _ => ?_, nofun⟩
      · intro x member
        rcases List.mem_append.mp member with old | new
        · exact denied x old
        · obtain rfl := List.mem_singleton.mp new
          exact noGrant
      · rw [List.length_append]
        exact count
  | leaves _ =>
      rw [Option.toList_none, List.append_nil]
      exact ⟨fun _ => denied, nofun, fun idle => idle.elim nofun nofun, nofun⟩

theorem LeaseClient.HasHeard.sends {c : LeaseClient} {heard : List (Except HttpFailure Nat)}
    (has : c.HasHeard heard) (pausing : c.stage = .pausing) (n : Nat) :
    LeaseClient.HasHeard { c with sent := c.sent ++ [n], stage := .waiting n } heard where
  empty _ := has.empty (by rw [LeaseClient.held?, pausing])
  holds := nofun
  answered idle := idle.elim nofun nofun
  unanswered _ _ := by
    rw [List.length_append, has.answered (.inl pausing)]
    rfl

namespace WaitingRoom

variable {w w' : WaitingRoom}

/-- What the client of a number hears along events, in order. -/
def heardBy (i : Nat) : WaitingRoom → List WaitingEvent → List (Except HttpFailure Nat)
  | _, [] => []
  | w, e :: rest =>
      ((w.hears? e).bind fun (j, result) => if j = i then some result else none).toList ++
        heardBy i (w.step e) rest

/-- A client that has heard something hears on. -/
theorem StepCase.hasHeard {heard : Option (Nat × Except HttpFailure Nat)}
    (step : StepCase w heard w') {i : Nat} {before : List (Except HttpFailure Nat)}
    (has : ∀ c, w.clients[i]? = some c → c.HasHeard before) (c : LeaseClient)
    (found : w'.clients[i]? = some c) :
    c.HasHeard (before ++
      (heard.bind fun (j, result) => if j = i then some result else none).toList) := by
  cases step with
  | rests => simpa using has c found
  | floor event => simpa using has c found
  | @moves j d result stage foundD moves =>
      rcases getElem?_setClient found with ⟨rfl, rfl⟩ | ⟨other, old⟩
      · have next := (has d foundD).movesOn moves
        cases result <;> simpa using next
      · have silent : ∀ result : Option (Except HttpFailure Nat),
            ((result.map fun x => (j, x)).bind fun (k, x) =>
              if k = i then some x else none) = none := by
          intro result
          cases result with
          | none => rfl
          | some x => exact if_neg fun same => other same.symm
        rw [silent]
        simpa using has c old
  | @sends j d foundD pausing =>
      rcases getElem?_setClient found with ⟨rfl, rfl⟩ | ⟨-, old⟩
      · simpa using (has d foundD).sends pausing w.floor.requests.length
      · simpa using has c old

/-! ## Whole runs -/

/-- What every step of the room keeps. -/
structure Sound (capacity : Nat) (default : Duration) (w : WaitingRoom) : Prop where
  floor : w.floor.Sound capacity default
  linked : w.Linked

variable {capacity : Nat} {default : Duration}

theorem Sound.step (sound : w.Sound capacity default) (e : WaitingEvent) :
    (w.step e).Sound capacity default :=
  let step := stepCase sound.floor e
  ⟨step.floor_sound sound.floor, step.linked sound.linked⟩

theorem Sound.run (sound : w.Sound capacity default) (events : List WaitingEvent) :
    (w.run events).Sound capacity default := by
  induction events generalizing w with
  | nil => exact sound
  | cons e events ih => exact ih (sound.step e)

/-- A client that holds a lease stays as it is for ever. -/
theorem Sound.holds_run (sound : w.Sound capacity default) {i : Nat} {c : LeaseClient}
    (found : w.clients[i]? = some c) (holds : c.held?.isSome) (events : List WaitingEvent) :
    (w.run events).clients[i]? = some c := by
  induction events generalizing w with
  | nil => exact found
  | cons e events ih => exact ih (sound.step e) ((stepCase sound.floor e).holds found holds)

theorem Sound.hasHeard_run (sound : w.Sound capacity default) {i : Nat}
    {before : List (Except HttpFailure Nat)}
    (has : ∀ c, w.clients[i]? = some c → c.HasHeard before) (events : List WaitingEvent)
    {c : LeaseClient} (found : (w.run events).clients[i]? = some c) :
    c.HasHeard (before ++ heardBy i w events) := by
  induction events generalizing w before with
  | nil =>
      rw [heardBy, List.append_nil]
      exact has c found
  | cons e events ih =>
      rw [heardBy, ← List.append_assoc]
      exact ih (sound.step e) ((stepCase sound.floor e).hasHeard has) found

end WaitingRoom

/-! ## The room as a wait -/

namespace LockClient

variable {period : Duration} {polls : Nat → Poll}

variable (period) in
/-- A wait goes on past requests that are denied. -/
theorem waitFrom_denied {n k : Nat}
    (denied : ∀ j < n, ∃ result takes, polls (k + j) = .ends result takes ∧ isGrant result = false)
    (more : Nat) (now : Millis) :
    ∃ later, (waitFrom period polls none (n + more) k now).ending =
        (waitFrom period polls none more (k + n) later).ending ∧
      (waitFrom period polls none (n + more) k now).requests.length =
        n + (waitFrom period polls none more (k + n) later).requests.length := by
  induction n generalizing k now with
  | zero => exact ⟨now, by simp, by simp⟩
  | succ n ih =>
      obtain ⟨result, takes, first, noGrant⟩ := denied 0 (Nat.succ_pos n)
      have rest : ∀ j < n, ∃ result takes, polls (k + 1 + j) = .ends result takes ∧
          isGrant result = false := by
        intro j bound
        rw [Nat.add_right_comm]
        exact denied (j + 1) (Nat.succ_lt_succ bound)
      obtain ⟨later, ending, requests⟩ := ih rest (Millis.wake (now + takes) period)
      rw [Nat.add_zero] at first
      have step : waitFrom period polls none (n + 1 + more) k now = Wait.requested now
          (waitFrom period polls none (n + more) (k + 1) (Millis.wake (now + takes) period)) := by
        rw [Nat.add_right_comm, waitFrom.eq_def]
        simp [first, shutdownBefore?, noGrant]
      rw [step, ← Nat.add_assoc, Nat.add_right_comm k n 1]
      refine ⟨later, ending, ?_⟩
      rw [Wait.requested, List.length_cons, requests]
      exact Nat.add_right_comm n _ 1

/-- A wait ends with the first grant. -/
theorem waitFrom_granted {k : Nat} {result : Except HttpFailure Nat} {takes : Millis}
    (next : polls k = .ends result takes) (grant : isGrant result = true) (more : Nat)
    (now : Millis) :
    waitFrom period polls none (more + 1) k now = ⟨.granted, [now], now + takes⟩ := by
  rw [waitFrom.eq_def]
  simp [next, shutdownBefore?, grant, Wait.requested]

/-- The requests of a wait whose results come in order. -/
def pollsFrom (results : List (Except HttpFailure Nat)) (takes : Nat → Millis) : Nat → Poll :=
  fun k => .ends (results[k]?.getD (.error .timeout)) (takes k)

end LockClient

/-- A client is where a wait for what it has heard ends, whatever the period and however long the requests
took. -/
theorem LeaseClient.HasHeard.wait {c : LeaseClient} {heard : List (Except HttpFailure Nat)}
    (has : c.HasHeard heard) (period : Duration) (takes : Nat → Millis) :
    let course := LockClient.wait period (LockClient.pollsFrom heard takes) none heard.length
    course.ending = (if c.held?.isSome then .granted else .waiting) ∧
      course.requests.length = heard.length := by
  intro course
  by_cases holds : c.held?.isSome
  · obtain ⟨earlier, rfl, noGrant⟩ := has.holds holds
    have denied : ∀ j < earlier.length, ∃ result t,
        LockClient.pollsFrom (earlier ++ [.ok LockClient.grantedStatus]) takes (0 + j) =
          .ends result t ∧ LockClient.isGrant result = false := by
      intro j bound
      refine ⟨earlier[j], takes j, ?_, noGrant _ (List.getElem_mem bound)⟩
      simp [LockClient.pollsFrom, List.getElem?_append_left, bound]
    obtain ⟨later, ending, requests⟩ :=
      LockClient.waitFrom_denied period denied 1 0
    have last : LockClient.pollsFrom (earlier ++ [.ok LockClient.grantedStatus]) takes
        (0 + earlier.length) = .ends (.ok LockClient.grantedStatus) (takes earlier.length) := by
      simp [LockClient.pollsFrom]
    rw [LockClient.waitFrom_granted last rfl] at ending requests
    have size : (earlier ++ [.ok LockClient.grantedStatus] :
        List (Except HttpFailure Nat)).length = earlier.length + 1 := List.length_append
    simp only [course, LockClient.wait, size, if_pos holds]
    exact ⟨ending, requests⟩
  · have none : c.held? = none := Option.not_isSome_iff_eq_none.mp holds
    have denied : ∀ j < heard.length, ∃ result t,
        LockClient.pollsFrom heard takes (0 + j) = .ends result t ∧
          LockClient.isGrant result = false := by
      intro j bound
      refine ⟨heard[j], takes j, ?_, has.empty none _ (List.getElem_mem bound)⟩
      simp [LockClient.pollsFrom, bound]
    obtain ⟨later, ending, requests⟩ :=
      LockClient.waitFrom_denied period denied 0 0
    simp only [course, LockClient.wait, if_neg holds]
    exact ⟨ending, requests⟩

/-! ## The bound -/

namespace WaitingRoom

variable {w : WaitingRoom} {capacity : Nat} {default : Duration}

/-- A client holds a lease that ends later than an instant. -/
def holdsBeyond (w : WaitingRoom) (t : Instant) (c : LeaseClient) : Bool :=
  c.held?.any fun lease => w.floor.grants[lease]?.any fun g => decide (t < g.expiry)

theorem heldLeases_eq (w : WaitingRoom) :
    w.heldLeases = w.clients.filterMap LeaseClient.held? := rfl

/-- A lease that a client holds was granted to a request of its own. -/
theorem Sound.granted? (sound : w.Sound capacity default) {i : Nat} {c : LeaseClient} {lease : Nat}
    (found : w.clients[i]? = some c) (holds : c.held? = some lease) :
    ∃ n ∈ c.sent, w.floor.granted? n = some (c.params, some lease) := by
  obtain ⟨params, sent, stage⟩ := c
  cases stage with
  | holding n held =>
      cases holds
      obtain ⟨member, answered⟩ :=
        (sound.linked.client _ (List.mem_of_getElem? found)).holding n lease rfl
      refine ⟨n, member, ?_⟩
      rw [Floor.granted?, answered]
      rfl
  | _ => cases holds

/-- **No lease is held twice.** -/
theorem Sound.nodup_heldLeases (sound : w.Sound capacity default) : w.heldLeases.Nodup := by
  rw [heldLeases_eq, List.Nodup, List.pairwise_filterMap, List.pairwise_iff_getElem]
  rintro i j inI inJ order lease holdsI _ holdsJ rfl
  have foundI := List.getElem?_eq_getElem inI
  have foundJ := List.getElem?_eq_getElem inJ
  obtain ⟨n, sentI, grantedI⟩ := sound.granted? foundI holdsI
  obtain ⟨m, sentJ, grantedJ⟩ := sound.granted? foundJ holdsJ
  -- the lease has one owner, and that request was sent by one client
  obtain ⟨number, g, same, recorded, -⟩ := sound.floor.owns n _ _ grantedI
  cases same
  have bound : lease < w.floor.grants.length := (List.getElem?_eq_some_iff.mp recorded).1
  obtain ⟨owner, -, unique⟩ := sound.floor.owned lease bound
  obtain rfl : n = m := (unique n ⟨_, grantedI⟩).trans (unique m ⟨_, grantedJ⟩).symm
  exact Nat.ne_of_lt order (sound.linked.apart i j _ _ foundI foundJ n sentI sentJ)

theorem Sound.holdersAt_le (sound : w.Sound capacity default) (t : Instant) :
    w.holdersAt t ≤ capacity :=
  Nat.le_trans (Floor.length_filter_le sound.nodup_heldLeases w.floor.grants _)
    (sound.floor.tracks.liveAt_le t)

/-- From now on, a lease covers the instants before its end. -/
theorem Sound.holdsBeyond_le (sound : w.Sound capacity default) {t : Instant}
    (order : w.floor.now ≤ t) : (w.clients.filter (w.holdsBeyond t)).length ≤ capacity := by
  have counted : (w.clients.filter (w.holdsBeyond t)).length = w.holdersAt t := by
    have covers : ∀ lease : Nat, (w.floor.grants[lease]?.any fun g : Grant => decide (t < g.expiry)) =
        w.floor.grants[lease]?.any (LeaseHistory.covers t) := by
      intro lease
      cases recorded : w.floor.grants[lease]? with
      | none => rfl
      | some g =>
          have begun : g.granted ≤ t :=
            Nat.le_trans (sound.floor.tracks.begun g (List.mem_of_getElem? recorded)) order
          simp [LeaseHistory.covers, begun]
    rw [holdersAt, heldLeases_eq, List.filter_filterMap, List.length_filterMap_eq_countP,
      ← List.countP_eq_length_filter]
    refine List.countP_congr fun c _ => ?_
    simp only [holdsBeyond, covers]
    cases c.held? <;> simp [Option.filter]
  rw [counted]
  exact sound.holdersAt_le t

/-- **Waiting clients and the gate respect the capacity together.**  Whatever clients wait at a gate and
whoever else asks it, in whatever order requests are sent, get on, are answered or are given up,
results are published, time passes and clients are shut down.  A client that holds a lease has heard
the granting status, last of all, in answer to a request of its own and of no other client, which the
gate granted that very lease for as long as the client asks; and from then on it sends nothing more.
No lease is held twice, and at no instant do more than `capacity` clients hold a lease that has not
ended.  The course of each client is that of `LockClient.wait`: whatever its period and however long
its requests take, what the client has heard leads the wait to a grant exactly if it holds a lease. -/
theorem holders_within_capacity (capacity : Nat) (default : Duration) (signals : List Signal)
    (params : List (List (String × String))) (events : List WaitingEvent) :
    let start := WaitingRoom.new (.new capacity default signals) params
    let w := start.run events
    (∀ (i : Nat) (c : LeaseClient) (n lease : Nat),
      w.clients[i]? = some c → c.stage = .holding n lease →
      (n ∈ c.sent ∧ ∀ (j : Nat) (d : LeaseClient), w.clients[j]? = some d → n ∈ d.sent → j = i) ∧
      w.floor.requests[n]? = some ⟨c.params, .answered .granted (some lease)⟩ ∧
      (heardBy i start events).getLast? = some (.ok LockClient.grantedStatus) ∧
      (∃ g, w.floor.grants[lease]? = some g ∧ g.granted ≤ w.floor.now ∧
        g.expiry = g.granted.after ((Gate.requestedDuration c.params).getD default)) ∧
      ∀ later, (w.run later).clients[i]? = some c) ∧
    w.heldLeases.Nodup ∧
    (∀ t, w.holdersAt t ≤ capacity) ∧
    (∀ t, w.floor.now ≤ t → (w.clients.filter (w.holdsBeyond t)).length ≤ capacity) ∧
    ∀ (i : Nat) (c : LeaseClient), w.clients[i]? = some c →
      ∀ (period : Duration) (takes : Nat → Millis),
        let heard := heardBy i start events
        let course := LockClient.wait period (LockClient.pollsFrom heard takes) none heard.length
        course.ending = (if c.held?.isSome then .granted else .waiting) ∧
          course.requests.length = heard.length := by
  intro start w
  have begun : start.Sound capacity default :=
    ⟨Floor.sound_new capacity default signals, linked_new _ params⟩
  have sound : w.Sound capacity default := begun.run events
  have silent : ∀ (i : Nat) (c : LeaseClient), start.clients[i]? = some c → c.HasHeard [] := by
    intro i c found
    obtain ⟨p, -, rfl⟩ := List.mem_map.mp (List.mem_of_getElem? found)
    exact ⟨fun _ => nofun, nofun, fun _ => rfl, nofun⟩
  have hasHeard : ∀ (i : Nat) (c : LeaseClient), w.clients[i]? = some c →
      c.HasHeard (heardBy i start events) :=
    fun i c found => begun.hasHeard_run (silent i) events found
  refine ⟨?_, sound.nodup_heldLeases, sound.holdersAt_le, fun t => sound.holdsBeyond_le,
    fun i c found => (hasHeard i c found).wait⟩
  intro i c n lease found holding
  have holds : c.held? = some lease := by rw [LeaseClient.held?, holding]
  obtain ⟨member, answered⟩ :=
    (sound.linked.client c (List.mem_of_getElem? found)).holding n lease holding
  have granted : w.floor.granted? n = some (c.params, some lease) := by
    rw [Floor.granted?, answered]
    rfl
  obtain ⟨number, g, same, recorded, past, ends⟩ := sound.floor.owns n _ _ granted
  cases same
  obtain ⟨earlier, heard, -⟩ := (hasHeard i c found).holds (by rw [holds]; rfl)
  refine ⟨⟨member, fun j d foundD sent => ?_⟩, answered, ?_, ⟨g, recorded, past, ends⟩, ?_⟩
  · exact sound.linked.apart j i d c foundD found n sent member
  · rw [heard, List.getLast?_append]
    rfl
  · exact sound.holds_run found (by rw [holds]; rfl)

end WaitingRoom

end StartupGate

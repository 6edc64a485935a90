/-
# StartupGate.Proofs.Network.Probe -- a raw endpoint is reached through any address of its family

A probe of a raw endpoint walks the addresses of the transport's family in order, up to the first that takes
a connection (`UpToFirst`).  In a network where every attempt is answered (`Network.Prompt`)

* it succeeds exactly if one of these addresses takes a connection (`Probe.endpoint_ok_iff`);
* without any such address it says so, and says nothing else then (`Probe.endpoint_noAddress_iff`);
* if there are addresses but none takes a connection, the error is that of the last one
  (`Probe.endpoint_eq_lastFailure`), so nothing is left over from an earlier address.
-/
import StartupGate.Network.Probe

set_option autoImplicit false

namespace StartupGate

/-! ## Walks that stop early -/

/-- How far a walk through a list goes that ends with the first element of a property. -/
inductive UpToFirst {α : Type} (p : α → Prop) : (xs walked : List α) → Prop
  /-- No element has the property, and all are walked. -/
  | all {xs : List α} : (∀ x ∈ xs, ¬ p x) → UpToFirst p xs xs
  /-- The walk ends with the first that has it. -/
  | first {before after : List α} {x : α} : (∀ y ∈ before, ¬ p y) → p x →
      UpToFirst p (before ++ x :: after) (before ++ [x])

namespace UpToFirst

variable {α : Type} {p : α → Prop} {x : α} {xs walked : List α}

theorem stop (has : p x) : UpToFirst p (x :: xs) [x] := by
  have walk : UpToFirst p ([] ++ x :: xs) ([] ++ [x]) := .first (by simp) has
  exact walk

theorem next (lacks : ¬ p x) (walk : UpToFirst p xs walked) : UpToFirst p (x :: xs) (x :: walked) := by
  cases walk with
  | all none' =>
      apply UpToFirst.all
      simp only [List.mem_cons, forall_eq_or_imp]
      exact ⟨lacks, none'⟩
  | first none' has =>
      rw [← List.cons_append, ← List.cons_append]
      apply UpToFirst.first
      · simp only [List.mem_cons, forall_eq_or_imp]
        exact ⟨lacks, none'⟩
      · exact has

/-- Only elements of the list are walked. -/
theorem mem (walk : UpToFirst p xs walked) (member : x ∈ walked) : x ∈ xs := by
  cases walk with
  | all none' => exact member
  | first none' has =>
      simp only [List.mem_append, List.mem_cons, List.not_mem_nil, or_false] at member ⊢
      exact member.imp_right .inl

end UpToFirst

/-! ## Families -/

/-- The family that a transport is bound to, if it is bound to one. -/
def Transport.family? : Transport → Option AddressFamily
  | .tcp | .udp => none
  | .tcp4 | .udp4 => some .v4
  | .tcp6 | .udp6 => some .v6

/-- The address is of the family that the transport is bound to. -/
def Transport.OfFamily (t : Transport) (a : SocketAddress) : Prop := ∀ f ∈ t.family?, a.family = f

instance (t : Transport) (a : SocketAddress) : Decidable (t.OfFamily a) :=
  inferInstanceAs (Decidable (∀ f ∈ t.family?, a.family = f))

theorem Transport.admits_iff (t : Transport) (a : SocketAddress) : t.admits a = true ↔ t.OfFamily a := by
  cases t <;> simp [admits, OfFamily, family?]

/-- The addresses of the family, in order. -/
def Transport.candidates (t : Transport) (addresses : List SocketAddress) : List SocketAddress :=
  addresses.filter fun a => decide (t.OfFamily a)

theorem Transport.filter_admits (t : Transport) (addresses : List SocketAddress) :
    addresses.filter t.admits = t.candidates addresses := by
  unfold candidates
  congr 1
  funext a
  rw [Bool.eq_iff_iff, t.admits_iff, decide_eq_true_iff]

theorem Transport.mem_candidates {t : Transport} {addresses : List SocketAddress} {a : SocketAddress} :
    a ∈ t.candidates addresses ↔ a ∈ addresses ∧ t.OfFamily a := by
  simp [candidates]

/-! ## What can be reached -/

namespace Network

/-- Every attempt to connect is answered. -/
def Prompt (net : Network) : Prop := ∀ udp a, net.connect udp a ≠ .silent

/-- The address takes a connection over the transport. -/
def Takes (net : Network) (t : Transport) (a : SocketAddress) : Prop :=
  net.connect t.isUdp a = .connected

/-- A URL can be reached if it answers with a status of success, and a raw endpoint if one of its host's
addresses takes a connection, of the family that the transport is bound to. -/
def CanReach (net : Network) : Endpoint → Prop
  | .http _ url => ∃ status, net.get url = .ok status ∧ 200 ≤ status ∧ status ≤ 299
  | .raw t host port => ∃ addresses, net.resolve host port = .ok addresses ∧
      ∃ a ∈ addresses, t.OfFamily a ∧ net.Takes t a

theorem canReach_raw {net : Network} {t : Transport} {host : String} {port : Nat} :
    net.CanReach (.raw t host port) ↔ ∃ addresses, net.resolve host port = .ok addresses ∧
      ∃ a ∈ t.candidates addresses, net.Takes t a := by
  simp only [CanReach, Transport.mem_candidates, and_assoc]

end Network

namespace Probe

variable {net : Network} {timeout : Duration} {t : Transport} {host : String} {port : Nat}
  {connect : SocketAddress → ConnectOutcome} {last : Option ConnectFailure}
  {addresses : List SocketAddress}

/-! ## Trying addresses -/

section Trials

variable (prompt : ∀ a, connect a ≠ .silent)

include prompt

/-- An address that does not take a connection fails for a cause. -/
theorem exists_failed {a : SocketAddress} (refuses : connect a ≠ .connected) :
    ∃ cause, connect a = .failed cause := by
  cases outcome : connect a with
  | connected => exact absurd outcome refuses
  | failed cause => exact ⟨cause, rfl⟩
  | silent => exact absurd outcome (prompt a)

/-- **Addresses are tried in order up to the first that takes a connection.** -/
theorem tryAddresses_upToFirst (last : Option ConnectFailure) (addresses : List SocketAddress) :
    UpToFirst (fun a => connect a = .connected) addresses (tryAddresses connect last addresses).2 := by
  induction addresses generalizing last with
  | nil => exact .all (by simp)
  | cons a rest ih =>
      by_cases takes : connect a = .connected
      · simp only [tryAddresses, takes]
        exact .stop takes
      · obtain ⟨cause, failed⟩ := exists_failed prompt takes
        simp only [tryAddresses, failed]
        exact .next takes (ih _)

/-- **Any address that takes a connection is enough.** -/
theorem tryAddresses_connected_iff (last : Option ConnectFailure) :
    (tryAddresses connect last addresses).1 = .connected ↔ ∃ a ∈ addresses, connect a = .connected := by
  induction addresses generalizing last with
  | nil => simp [tryAddresses]
  | cons a rest ih =>
      simp only [List.mem_cons, exists_eq_or_imp]
      by_cases takes : connect a = .connected
      · simp [tryAddresses, takes]
      · obtain ⟨cause, failed⟩ := exists_failed prompt takes
        simp only [tryAddresses, failed, ih, reduceCtorEq, false_or]

/-- **Where no address takes a connection, the last cause is left.**  An earlier one is only left where there
are no addresses to try. -/
theorem tryAddresses_failed (last : Option ConnectFailure)
    (refused : ∀ a ∈ addresses, connect a ≠ .connected) :
    addresses = [] ∧ (tryAddresses connect last addresses).1 = .failed last ∨
      ∃ a cause, addresses.getLast? = some a ∧ connect a = .failed cause ∧
        (tryAddresses connect last addresses).1 = .failed (some cause) := by
  induction addresses generalizing last with
  | nil => exact .inl ⟨rfl, rfl⟩
  | cons a rest ih =>
      rw [List.forall_mem_cons] at refused
      obtain ⟨cause, failed⟩ := exists_failed prompt refused.1
      simp only [tryAddresses, failed]
      right
      rcases ih (some cause) refused.2 with ⟨rfl, trial⟩ | ⟨b, later, isLast, failed', trial⟩
      · exact ⟨a, cause, rfl, failed, trial⟩
      · refine ⟨b, later, ?_, failed', trial⟩
        rw [List.getLast?_cons, isLast]
        rfl

end Trials

/-! ## Raw endpoints -/

/-- A host without addresses is not reached for that cause, and nothing is tried. -/
theorem raw_of_unresolved {cause : ConnectFailure} (timeout : Duration) (t : Transport)
    (unresolved : net.resolve host port = .error cause) :
    raw net timeout t host port = (.error (.connect cause), []) := by
  simp only [raw, unresolved]

theorem raw_of_resolved (resolved : net.resolve host port = .ok addresses) :
    raw net timeout t host port =
      (match (tryAddresses (net.connect t.isUdp) none (t.candidates addresses)).1 with
        | .connected => .ok ()
        | .silent => .error (.timeout timeout)
        | .failed (some cause) => .error (.connect cause)
        | .failed none => .error (.noAddress t.name (Endpoint.addressText host port)),
        (tryAddresses (net.connect t.isUdp) none (t.candidates addresses)).2) := by
  simp only [raw, resolved, t.filter_admits]
  split <;> simp_all

/-- A probe of an HTTP endpoint succeeds if the last answer has a status of success. -/
theorem http_ok_iff {url : String} : http net url = .ok () ↔
    ∃ status, net.get url = .ok status ∧ 200 ≤ status ∧ status ≤ 299 := by
  unfold http
  cases net.get url with
  | error cause => simp
  | ok status =>
      simp only [isSuccess, Bool.and_eq_true, decide_eq_true_eq, Except.ok.injEq, exists_eq_left']
      split <;> simp <;> omega

section Prompt

variable (prompt : net.Prompt) (resolved : net.resolve host port = .ok addresses)

include prompt resolved

/-- **Only addresses of the family are tried, in order, up to the first that takes a connection.** -/
theorem raw_upToFirst (timeout : Duration) :
    UpToFirst (net.Takes t) (t.candidates addresses) (raw net timeout t host port).2 := by
  rw [raw_of_resolved resolved]
  exact tryAddresses_upToFirst (prompt t.isUdp) none _

/-- What a probe comes to, in the three ways that it can end. -/
theorem endpoint_cases (timeout : Duration) (t : Transport) :
    (∃ a ∈ t.candidates addresses, net.Takes t a) ∧
        endpoint net timeout (.raw t host port) = .ok () ∨
      t.candidates addresses = [] ∧ endpoint net timeout (.raw t host port) =
        .error (.noAddress t.name (Endpoint.addressText host port)) ∨
      (∀ a ∈ t.candidates addresses, ¬ net.Takes t a) ∧
        ∃ a cause, (t.candidates addresses).getLast? = some a ∧ net.connect t.isUdp a = .failed cause ∧
          endpoint net timeout (.raw t host port) = .error (.connect cause) := by
  rw [endpoint, raw_of_resolved resolved]
  by_cases some' : ∃ a ∈ t.candidates addresses, net.Takes t a
  · left
    have connected := (tryAddresses_connected_iff (prompt t.isUdp) none).mpr some'
    rw [connected]
    exact ⟨some', rfl⟩
  · right
    have refused : ∀ a ∈ t.candidates addresses, ¬ net.Takes t a := by
      intro a member takes
      exact some' ⟨a, member, takes⟩
    rcases tryAddresses_failed (prompt t.isUdp) none refused with
      ⟨none', trial⟩ | ⟨a, cause, isLast, failed, trial⟩
    · left
      rw [trial]
      exact ⟨none', rfl⟩
    · right
      rw [trial]
      exact ⟨refused, a, cause, isLast, failed, rfl⟩

/-- **A probe that finds no address says so, and says so only then.** -/
theorem endpoint_noAddress_iff (timeout : Duration) (protocol address : String) :
    endpoint net timeout (.raw t host port) = .error (.noAddress protocol address) ↔
      t.candidates addresses = [] ∧ protocol = t.name ∧ address = Endpoint.addressText host port := by
  rcases endpoint_cases prompt resolved timeout t with
    ⟨⟨a, member, -⟩, result⟩ | ⟨none', result⟩ | ⟨-, a, cause, isLast, -, result⟩
  · have some' := List.ne_nil_of_mem member
    simp [result, some']
  · simp only [result, none', true_and, Except.error.injEq, ProbeError.noAddress.injEq]
    constructor
    · rintro ⟨rfl, rfl⟩
      exact ⟨rfl, rfl⟩
    · rintro ⟨rfl, rfl⟩
      exact ⟨rfl, rfl⟩
  · have some' : t.candidates addresses ≠ [] := by
      intro none'
      rw [none'] at isLast
      cases isLast
    simp [result, some']

/-- **Otherwise the error is that of the last address.** -/
theorem endpoint_eq_lastFailure (timeout : Duration) (some' : t.candidates addresses ≠ [])
    (refused : ∀ a ∈ t.candidates addresses, ¬ net.Takes t a) :
    ∃ a cause, (t.candidates addresses).getLast? = some a ∧ net.connect t.isUdp a = .failed cause ∧
      endpoint net timeout (.raw t host port) = .error (.connect cause) := by
  rcases endpoint_cases prompt resolved timeout t with ⟨⟨a, member, takes⟩, -⟩ | ⟨none', -⟩ | ⟨-, ends⟩
  · exact absurd takes (refused a member)
  · exact absurd none' some'
  · exact ends

end Prompt

/-! ## All endpoints -/

/-- **A probe succeeds exactly for what the network can reach.** -/
theorem endpoint_ok_iff (prompt : net.Prompt) (timeout : Duration) (e : Endpoint) :
    endpoint net timeout e = .ok () ↔ net.CanReach e := by
  cases e with
  | http secure url => exact http_ok_iff
  | raw t host port =>
      rw [Network.canReach_raw]
      cases resolved : net.resolve host port with
      | error cause => simp [endpoint, raw_of_unresolved timeout t resolved]
      | ok addresses =>
          simp only [Except.ok.injEq, exists_eq_left']
          rcases endpoint_cases prompt resolved timeout t with
            ⟨some', result⟩ | ⟨none', result⟩ | ⟨refused, a, cause, -, -, result⟩
          · exact iff_of_true result some'
          · simp [result, none']
          · rw [result]
            refine iff_of_false nofun ?_
            rintro ⟨b, member, takes⟩
            exact refused b member takes

end Probe

end StartupGate

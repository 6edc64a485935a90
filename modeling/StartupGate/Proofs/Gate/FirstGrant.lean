/-
# StartupGate.Proofs.Gate.FirstGrant -- a client polls up to the first grant and no further

A wait goes from one denied request to the next.  Here its course is written down beforehand, without a
wait: when the request of an index is sent and when it ends, if the wait gets there (`Polling.start`,
`Polling.finish`).  The shutdown falls into one request or into the pause after it
(`Polling.Underway`), or comes after the first grant; only with what the wait gets to can it be tied
(`Polling.TiedAt`).

* `Polling.wait_eq_after`: a wait that gets to an index has sent the requests before it.
* `Polling.wait_cases`: at any number of requests a wait was granted a lease, was shut down, hangs, or
  goes on.
* `Polling.returns_first_grant`: with which result a wait returns, when, and what it has sent.

No pause is longer than thirty years (`Polling.wait_cuts_pause`).
-/
import StartupGate.Proofs.Time
import StartupGate.Service

set_option autoImplicit false

namespace StartupGate.LockClient

/-- A client that polls: how long it pauses after a request, and what comes of its requests. -/
structure Polling where
  period : Duration
  polls : Nat → Poll

/-- How long a request runs; one that hangs has no end, and no time is given to it. -/
def Poll.takes : Poll → Millis
  | .ends _ takes => takes
  | .hangs => 0

theorem isGrant_iff {result : Except HttpFailure Nat} :
    isGrant result = true ↔ result = .ok grantedStatus := by
  cases result with
  | error cause => simp [isGrant]
  | ok status => simp [isGrant]

namespace Polling

variable (p : Polling)

/-- The wait of the client, looking at no more than `fuel` requests. -/
def wait (shutdown : Option Millis) (fuel : Nat) : Wait :=
  LockClient.wait p.period p.polls shutdown fuel

/-! ## The course, written down -/

/-- When the request of an index is sent, if all before it are denied. -/
def start : Nat → Millis
  | 0 => 0
  | k + 1 => start k + (p.polls k).takes + min p.period.millisUp longestSleep

/-- When the request of an index ends. -/
def finish (k : Nat) : Millis := p.start k + (p.polls k).takes

/-- When the first requests are sent. -/
def starts (n : Nat) : List Millis := (List.range n).map p.start

/-- The request of an index is answered with a lease. -/
def Granted (k : Nat) : Prop := ∃ takes, p.polls k = .ends (.ok grantedStatus) takes

/-- The request of an index ends without a lease: with another status, or without an answer. -/
def Denied (k : Nat) : Prop :=
  ∃ result takes, p.polls k = .ends result takes ∧ result ≠ .ok grantedStatus

/-- An instant falls into the request of an index or into the pause after it. -/
structure Underway (k : Nat) (c : Millis) : Prop where
  started : p.start k ≤ c
  unfinished : p.polls k = .hangs ∨ c < p.finish k ∨ (p.Denied k ∧ c < p.start (k + 1))

/-- The wait gets to the request of an index, if no shutdown comes before, and an instant is the end of that
request or, where it is denied, of the pause after it. -/
structure TiedAt (k : Nat) (c : Millis) : Prop where
  reached : ∀ j < k, p.Denied j
  tied : (p.polls k ≠ .hangs ∧ p.finish k = c) ∨ (p.Denied k ∧ p.start (k + 1) = c)

/-- The wait returns whether a lease was granted, with the requests it has sent, at an instant: so it does
however many requests are looked at, from some number on. -/
def Returns (shutdown : Option Millis) (granted : Bool) (requests : List Millis) (ended : Millis) : Prop :=
  ∃ n, ∀ fuel, n ≤ fuel →
    p.wait shutdown fuel = ⟨if granted then .granted else .shutDown, requests, ended⟩

variable {p} {k fuel : Nat} {shutdown : Option Millis} {c : Millis}

theorem finish_le_start (k : Nat) : p.finish k ≤ p.start (k + 1) := Nat.le_add_right _ _

theorem start_mono {j k : Nat} (order : j ≤ k) : p.start j ≤ p.start k := by
  induction order with
  | refl => exact Nat.le_refl _
  | @step k _ ih => exact ih.trans ((Nat.le_add_right _ _).trans (finish_le_start k))

/-- A client that pauses at all gets past every instant. -/
theorem le_start (positive : 0 < p.period.nanos) (k : Nat) : k ≤ p.start k := by
  induction k with
  | zero => exact Nat.zero_le _
  | succ k ih =>
      have pause : 1 ≤ min p.period.millisUp longestSleep :=
        Duration.millisUp_asSleep p.period ▸ Duration.one_le_millisUp_asSleep positive
      exact Nat.add_le_add (ih.trans (Nat.le_add_right _ _)) pause

theorem starts_succ (k : Nat) : p.starts (k + 1) = p.starts k ++ [p.start k] := by
  simp [starts, List.range_succ]

/-- A request is granted or denied, or hangs. -/
theorem poll_cases (p : Polling) (k : Nat) : p.polls k = .hangs ∨ p.Granted k ∨ p.Denied k := by
  cases poll : p.polls k with
  | hangs => exact .inl rfl
  | ends result takes =>
      by_cases grant : result = .ok grantedStatus
      · exact .inr (.inl ⟨takes, grant ▸ poll⟩)
      · exact .inr (.inr ⟨result, takes, poll, grant⟩)

theorem Granted.not_denied (granted : p.Granted k) : ¬ p.Denied k := by
  rintro ⟨result, takes, poll, other⟩
  obtain ⟨taken, answered⟩ := granted
  cases poll.symm.trans answered
  exact other rfl

/-! ## One request -/

/-- What the wait still does from the request of an index on. -/
def rest (p : Polling) (shutdown : Option Millis) (fuel k : Nat) : Wait :=
  waitFrom p.period p.polls shutdown fuel k (p.start k)

theorem shutdownBefore?_eq_none {t : Millis} (late : ∀ c ∈ shutdown, t ≤ c) :
    shutdownBefore? shutdown t = none := by
  cases shutdown with
  | none => rfl
  | some c => exact if_neg (Nat.not_lt.mpr (late c rfl))

theorem shutdownBefore?_of_lt {t : Millis} (early : c < t) : shutdownBefore? (some c) t = some c :=
  if_pos early

/-- **One request and what follows it**, in terms of the course. -/
theorem rest_eq (p : Polling) (shutdown : Option Millis) (fuel k : Nat) :
    p.rest shutdown (fuel + 1) k = Wait.requested (p.start k)
      (match p.polls k with
      | .hangs =>
          match shutdown with
          | some c => ⟨.shutDown, [], max (p.start k) c⟩
          | none => ⟨.endless, [], p.start k⟩
      | .ends result _ =>
          match shutdownBefore? shutdown (p.finish k) with
          | some c => ⟨.shutDown, [], max (p.start k) c⟩
          | none =>
              if isGrant result then ⟨.granted, [], p.finish k⟩
              else match shutdownBefore? shutdown (p.start (k + 1)) with
                | some c => ⟨.shutDown, [], max (p.finish k) c⟩
                | none => p.rest shutdown fuel (k + 1)) := by
  rw [rest, waitFrom.eq_def]
  simp only
  congr 1
  cases poll : p.polls k with
  | hangs => rfl
  | ends result takes =>
      have finish : p.start k + takes = p.finish k := by rw [Polling.finish, poll]; rfl
      have next : Millis.wake (p.finish k) p.period = p.start (k + 1) := by
        rw [Millis.wake, Duration.millisUp_asSleep]
        rfl
      cases during : shutdownBefore? shutdown (p.finish k) with
      | some c => simp only [finish, during]
      | none =>
          cases pausing : shutdownBefore? shutdown (p.start (k + 1)) <;>
            simp only [finish, during, next, pausing, rest]

/-- After a denied request the client pauses and goes on with the next. -/
theorem rest_of_denied (denied : p.Denied k) (late : ∀ c ∈ shutdown, p.start (k + 1) ≤ c) (fuel : Nat) :
    p.rest shutdown (fuel + 1) k = Wait.requested (p.start k) (p.rest shutdown fuel (k + 1)) := by
  obtain ⟨result, takes, poll, other⟩ := denied
  have noGrant : isGrant result = false := Bool.eq_false_iff.mpr fun grant => other (isGrant_iff.mp grant)
  have inTime : shutdownBefore? shutdown (p.finish k) = none :=
    shutdownBefore?_eq_none fun c given => (finish_le_start k).trans (late c given)
  rw [rest_eq, poll]
  simp only [inTime, noGrant, Bool.false_eq_true, if_false, shutdownBefore?_eq_none late]

/-- A granted request ends the wait, if the shutdown does not come before. -/
theorem rest_of_granted (granted : p.Granted k) (late : ∀ c ∈ shutdown, p.finish k ≤ c) (fuel : Nat) :
    p.rest shutdown (fuel + 1) k = ⟨.granted, [p.start k], p.finish k⟩ := by
  obtain ⟨takes, poll⟩ := granted
  have grant : isGrant (.ok grantedStatus) = true := isGrant_iff.mpr rfl
  rw [rest_eq, poll]
  simp only [shutdownBefore?_eq_none late, grant, if_true, Wait.requested]

/-- The shutdown ends the request that it falls into, or the pause. -/
theorem rest_of_underway (underway : p.Underway k c) (fuel : Nat) :
    p.rest (some c) (fuel + 1) k = ⟨.shutDown, [p.start k], c⟩ := by
  obtain ⟨started, unfinished⟩ := underway
  rw [rest_eq]
  cases poll : p.polls k with
  | hangs => simp only [Nat.max_eq_right started, Wait.requested]
  | ends result takes =>
      rcases Nat.lt_or_ge c (p.finish k) with during | past
      · simp only [shutdownBefore?_of_lt during, Nat.max_eq_right started, Wait.requested]
      · obtain ⟨⟨other, _, denied, noLease⟩, paused⟩ : p.Denied k ∧ c < p.start (k + 1) := by
          rcases unfinished with hangs | during | pausing
          · exact absurd (poll.symm.trans hangs) nofun
          · exact absurd during (Nat.not_lt.mpr past)
          · exact pausing
        obtain ⟨rfl, -⟩ := Poll.ends.inj (poll.symm.trans denied)
        have noGrant : isGrant result = false :=
          Bool.eq_false_iff.mpr fun grant => noLease (isGrant_iff.mp grant)
        have inTime : shutdownBefore? (some c) (p.finish k) = none :=
          shutdownBefore?_eq_none fun _ given => Option.some.inj given ▸ past
        simp only [inTime, noGrant, Bool.false_eq_true, if_false, shutdownBefore?_of_lt paused,
          Nat.max_eq_right past, Wait.requested]

/-- Without a shutdown nothing ends a request that hangs. -/
theorem rest_of_hangs (hangs : p.polls k = .hangs) (fuel : Nat) :
    p.rest none (fuel + 1) k = ⟨.endless, [p.start k], p.start k⟩ := by
  rw [rest_eq, hangs]
  rfl

/-! ## The wait follows the course -/

/-- The requests before an index, and then a wait. -/
def after (p : Polling) (k : Nat) (w : Wait) : Wait := { w with requests := p.starts k ++ w.requests }

/-- **A wait that gets to an index** has sent the requests before it. -/
theorem wait_eq_after (denied : ∀ j < k, p.Denied j) (late : ∀ c ∈ shutdown, p.start k ≤ c)
    (fuel : Nat) : p.wait shutdown (k + fuel) = p.after k (p.rest shutdown fuel k) := by
  induction k generalizing fuel with
  | zero =>
      rw [Nat.zero_add]
      rfl
  | succ k ih =>
      have earlier : ∀ c ∈ shutdown, p.start k ≤ c := fun c given =>
        (start_mono (Nat.le_succ k)).trans (late c given)
      have before : ∀ j < k, p.Denied j := fun j order => denied j (Nat.lt_succ_of_lt order)
      rw [Nat.add_right_comm, Nat.add_assoc, ih before earlier,
        rest_of_denied (denied k (Nat.lt_succ_self k)) late]
      simp [after, starts_succ, Wait.requested]

/-- The client has sent the requests before an index and that one, and looks at more than these. -/
theorem wait_of_rest {ending : Ending} {finished : Millis} (denied : ∀ j < k, p.Denied j)
    (late : ∀ c ∈ shutdown, p.start k ≤ c)
    (ends : ∀ fuel, p.rest shutdown (fuel + 1) k = ⟨ending, [p.start k], finished⟩) (inside : k < fuel) :
    p.wait shutdown fuel = ⟨ending, p.starts (k + 1), finished⟩ := by
  obtain ⟨more, rfl⟩ := Nat.exists_eq_add_of_lt inside
  rw [Nat.add_assoc, wait_eq_after denied late, ends, starts_succ]
  rfl

/-- The first grant comes before the shutdown. -/
structure GrantedFirst (p : Polling) (shutdown : Option Millis) (k : Nat) : Prop where
  granted : p.Granted k
  denied : ∀ j < k, p.Denied j
  inTime : ∀ c ∈ shutdown, p.finish k ≤ c

/-- The shutdown comes before a grant, in the request of an index or in the pause after it. -/
structure ShutDownFirst (p : Polling) (c : Millis) (k : Nat) : Prop where
  denied : ∀ j < k, p.Denied j
  underway : p.Underway k c

theorem GrantedFirst.wait_eq (first : p.GrantedFirst shutdown k) (inside : k < fuel) :
    p.wait shutdown fuel = ⟨.granted, p.starts (k + 1), p.finish k⟩ := by
  have started : ∀ c ∈ shutdown, p.start k ≤ c := fun c given =>
    (Nat.le_add_right _ _).trans (first.inTime c given)
  exact wait_of_rest first.denied started (rest_of_granted first.granted first.inTime) inside

theorem ShutDownFirst.wait_eq (first : p.ShutDownFirst c k) (inside : k < fuel) :
    p.wait (some c) fuel = ⟨.shutDown, p.starts (k + 1), c⟩ := by
  have started : ∀ c' ∈ some c, p.start k ≤ c' := fun c' given =>
    Option.some.inj given ▸ first.underway.started
  exact wait_of_rest first.denied started (rest_of_underway first.underway) inside

theorem wait_of_hangs (denied : ∀ j < k, p.Denied j) (hangs : p.polls k = .hangs) (inside : k < fuel) :
    p.wait none fuel = ⟨.endless, p.starts (k + 1), p.start k⟩ := by
  have started : ∀ c ∈ (none : Option Millis), p.start k ≤ c := nofun
  exact wait_of_rest denied started (rest_of_hangs hangs) inside

/-- **How far a wait is when so many requests have been looked at**: it was granted a lease, was shut down
or hangs, or all requests were denied and it goes on. -/
theorem wait_cases (p : Polling) (shutdown : Option Millis) (fuel : Nat) :
    (∃ k < fuel, p.GrantedFirst shutdown k) ∨
      (∃ k < fuel, ∃ c, shutdown = some c ∧ p.ShutDownFirst c k) ∨
      (∃ k < fuel, shutdown = none ∧ (∀ j < k, p.Denied j) ∧ p.polls k = .hangs) ∨
      ((∀ j < fuel, p.Denied j) ∧ ∀ c ∈ shutdown, p.start fuel ≤ c) := by
  induction fuel with
  | zero => exact .inr (.inr (.inr ⟨nofun, fun c _ => Nat.zero_le c⟩))
  | succ fuel ih =>
      have here : fuel < fuel + 1 := Nat.lt_succ_self fuel
      rcases ih with ⟨k, inside, granted⟩ | ⟨k, inside, shut⟩ | ⟨k, inside, hangs⟩ | ⟨denied, late⟩
      · exact .inl ⟨k, Nat.lt_succ_of_lt inside, granted⟩
      · exact .inr (.inl ⟨k, Nat.lt_succ_of_lt inside, shut⟩)
      · exact .inr (.inr (.inl ⟨k, Nat.lt_succ_of_lt inside, hangs⟩))
      · rcases p.poll_cases fuel with hangs | granted | noLease
        · cases shutdown with
          | none => exact .inr (.inr (.inl ⟨fuel, here, rfl, denied, hangs⟩))
          | some c => exact .inr (.inl ⟨fuel, here, c, rfl, denied, late c rfl, .inl hangs⟩)
        · by_cases inTime : ∀ c ∈ shutdown, p.finish fuel ≤ c
          · exact .inl ⟨fuel, here, granted, denied, inTime⟩
          · push Not at inTime
            obtain ⟨c, given, during⟩ := inTime
            exact .inr (.inl ⟨fuel, here, c, given, denied, late c given, .inr (.inl during)⟩)
        · by_cases inTime : ∀ c ∈ shutdown, p.start (fuel + 1) ≤ c
          · refine .inr (.inr (.inr ⟨fun j before => ?_, inTime⟩))
            rcases Nat.lt_succ_iff_lt_or_eq.mp before with earlier | rfl
            · exact denied j earlier
            · exact noLease
          · push Not at inTime
            obtain ⟨c, given, early⟩ := inTime
            exact .inr (.inl ⟨fuel, here, c, given, denied, late c given, .inr (.inr ⟨noLease, early⟩)⟩)

/-! ## What a wait has sent -/

/-- **What has been sent**, however many requests are looked at: the first requests of the course, of which
all but the last were denied, and none after the shutdown. -/
theorem requests_eq (p : Polling) (shutdown : Option Millis) (fuel : Nat) :
    ∃ n ≤ fuel, (p.wait shutdown fuel).requests = p.starts n ∧
      (∀ k, k + 1 < n → p.Denied k) ∧ ∀ k < n, ∀ c ∈ shutdown, p.start k ≤ c := by
  rcases p.wait_cases shutdown fuel with
    ⟨k, inside, first⟩ | ⟨k, inside, c, rfl, first⟩ | ⟨k, inside, rfl, denied, hangs⟩ | ⟨denied, late⟩
  · refine ⟨k + 1, inside, by rw [first.wait_eq inside],
      fun j before => first.denied j (Nat.lt_of_succ_lt_succ before), fun j before c given => ?_⟩
    exact (start_mono (Nat.le_of_lt_succ before)).trans
      ((Nat.le_add_right _ _).trans (first.inTime c given))
  · refine ⟨k + 1, inside, by rw [first.wait_eq inside],
      fun j before => first.denied j (Nat.lt_of_succ_lt_succ before), fun j before c' given => ?_⟩
    cases given
    exact (start_mono (Nat.le_of_lt_succ before)).trans first.underway.started
  · exact ⟨k + 1, inside, by rw [wait_of_hangs denied hangs inside],
      fun j before => denied j (Nat.lt_of_succ_lt_succ before), fun _ _ => nofun⟩
  · refine ⟨fuel, Nat.le_refl fuel, ?_, fun j before => denied j (Nat.lt_of_succ_lt before),
      fun j before c given => ?_⟩
    · have goesOn := wait_eq_after denied late 0
      rw [Nat.add_zero] at goesOn
      rw [goesOn]
      exact List.append_nil _
    · exact (start_mono (Nat.le_of_lt before)).trans (late c given)

/-- **The request of an index is sent** if all before it are denied and the shutdown does not come
before it. -/
theorem starts_prefix (denied : ∀ j < k, p.Denied j) (late : ∀ c ∈ shutdown, p.start k ≤ c)
    (inside : k < fuel) : p.starts (k + 1) <+: (p.wait shutdown fuel).requests := by
  obtain ⟨more, rfl⟩ := Nat.exists_eq_add_of_lt inside
  rw [Nat.add_assoc, wait_eq_after denied late, rest_eq, starts_succ]
  exact List.prefix_append_right_inj _ |>.mpr ⟨_, rfl⟩

/-! ## What a wait returns -/

/-- A wait that goes on has sent as many requests as were looked at, so it has not returned. -/
theorem not_returns_of_late {granted : Bool} {requests : List Millis} {ended : Millis}
    (returned : ∀ fuel, k ≤ fuel →
      p.wait shutdown fuel = ⟨if granted then .granted else .shutDown, requests, ended⟩)
    (denied : ∀ j < k, p.Denied j) (late : ∀ c ∈ shutdown, p.start k ≤ c) : False := by
  obtain ⟨n, few, sent, -, -⟩ := p.requests_eq shutdown k
  have more := starts_prefix denied late (Nat.lt_succ_self k)
  rw [returned k (Nat.le_refl k)] at sent
  rw [returned (k + 1) (Nat.le_succ k)] at more
  have length := more.length_le
  simp only at sent
  rw [sent] at length
  simp only [starts, List.length_map, List.length_range] at length
  omega

/-- **A wait that returns** was granted a lease before the shutdown, or was shut down. -/
theorem Returns.cases {granted : Bool} {requests : List Millis} {ended : Millis}
    (returns : p.Returns shutdown granted requests ended) :
    (granted = true ∧ ∃ k, p.GrantedFirst shutdown k ∧ requests = p.starts (k + 1) ∧ ended = p.finish k) ∨
      (granted = false ∧ ∃ k, shutdown = some ended ∧ p.ShutDownFirst ended k ∧
        requests = p.starts (k + 1)) := by
  obtain ⟨n, returned⟩ := returns
  have shown := returned n (Nat.le_refl n)
  rcases p.wait_cases shutdown n with
    ⟨k, inside, first⟩ | ⟨k, inside, c, rfl, first⟩ | ⟨k, inside, rfl, denied, hangs⟩ | ⟨denied, late⟩
  · rw [first.wait_eq inside] at shown
    cases granted with
    | true =>
        obtain ⟨-, sent, finished⟩ := Wait.mk.inj shown
        exact .inl ⟨rfl, k, first, sent.symm, finished.symm⟩
    | false => cases shown
  · rw [first.wait_eq inside] at shown
    cases granted with
    | true => cases shown
    | false =>
        obtain ⟨-, sent, rfl⟩ := Wait.mk.inj shown
        exact .inr ⟨rfl, k, rfl, first, sent.symm⟩
  · rw [wait_of_hangs denied hangs inside] at shown
    cases granted <;> cases shown
  · exact (not_returns_of_late returned denied late).elim

/-- **A wait returns true exactly if the first grant comes before the shutdown.** -/
theorem returns_true_iff {requests : List Millis} {ended : Millis} :
    p.Returns shutdown true requests ended ↔
      ∃ k, p.GrantedFirst shutdown k ∧ requests = p.starts (k + 1) ∧ ended = p.finish k := by
  constructor
  · intro returns
    rcases returns.cases with ⟨-, first⟩ | ⟨no, -⟩
    · exact first
    · cases no
  · rintro ⟨k, first, rfl, rfl⟩
    exact ⟨k + 1, fun fuel far => first.wait_eq far⟩

/-- **A wait returns false exactly if the shutdown comes first**, and then. -/
theorem returns_false_iff {requests : List Millis} {ended : Millis} :
    p.Returns shutdown false requests ended ↔
      ∃ k, shutdown = some ended ∧ p.ShutDownFirst ended k ∧ requests = p.starts (k + 1) := by
  constructor
  · intro returns
    rcases returns.cases with ⟨no, -⟩ | ⟨-, first⟩
    · cases no
    · exact first
  · rintro ⟨k, rfl, first, rfl⟩
    exact ⟨k + 1, fun fuel far => first.wait_eq far⟩

/-- With a shutdown the wait returns, and to look at one request for each millisecond is enough. -/
theorem returns_by_shutdown (positive : 0 < p.period.nanos) (far : c < fuel) :
    ∃ granted requests ended, p.Returns (some c) granted requests ended ∧
      p.wait (some c) fuel = ⟨if granted then .granted else .shutDown, requests, ended⟩ := by
  rcases p.wait_cases (some c) fuel with
    ⟨k, inside, first⟩ | ⟨k, inside, c', given, first⟩ | ⟨-, -, none, -⟩ | ⟨-, late⟩
  · exact ⟨true, _, _, returns_true_iff.mpr ⟨k, first, rfl, rfl⟩, first.wait_eq inside⟩
  · cases given
    exact ⟨false, _, _, returns_false_iff.mpr ⟨k, rfl, first, rfl⟩, first.wait_eq inside⟩
  · cases none
  · exact absurd (le_start positive fuel) (Nat.not_le.mpr (Nat.lt_of_le_of_lt (late c rfl) far))

/-! ## The client's command -/

/-- The command succeeds with a wait that ends with a lease, and with no other. -/
theorem clientResult_eq_ok_iff {s : Settings.InitSettings} {w : Wait} :
    Service.clientResult s w = .ok () ↔ w.ending = .granted := by
  rw [Service.clientResult]
  split
  · next granted => simp [granted]
  · next other => simp [other]

/-- The command is carried out as the wait of its client, which returns by the shutdown. -/
theorem run_init_iff (around : Service.Surroundings) {s : Settings.InitSettings} (positive : 0 < s.period)
    (c : Millis) :
    let client : Polling := ⟨Service.clientPeriod s, pollsOf around.network (Service.clientUrl s)⟩
    Service.run around c (.init s) = .ok () ↔
      ∃ requests ended, client.Returns (some c) true requests ended := by
  intro client
  have pauses : 0 < client.period.nanos := Nat.mul_pos positive (by decide)
  obtain ⟨granted, requests, ended, returns, shown⟩ :=
    returns_by_shutdown pauses (Nat.lt_add_of_pos_right Nat.two_pos : c < c + 2)
  have command : Service.run around c (.init s) = Service.clientResult s (client.wait (some c) (c + 2)) :=
    rfl
  rw [command, clientResult_eq_ok_iff, shown]
  cases granted with
  | true => exact ⟨fun _ => ⟨requests, ended, returns⟩, fun _ => rfl⟩
  | false =>
      refine ⟨nofun, ?_⟩
      rintro ⟨requests', ended', returns'⟩
      -- the wait does not return both true and false
      obtain ⟨n, early⟩ := returns
      obtain ⟨m, late⟩ := returns'
      have same := (early (max n m) (Nat.le_max_left n m)).symm.trans (late _ (Nat.le_max_right n m))
      cases same

/-- **A client polls up to the first grant and no further.**  The shutdown, if one comes, is not tied with
the end of a request that the wait gets to, or of a pause after one.  The wait returns true exactly if a
request is granted before the shutdown and all before it ended without a lease, and then with that
request.  It returns false exactly at the shutdown, in the request or in the pause that the shutdown falls
into; if there is a shutdown, it returns.  A request is sent when the pause after the one before it is
over: a period in whole milliseconds, rounded up, and thirty years at most.  However many requests are
looked at, none follows on one that was granted, and none the shutdown.  The command of the client
succeeds exactly if its wait returns true. -/
theorem returns_first_grant (p : Polling) (shutdown : Option Millis) (positive : 0 < p.period.nanos)
    (untied : ∀ c ∈ shutdown, ∀ k, ¬ p.TiedAt k c) :
    (∀ requests ended, p.Returns shutdown true requests ended ↔
      ∃ k, p.Granted k ∧ (∀ j < k, p.Denied j) ∧ (∀ c ∈ shutdown, p.finish k < c) ∧
        requests = p.starts (k + 1) ∧ ended = p.finish k) ∧
    (∀ requests ended, p.Returns shutdown false requests ended ↔
      ∃ k, shutdown = some ended ∧ (∀ j < k, p.Denied j) ∧ p.Underway k ended ∧
        requests = p.starts (k + 1)) ∧
    (∀ c ∈ shutdown, ∃ granted requests ended, p.Returns shutdown granted requests ended ∧ ended ≤ c) ∧
    (p.start 0 = 0 ∧ ∀ k, p.start (k + 1) = p.finish k + min p.period.millisUp longestSleep) ∧
    (∀ k fuel, k < fuel → (∀ j < k, p.Denied j) → (∀ c ∈ shutdown, p.start k ≤ c) →
      p.starts (k + 1) <+: (p.wait shutdown fuel).requests) ∧
    (∀ fuel, ∃ n ≤ fuel, (p.wait shutdown fuel).requests = p.starts n ∧
      (∀ k, k + 1 < n → p.Denied k) ∧ ∀ k < n, ∀ c ∈ shutdown, p.start k ≤ c) ∧
    (∀ s granted requests ended, p.Returns shutdown granted requests ended → ∃ n, ∀ fuel, n ≤ fuel →
      (Service.clientResult s (p.wait shutdown fuel) = .ok () ↔ granted = true)) ∧
    ∀ (around : Service.Surroundings) (s : Settings.InitSettings) (c : Millis), 0 < s.period →
      (Service.run around c (.init s) = .ok () ↔ ∃ requests ended,
        Returns ⟨Service.clientPeriod s, pollsOf around.network (Service.clientUrl s)⟩ (some c) true
          requests ended) := by
  refine ⟨fun requests ended => ?_, fun requests ended => ?_, fun c given => ?_, ⟨rfl, fun k => rfl⟩,
    fun k fuel inside denied late => starts_prefix denied late inside, p.requests_eq shutdown,
    fun s granted requests ended returns => ?_, fun around s c pauses => run_init_iff around pauses c⟩
  · rw [returns_true_iff]
    constructor
    · rintro ⟨k, first, sent, finished⟩
      refine ⟨k, first.granted, first.denied, fun c given => ?_, sent, finished⟩
      obtain ⟨takes, poll⟩ := first.granted
      have ends : p.polls k ≠ .hangs := fun hangs => nomatch poll.symm.trans hangs
      exact Nat.lt_of_le_of_ne (first.inTime c given) fun tied =>
        untied c given k ⟨first.denied, .inl ⟨ends, tied⟩⟩
    · rintro ⟨k, granted, denied, inTime, sent, finished⟩
      exact ⟨k, ⟨granted, denied, fun c given => (inTime c given).le⟩, sent, finished⟩
  · rw [returns_false_iff]
    constructor
    · rintro ⟨k, given, first, sent⟩
      exact ⟨k, given, first.denied, first.underway, sent⟩
    · rintro ⟨k, given, denied, underway, sent⟩
      exact ⟨k, given, ⟨denied, underway⟩, sent⟩
  · obtain rfl : shutdown = some c := given
    obtain ⟨granted, requests, ended, returns, -⟩ := returns_by_shutdown positive (Nat.lt_succ_self c)
    refine ⟨granted, requests, ended, returns, ?_⟩
    cases granted with
    | true =>
        obtain ⟨k, first, -, rfl⟩ := returns_true_iff.mp returns
        exact first.inTime c rfl
    | false =>
        obtain ⟨k, same, -, -⟩ := returns_false_iff.mp returns
        exact (Option.some.inj same).ge
  · obtain ⟨n, shown⟩ := returns
    refine ⟨n, fun fuel far => ?_⟩
    rw [clientResult_eq_ok_iff, shown fuel far]
    cases granted <;> simp

/-- One request is denied after five milliseconds, the next is not answered within a second, and the
third is granted.  The shutdown comes when the pause after the third would be over, had it been denied:
with a timer that never runs it is not tied. -/
theorem returns_first_grant_third :
    let p : Polling := ⟨.ofMillis 100, fun k =>
      match k with
      | 0 => .ends (.ok 423) 5
      | 1 => .ends (.error .timeout) 1000
      | 2 => .ends (.ok 200) 7
      | _ => .hangs⟩
    p.start 3 = 1312 ∧ p.Returns (some 1312) true [0, 105, 1205] 1212 := by
  intro p
  have granted : p.Granted 2 := ⟨7, rfl⟩
  have denied : ∀ j < 2, p.Denied j := by
    intro j before
    match j with
    | 0 => exact ⟨_, _, rfl, by decide⟩
    | 1 => exact ⟨_, _, rfl, nofun⟩
  have untied : ∀ c ∈ some 1312, ∀ k, ¬ p.TiedAt k c := by
    rintro c given k ⟨reached, tied⟩
    cases given
    have last : k ≤ 2 := Nat.le_of_not_lt fun beyond => granted.not_denied (reached 2 beyond)
    rcases tied with ⟨-, ends⟩ | ⟨again, wakes⟩
    · have all : ∀ k ≤ 2, p.finish k ≠ 1312 := by decide
      exact all k last ends
    · have before : k < 2 := Nat.lt_of_le_of_ne last fun same => granted.not_denied (same ▸ again)
      have all : ∀ k < 2, p.start (k + 1) ≠ 1312 := by decide
      exact all k before wakes
  obtain ⟨returns, -⟩ := returns_first_grant p (some 1312) (by decide) untied
  refine ⟨by decide, (returns _ _).mpr ⟨2, granted, denied, fun c given => ?_, by decide, by decide⟩⟩
  cases given
  decide

/-- **A period of more than thirty years is not waited out**, although the clock can show its end: the
second request is sent after thirty years. -/
theorem wait_cuts_pause :
    let p : Polling := ⟨.ofSeconds 1000000000, fun k => .ends (.ok (if k = 0 then 423 else 200)) 0⟩
    (Instant.after? 0 p.period).isSome ∧ p.period.millisUp = 1000000000000 ∧
      p.wait none 2 = ⟨.granted, [0, 946080000000], 946080000000⟩ ∧
      (p.wait none 2).requests[1]? ≠ some (p.finish 0 + p.period.millisUp) := by
  decide

end Polling

end StartupGate.LockClient

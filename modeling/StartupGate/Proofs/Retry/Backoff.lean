/-
# StartupGate.Proofs.Retry.Backoff -- the first success within the budget

The attempts of an operation all end, each with its result.  If every delay that is used is a
span of time, the run makes the attempts up to the first success, or all of its budget
(`Retried.ending?_of_fails`), and sleeps between two of them for the delay of the policy:

* with a steady policy for the base delay, rounded up to whole milliseconds;
* otherwise for no less, and for no more than the base delay stretched by all of the jitter,
  up to the rounding of doubles and of the timer (`Policy.WaitsFor`).

No sleep is longer than thirty years (`Retried.run_cuts_sleep`).
-/
import Mathlib.Tactic.IntervalCases
import StartupGate.Proofs.Retry.Timeline
import StartupGate.Proofs.Time

set_option autoImplicit false

namespace StartupGate.Retry

/-! ## Delays and sleeps -/

namespace Policy

variable {p : Policy} {attempt : Nat} {share : Binary64} {base d : Duration}

/-- A share that is drawn under the policy lies between zero and the jitter; a steady policy draws
none. -/
def Draws (p : Policy) (share : Binary64) : Prop :=
  p.isSteady = false → ∀ most, p.jitter = .finite false most →
    ∃ drawn ≤ most, share = .finite false drawn

/-- How long may be slept for a base delay, in milliseconds. -/
structure WaitsFor (p : Policy) (base : Duration) (wait : Millis) : Prop where
  least : min base.millisUp longestSleep ≤ wait
  longest : wait ≤ longestSleep
  steady : p.isSteady = true → wait = min base.millisUp longestSleep
  /-- The timer adds less than a millisecond, and the doubles less than a microsecond. -/
  most : p.isSteady = false →
    (wait * 10 ^ 6 : ℚ) ≤ base.nanos * (1 + p.jitter.size) + (10 ^ 6 + 10 ^ 3)

/-- The delay of a steady policy is the base delay. -/
theorem delay_eq_base (steady : p.isSteady = true) (ok : p.delay attempt share = .ok d) :
    p.baseDelay attempt = .ok d := by
  rw [delay, if_pos steady] at ok
  cases found : p.baseDelay attempt with
  | error cause => rw [found] at ok; cases ok
  | ok base => rw [found] at ok; cases ok; rfl

/-- A policy that is not steady and has a delay has a jitter above zero, and the delay is the base delay
and a share of it. -/
theorem delay_eq_stretched (shaky : p.isSteady = false) (ok : p.delay attempt share = .ok d) :
    ∃ base extra most, p.baseDelay attempt = .ok base ∧ base.scale share = .ok extra ∧
      d.nanos = base.nanos + extra.nanos ∧ p.jitter = .finite false most := by
  rw [delay, if_neg (by rw [shaky]; exact Bool.false_ne_true)] at ok
  cases found : p.baseDelay attempt with
  | error cause => rw [found] at ok; cases ok
  | ok base =>
      simp only [found, stretchedDelay] at ok
      cases jitter : p.jitter with
      | nan => rw [jitter] at ok; cases ok
      | infinite negative => rw [jitter] at ok; cases ok
      | finite negative most =>
          cases negative with
          | true =>
              simp [isSteady, jitter, Binary64.isAboveZero] at shaky
          | false =>
              rw [jitter] at ok
              cases stretched : base.scale share with
              | error cause => rw [stretched] at ok; cases ok
              | ok extra =>
                  simp only [stretched, reduceCtorEq, if_false, Binary64.isFinite, if_true] at ok
                  split at ok
                  · cases ok
                    exact ⟨base, extra, most, rfl, stretched, rfl, rfl⟩
                  · cases ok

/-- A policy with a finite jitter has a delay where the base delay and its share have a sum. -/
theorem delay_of_stretched {extra : Duration} (shaky : p.isSteady = false)
    (number : p.jitter ≠ .nan) (isFinite : p.jitter.isFinite = true)
    (found : p.baseDelay attempt = .ok base) (stretched : base.scale share = .ok extra)
    (fits : base.nanos + extra.nanos ≤ longest.nanos) :
    p.delay attempt share = .ok ⟨base.nanos + extra.nanos⟩ := by
  rw [delay, if_neg (by rw [shaky]; exact Bool.false_ne_true)]
  simp only [found, stretchedDelay, stretched, fits, isFinite, number, if_true, if_false]

/-- A share that may be drawn is no more than the jitter. -/
theorem Draws.size_le {most : Nat} (drawn : p.Draws share) (shaky : p.isSteady = false)
    (jitter : p.jitter = .finite false most) : share.size ≤ p.jitter.size := by
  obtain ⟨units, within, rfl⟩ := drawn shaky most jitter
  rw [jitter]
  exact div_le_div_of_nonneg_right (Nat.cast_le.mpr within) Binary64.cast_unitsPerOne_pos.le

/-- A sleep for a delay that a share of the jitter stretches is hardly longer than for all of the
jitter: what doubles add to a span below thirty years is less than a microsecond. -/
theorem sleep_le {extra : Duration} {jitter : ℚ}
    (sum : d.nanos = base.nanos + extra.nanos)
    (stretched : (extra.nanos : ℚ) ≤ (1 + 1 / 2 ^ 50) * (base.nanos * jitter) + 1) :
    (d.asSleep.millisUp * 10 ^ 6 : ℚ) ≤ base.nanos * (1 + jitter) + (10 ^ 6 + 10 ^ 3) := by
  have plain : (0 : ℚ) ≤ base.nanos := Nat.cast_nonneg _
  have cut : (d.asSleep.millisUp : ℚ) ≤ 946080000000 := by
    have bound : d.asSleep.millisUp ≤ 946080000000 :=
      longestSleep_eq ▸ Duration.millisUp_asSleep d ▸ Nat.min_le_right _ _
    exact_mod_cast bound
  have rounded : (d.asSleep.millisUp * 10 ^ 6 : ℚ) ≤ base.nanos + extra.nanos + 10 ^ 6 := by
    have bound : d.asSleep.millisUp * 1000000 ≤ base.nanos + extra.nanos + 1000000 := by
      rw [← sum, Duration.millisUp_asSleep]
      exact Nat.le_trans (Nat.mul_le_mul_right _ (Nat.min_le_left _ _))
        (Nat.le_of_lt d.millisUp_mul_lt)
    have cast : (d.asSleep.millisUp * 1000000 : ℚ) ≤ base.nanos + extra.nanos + 1000000 := by
      exact_mod_cast bound
    linarith
  rcases le_total (946080000000 * 10 ^ 6 : ℚ) (base.nanos * jitter) with long | short
  · linarith
  · linarith

/-- **What is slept for a delay of the policy.** -/
theorem waitsFor_of_delay (drawn : p.Draws share) (ok : p.delay attempt share = .ok d) :
    ∃ base, p.baseDelay attempt = .ok base ∧ p.WaitsFor base d.asSleep.millisUp := by
  have longest : d.asSleep.millisUp ≤ longestSleep :=
    Duration.millisUp_asSleep d ▸ Nat.min_le_right _ _
  cases steady : p.isSteady with
  | true =>
      have exact : d.asSleep.millisUp = min d.millisUp longestSleep := Duration.millisUp_asSleep d
      exact ⟨d, delay_eq_base steady ok, exact.ge, longest, fun _ => exact,
        fun shaky => absurd (steady.symm.trans shaky) nofun⟩
  | false =>
      obtain ⟨base, extra, most, found, stretched, sum, jitter⟩ := delay_eq_stretched steady ok
      have least : min base.millisUp longestSleep ≤ d.asSleep.millisUp := by
        rw [Duration.millisUp_asSleep]
        exact min_le_min_right _ (Duration.millisUp_mono (sum ▸ Nat.le_add_right _ _))
      refine ⟨base, found, least, longest, fun s => absurd (steady.symm.trans s) nofun, fun _ => ?_⟩
      refine sleep_le sum ((Duration.nanos_scale_le stretched).trans ?_)
      have share_le : base.nanos * share.size ≤ base.nanos * p.jitter.size :=
        mul_le_mul_of_nonneg_left (drawn.size_le steady jitter) (Nat.cast_nonneg _)
      linarith

/-! ## The standard policy -/

/-- The delays of the standard policy, without jitter, are one, two, four and eight seconds. -/
theorem baseDelay_standard {k : Nat} (spare : k + 1 < standard.budget) :
    standard.baseDelay (k + 1) = .ok (.ofSeconds (2 ^ k)) := by
  have within : k < 4 := Nat.lt_of_succ_lt_succ spare
  interval_cases k <;> decide +kernel

/-- Such a delay is as many seconds as a double. -/
theorem toBinary64_standard {k : Nat} (within : k < 4) :
    (Duration.ofSeconds (2 ^ k)).toBinary64 = .finite false (2 ^ k * Binary64.unitsPerOne) := by
  interval_cases k <;> decide +kernel

/-- **The standard policy always has a delay.** -/
theorem exists_delay_standard {k : Nat} (spare : k + 1 < standard.budget)
    (drawn : standard.Draws share) : ∃ d, standard.delay (k + 1) share = .ok d := by
  have within : k < 4 := Nat.lt_of_succ_lt_succ spare
  have power : 2 ^ k ≤ 8 := Nat.pow_le_pow_right Nat.two_pos (Nat.le_of_lt_succ within)
  have shaky : standard.isSteady = false := by decide +kernel
  obtain ⟨most, jitter, small⟩ :
      ∃ most, standard.jitter = .finite false most ∧ most ≤ Binary64.unitsPerOne :=
    ⟨Binary64.roundUnits Binary64.unitsPerOne 10, by decide +kernel, by decide +kernel⟩
  obtain ⟨units, atMost, rfl⟩ := drawn shaky most jitter
  have part : units ≤ Binary64.unitsPerOne := atMost.trans small
  obtain ⟨extra, stretched⟩ := Duration.exists_scale (toBinary64_standard within) part
    (Nat.mul_le_mul_right _ (power.trans (by decide)))
  have fits : (Duration.ofSeconds (2 ^ k)).nanos + extra.nanos ≤ longest.nanos := by
    have bound := Duration.nanos_scale_le stretched
    have size : (Binary64.finite false units).size ≤ 1 :=
      div_le_one_of_le₀ (Nat.cast_le.mpr part) Binary64.cast_unitsPerOne_pos.le
    have base : (Duration.ofSeconds (2 ^ k)).nanos ≤ 8000000000 := Nat.mul_le_mul_right _ power
    have product : ((Duration.ofSeconds (2 ^ k)).nanos : ℚ) * (Binary64.finite false units).size ≤
        8000000000 * 1 :=
      mul_le_mul (by exact_mod_cast base) size (Binary64.size_nonneg _) (by norm_num)
    have cast : (extra.nanos : ℚ) ≤ 16000000001 := by linarith
    have short : extra.nanos ≤ 16000000001 := by exact_mod_cast cast
    exact (Nat.add_le_add base short).trans (by decide)
  refine ⟨_, delay_of_stretched shaky ?_ ?_ (baseDelay_standard spare) stretched fits⟩
  · rw [jitter]
    exact nofun
  · rw [jitter]
    rfl

end Policy

/-! ## The first success -/

namespace Retried

variable {ε α : Type} {o : Retried ε α} {k : Nat} {e : ε} {value : α} {takes : Millis}

theorem ending?_of_ok (succeeds : o.attempts k = .ends (.ok value) takes) :
    o.ending? k = some (.done value) := by
  rw [ending?, succeeds]

theorem ending?_of_spent (fails : o.attempts k = .ends (.error e) takes)
    (spent : o.policy.budget ≤ k + 1) : o.ending? k = some (.exhausted (k + 1) e) := by
  rw [ending?, fails]
  exact if_pos spent

theorem ending?_of_fails {d : Duration} (fails : o.attempts k = .ends (.error e) takes)
    (spare : k + 1 < o.policy.budget) (found : o.delay k = .ok d) : o.ending? k = none := by
  simp only [ending?, fails, found, if_neg (Nat.not_le.mpr spare)]

/-- The sleeps of a run lie between its calls, and each is one that the policy has. -/
theorem run_calls_waits (drawn : ∀ k, o.policy.Draws (o.shares k)) :
    let r := o.run none
    r.waits.length + 1 = r.calls.length ∧ r.calls[0]? = some 0 ∧
    (∀ k wait, r.waits[k]? = some wait → ∃ base t, o.policy.baseDelay (k + 1) = .ok base ∧
      r.calls[k]? = some t ∧ r.calls[k + 1]? = some (t + (o.attempts k).takes + wait) ∧
      o.policy.WaitsFor base wait) ∧
    ∃ t, r.calls[r.waits.length]? = some t ∧
      r.finished = t + (o.attempts r.waits.length).takes := by
  intro r
  obtain ⟨n, outcome, last, -⟩ := o.exists_endsAt
  have course : r = o.ended n outcome (o.finish n) := run_of_endsAt last nofun
  have call : ∀ k ≤ n, r.calls[k]? = some (o.start k) := by
    intro k within
    have inside : k < n + 1 := Nat.lt_succ_of_le within
    simp [course, ended, inside]
  have waits : r.waits.length = n := by simp [course, ended]
  refine ⟨by simp [course, ended], call 0 (Nat.zero_le n), ?_, ?_⟩
  · intro k wait slept
    have before : k < n := waits ▸ (List.getElem?_eq_some_iff.mp slept).1
    obtain ⟨-, -, d, found⟩ := eq_of_goesOn (last.reaches k before)
    have pause : o.pause k = d.asSleep.millisUp := by rw [Retried.pause, found]
    obtain rfl : o.pause k = wait := by simpa [course, ended, before] using slept
    obtain ⟨base, plain, waitsFor⟩ := Policy.waitsFor_of_delay (drawn (k + 1)) found
    exact ⟨base, o.start k, plain, call k (Nat.le_of_lt before), call (k + 1) before,
      pause ▸ waitsFor⟩
  · rw [waits]
    exact ⟨o.start n, call n (Nat.le_refl n), by rw [course]; rfl⟩

/-- An operation whose attempts all end. -/
def ofResults (p : Policy) (shares : Nat → Binary64) (results : Nat → Except ε α)
    (takes : Nat → Millis) : Retried ε α :=
  ⟨p, shares, fun k => .ends (results k) (takes k)⟩

/-- **A run gives exactly the first success within its budget.**  Every delay that is used is a span of
time, and the shares are drawn as the policy has it.  If an attempt within the budget succeeds and
none before it does, it is the last call and its value is the result.  If none within the budget
succeeds, there are as many calls as the budget has, and the error of the last is reported with
their number.  There is a sleep between any two calls and none after the last: each call but the
first comes when the attempt before it has ended and the delay of the policy is over, and the
run ends with its last attempt. -/
theorem run_within_budget (p : Policy) (shares : Nat → Binary64) (results : Nat → Except ε α)
    (takes : Nat → Millis) (drawn : ∀ k, p.Draws (shares k))
    (delays : ∀ k, k + 1 < p.budget → (∀ j ≤ k, ∃ e, results j = .error e) →
      ∃ d, p.delay (k + 1) (shares (k + 1)) = .ok d) :
    let r := (ofResults p shares results takes).run none
    (∀ k < p.budget, ∀ value, (∀ j < k, ∃ e, results j = .error e) → results k = .ok value →
      r.outcome = .done value ∧ r.calls.length = k + 1) ∧
    (∀ e, (∀ k < p.budget, ∃ e, results k = .error e) → results (p.budget - 1) = .error e →
      r.outcome = .exhausted p.budget e ∧ r.calls.length = p.budget) ∧
    r.waits.length + 1 = r.calls.length ∧ r.calls[0]? = some 0 ∧
    (∀ k wait, r.waits[k]? = some wait → ∃ base t, p.baseDelay (k + 1) = .ok base ∧
      r.calls[k]? = some t ∧ r.calls[k + 1]? = some (t + takes k + wait) ∧
      p.WaitsFor base wait) ∧
    ∃ t, r.calls[r.waits.length]? = some t ∧ r.finished = t + takes r.waits.length := by
  intro r
  -- a failed attempt that is not the last of the budget is followed by another
  have reaches : ∀ k < p.budget, (∀ j < k, ∃ e, results j = .error e) →
      (ofResults p shares results takes).Reaches k := by
    intro k within failed j before
    obtain ⟨e, fails⟩ := failed j before
    have spare : j + 1 < p.budget := Nat.lt_of_le_of_lt before within
    obtain ⟨d, found⟩ :=
      delays j spare fun i order => failed i (Nat.lt_of_le_of_lt order before)
    exact ending?_of_fails (congrArg (Attempt.ends · (takes j)) fails) spare found
  refine ⟨?_, ?_, run_calls_waits drawn⟩
  · intro k within value failed succeeds
    have last : (ofResults p shares results takes).EndsAt k (.done value) :=
      ⟨reaches k within failed, ending?_of_ok (congrArg (Attempt.ends · (takes k)) succeeds)⟩
    rw [show r = _ from run_of_endsAt last nofun]
    exact ⟨rfl, by simp [ended]⟩
  · intro e failed fails
    have positive : 0 < p.budget := Nat.lt_of_lt_of_le Nat.zero_lt_one (Nat.le_max_right _ _)
    have count : p.budget - 1 + 1 = p.budget := Nat.sub_add_cancel positive
    have within : p.budget - 1 < p.budget := Nat.sub_one_lt_of_lt positive
    have last : (ofResults p shares results takes).EndsAt (p.budget - 1)
        (.exhausted (p.budget - 1 + 1) e) := by
      refine ⟨reaches _ within fun j before => failed j (Nat.lt_trans before within), ?_⟩
      exact ending?_of_spent (congrArg (Attempt.ends · (takes (p.budget - 1))) fails) count.ge
    rw [show r = _ from run_of_endsAt last nofun]
    exact ⟨by rw [ended, count], by simp [ended, count]⟩

/-- Two attempts fail and the third succeeds, with a hundred milliseconds doubling, an eighth of jitter
and a quarter of that drawn. -/
theorem run_within_budget_third :
    let p : Policy := ⟨4, .ofMillis 100, .ofNat 2, .finite false (Binary64.unitsPerOne / 8)⟩
    let r := (ofResults p (fun _ => .finite false (Binary64.unitsPerOne / 32))
      (fun k => if k < 2 then .error "refused" else .ok 7) (fun _ => 5)).run none
    r.outcome = .done 7 ∧ r.calls.length = 3 ∧ r.waits.length = 2 ∧
      ∃ wait, r.waits[0]? = some wait ∧ 100 ≤ wait ∧ r.calls[1]? = some (5 + wait) := by
  intro p r
  have drawn : ∀ k : Nat, p.Draws ((fun _ => .finite false (Binary64.unitsPerOne / 32)) k) := by
    intro k _ most jitter
    cases jitter
    exact ⟨_, Nat.div_le_div_left (by decide) (by decide), rfl⟩
  have failed : ∀ j < 2, ∃ e, (if j < 2 then Except.error "refused" else Except.ok 7) = .error e :=
    fun j before => ⟨"refused", if_pos before⟩
  obtain ⟨first, -, between, start, waits, -⟩ :=
    run_within_budget p (fun _ => .finite false (Binary64.unitsPerOne / 32))
      (fun k => if k < 2 then .error "refused" else .ok 7) (fun _ => 5) drawn (by
        intro k spare _
        have within : k + 1 < 4 := spare
        match k with
        | 0 => exact ⟨⟨103125000⟩, by decide +kernel⟩
        | 1 => exact ⟨⟨206250000⟩, by decide +kernel⟩
        | 2 => exact ⟨⟨412500000⟩, by decide +kernel⟩)
  obtain ⟨outcome, calls⟩ := first 2 (by decide) 7 failed rfl
  have slept : r.waits.length = 2 := Nat.succ_injective (between.trans calls)
  have inside : 0 < r.waits.length := slept ▸ Nat.two_pos
  obtain ⟨base, t, plain, called, next, waitsFor⟩ :=
    waits 0 r.waits[0] (List.getElem?_eq_getElem inside)
  obtain rfl : t = 0 := Option.some.inj (called.symm.trans start)
  have exact : p.baseDelay 1 = .ok (.ofMillis 100) := by decide +kernel
  obtain rfl : base = .ofMillis 100 := Except.ok.inj (plain.symm.trans exact)
  have least : min (Duration.ofMillis 100).millisUp longestSleep = 100 := by decide
  exact ⟨outcome, calls, slept, r.waits[0], List.getElem?_eq_getElem inside,
    least ▸ waitsFor.least, next.trans (by rw [Nat.zero_add])⟩

/-- **A delay of more than thirty years is not waited out**, although the clock can show its end: the
attempts come thirty years apart and not at the end of the delay. -/
theorem run_cuts_sleep :
    let base : Duration := .ofSeconds 1000000000
    let p : Policy := ⟨3, base, .one, .finite false 0⟩
    let results : Nat → Except String Nat := fun _ => .error "e"
    let r := (ofResults p (fun _ => .nan) results (fun _ => 0)).run none
    p.isSteady = true ∧ p.baseDelay 1 = .ok base ∧ (Instant.after? 0 base).isSome ∧
      base.millisUp = 1000000000000 ∧ r.calls = [0, 946080000000, 1892160000000] ∧
      r.calls[1]? ≠ some base.millisUp := by
  decide +kernel

end Retried

end StartupGate.Retry

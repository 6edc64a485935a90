/-
# StartupGate.Proofs.Retry.Overflow -- delays that are too long to wait for

A steady policy whose factor is one or more asks for a longer and longer delay.  A run ends without a
report exactly if it comes to ask for one that is no span of time (`Retried.run_reports`).  Which
delays there are can be said in numbers, up to the rounding of doubles:

* `Policy.exists_baseDelay`: all that the budget may need, if the last of them is short of `2 ^ 64` seconds
  (`Policy.Bounded`).
* `Policy.baseDelay_of_large`: none from the first on that exceeds `2 ^ 64` seconds.  So doubling from one
  second, there is no delay after the sixty-fifth attempt.
-/
import StartupGate.Proofs.Retry.Backoff
import StartupGate.Proofs.Retry.Cancellation

set_option autoImplicit false

namespace StartupGate.Retry

-- so that no tactic computes them
attribute [local irreducible] Binary64.unitsPerOne Binary64.unitsOverflow

/-! ## Delays -/

namespace Policy

variable {p : Policy} {k : Nat} {share : Binary64} {cause : DelayError}

/-- The factor is a finite number of one or more. -/
def Grows (p : Policy) : Prop := ∃ units, p.factor = .finite false units ∧ Binary64.unitsPerOne ≤ units

theorem Grows.within (grows : p.Grows) : p.factor.Within p.factor.size := by
  obtain ⟨units, factor, large⟩ := grows
  refine ⟨⟨units, factor⟩, .inr ⟨units, factor, ?_⟩, le_refl _⟩
  rw [pow_zero, one_mul]
  exact large

/-- A steady policy lacks a delay where the base delay is no span. -/
theorem delay_eq_error_iff (steady : p.isSteady = true) :
    p.delay k share = .error cause ↔ ∃ reason, p.baseDelay k = .error reason ∧ .seconds reason = cause := by
  rw [delay, if_pos steady]
  cases p.baseDelay k with
  | error reason => simp
  | ok d => simp

/-- A base delay that is no span is too long. -/
theorem Grows.eq_tooLarge (grows : p.Grows) {reason : SecondsError}
    (fails : p.baseDelay k = .error reason) : reason = .tooLargeOrNotANumber := by
  obtain ⟨units, factor, -⟩ := grows
  exact Duration.eq_tooLarge_of_scale (Binary64.isNegative_powi (by rw [factor]; rfl) _) fails

/-! ### Exponents -/

theorem exponent_succ (low : k < 2 ^ 31) : exponent (k + 1) = k := if_pos low

/-- The largest exponent of a delay that the budget may need. -/
def topExponent (p : Policy) : Nat := min (p.budget - 2) (2 ^ 31 - 1)

theorem exponent_le_topExponent (few : p.attempts < 2 ^ 32) (spare : k + 1 < p.budget) :
    exponent (k + 1) ≤ p.topExponent := by
  have budget : p.budget ≤ 2 ^ 32 := max_le few.le (by norm_num)
  rcases Nat.lt_or_ge k (2 ^ 31) with low | high
  · rw [exponent_succ low, topExponent]
    exact_mod_cast le_min (by omega) (by omega)
  · have negative : exponent (k + 1) = (k : Int) - Nat.pow 2 32 := if_neg (Nat.not_lt.mpr high)
    have below : k ≤ 2 ^ 32 := by omega
    rw [negative]
    refine le_trans (Int.sub_nonpos_of_le ?_) (Int.natCast_nonneg _)
    exact_mod_cast below

/-! ### Delays that are spans -/

/-- The longest delay that the budget may need, computed exactly, is short of `2 ^ 64` seconds, and its
power of the factor is no overflow. -/
structure Bounded (p : Policy) : Prop where
  power : p.factor.size ^ p.topExponent ≤ Binary64.sizeOverflow / 2
  delay : p.initialDelay.nanos * p.factor.size ^ p.topExponent ≤ (2 ^ 64 - 2 ^ 45) * 10 ^ 9

/-- **A bounded policy has all delays that its budget may need.** -/
theorem exists_baseDelay (grows : p.Grows) (few : p.attempts < 2 ^ 32) (bounded : p.Bounded)
    (spare : k + 1 < p.budget) : ∃ d, p.baseDelay (k + 1) = .ok d := by
  have factor := grows.within
  have overflow := Binary64.pow_le_sizeOverflow
  have small : (1 + 1 / 2 ^ 20) * p.factor.size ^ p.topExponent < Binary64.sizeOverflow := by
    have most := bounded.power
    linarith
  obtain ⟨unsigned, size⟩ := factor.powi (exponent_le_topExponent few spare)
    ((Nat.min_le_right _ _).trans (by norm_num)) small
  exact Duration.exists_scale_of_product unsigned size (one_le_pow₀ factor.one_le) bounded.delay

/-! ### Delays that are none -/

/-- **From `2 ^ 64` seconds on there are no delays.**  The factor is at least `2 ^ i` and the initial delay at
least `2 ^ j` seconds. -/
theorem baseDelay_of_large {i j : Nat} (factor : p.factor.AtLeast i)
    (initial : 2 ^ j ≤ p.initialDelay.seconds) (low : k < 2 ^ 31) (large : 64 ≤ i * k + j) :
    p.baseDelay (k + 1) = .error .tooLargeOrNotANumber := by
  have power : (p.factor.powi k).AtLeast (0 + i * k) :=
    (Binary64.squares_powi p.factor k).atLeast factor Binary64.atLeast_one
  rw [baseDelay, exponent_succ low]
  refine Duration.scale_of_atLeast power (Duration.atLeast_toBinary64 initial) ?_
  rw [Nat.zero_add]
  exact large

end Policy

/-! ## Runs -/

variable {ε α : Type}

/-- The run reports its end: with a value, as exhausted or as cancelled. -/
def Outcome.IsReport : Outcome ε α → Prop
  | .done _ | .exhausted _ _ | .cancelled _ => True
  | .noDelay _ | .endless => False

namespace Retried

variable {o : Retried ε α} {cancel : Option Millis} {cause : DelayError} {k : Nat}

/-- A run that asks for a delay that there is not reports nothing. -/
theorem AsksDelay.not_isReport (asks : o.AsksDelay cancel k) (error : o.delay k = .error cause) :
    ¬ (o.run cancel).outcome.IsReport := by
  rw [run_noDelay_iff.mpr ⟨k, asks, error⟩]
  exact not_false

/-- A run of a steady policy that grows reports its end or breaks off for a delay that is too long. -/
theorem isReport_or_tooLarge (steady : o.policy.isSteady = true) (grows : o.policy.Grows)
    (ends : cancel.isSome ∨ ∀ k, o.attempts k ≠ .hangs) :
    (o.run cancel).outcome.IsReport ∨
      (o.run cancel).outcome = .noDelay (.seconds .tooLargeOrNotANumber) := by
  cases came : (o.run cancel).outcome with
  | done value => exact .inl trivial
  | exhausted attempts last => exact .inl trivial
  | cancelled attempts => exact .inl trivial
  | endless => exact absurd came (run_ne_endless ends)
  | noDelay cause =>
      obtain ⟨k, -, error⟩ := run_noDelay_iff.mp came
      obtain ⟨reason, fails, rfl⟩ := (Policy.delay_eq_error_iff steady).mp error
      rw [grows.eq_tooLarge fails]
      exact .inr rfl

/-- A run of a steady policy that grows reports its end if it has all delays that it asks for. -/
theorem isReport_of_delays (steady : o.policy.isSteady = true) (grows : o.policy.Grows)
    (ends : cancel.isSome ∨ ∀ k, o.attempts k ≠ .hangs)
    (delays : ∀ k, o.AsksDelay cancel k → ∃ d, o.policy.baseDelay (k + 1) = .ok d) :
    (o.run cancel).outcome.IsReport := by
  refine (isReport_or_tooLarge steady grows ends).resolve_right fun broken => ?_
  obtain ⟨k, asks, error⟩ := run_noDelay_iff.mp broken
  obtain ⟨reason, fails, -⟩ := (Policy.delay_eq_error_iff steady).mp error
  obtain ⟨d, found⟩ := delays k asks
  rw [found] at fails
  cases fails

/-- If attempts fail up to one after which there is no delay, the run asks for a delay that there is
not. -/
theorem exists_asksDelay (fails : ∀ j ≤ k, ∃ e takes, o.attempts j = .ends (.error e) takes)
    (spare : k + 1 < o.policy.budget) (inTime : ∀ c ∈ cancel, o.finish k ≤ c)
    (error : o.delay k = .error cause) :
    ∃ j cause, o.AsksDelay cancel j ∧ o.delay j = .error cause := by
  classical
  have lacks : ∃ j cause, o.delay j = .error cause := ⟨k, cause, error⟩
  obtain ⟨first, error'⟩ := Nat.find_spec lacks
  have early : Nat.find lacks ≤ k := Nat.find_min' lacks ⟨cause, error⟩
  refine ⟨Nat.find lacks, first, ⟨?_, fails _ early, ?_, ?_⟩, error'⟩
  · intro j before
    obtain ⟨e, takes, failed⟩ := fails j (by omega)
    cases found : o.delay j with
    | error cause => exact absurd ⟨cause, found⟩ (Nat.find_min lacks before)
    | ok d => exact ending?_of_fails failed (by omega) found
  · omega
  · exact fun c given => Nat.le_trans (o.finish_mono early) (inTime c given)

/-- **A run of a steady policy that grows reports its end, unless a delay is too long.**  The run is one that
could be cancelled or whose attempts all end.

* It reports its end, with a value, as exhausted or as cancelled, if and only if every delay that it
  asks for is a span of time.
* Otherwise it breaks off there, for a delay that is too long.
* A policy whose longest delay, computed exactly, is short of `2 ^ 64` seconds by one part in `2 ^ 19` reports
  its end whatever the attempts do and whenever it is cancelled.
* A run whose attempts fail until the delay is `2 ^ 64` seconds or more breaks off: with a factor of at least
  `2 ^ i` and an initial delay of at least `2 ^ j` seconds at the latest after the attempt `k` with
  `64 ≤ i * k + j`, counted from zero. -/
theorem run_reports (o : Retried ε α) (steady : o.policy.isSteady = true) (grows : o.policy.Grows)
    (cancel : Option Millis) (ends : cancel.isSome ∨ ∀ k, o.attempts k ≠ .hangs) :
    let outcome := (o.run cancel).outcome
    (outcome.IsReport ↔
      ∀ k, o.AsksDelay cancel k → ∃ d, o.policy.baseDelay (k + 1) = .ok d) ∧
    (¬ outcome.IsReport → outcome = .noDelay (.seconds .tooLargeOrNotANumber)) ∧
    (o.policy.attempts < 2 ^ 32 → o.policy.Bounded → outcome.IsReport) ∧
    ∀ i j k, o.policy.factor.AtLeast i → 2 ^ j ≤ o.policy.initialDelay.seconds →
      64 ≤ i * k + j → k < 2 ^ 31 → k + 1 < o.policy.budget →
      (∀ n ≤ k, ∃ e takes, o.attempts n = .ends (.error e) takes) →
      (∀ c ∈ cancel, o.finish k ≤ c) → outcome = .noDelay (.seconds .tooLargeOrNotANumber) := by
  intro outcome
  have reports := isReport_of_delays steady grows ends
  have breaksOff := (isReport_or_tooLarge steady grows ends).resolve_left
  refine ⟨⟨fun report k asks => ?_, reports⟩, breaksOff, fun few bounded => ?_, ?_⟩
  · cases found : o.policy.baseDelay (k + 1) with
    | ok d => exact ⟨d, rfl⟩
    | error reason =>
        have error : o.delay k = .error (.seconds reason) :=
          (Policy.delay_eq_error_iff steady).mpr ⟨reason, found, rfl⟩
        exact absurd report (asks.not_isReport error)
  · exact reports fun k asks => Policy.exists_baseDelay grows few bounded asks.spare
  · intro i j k factor initial large low spare fails inTime
    have tooLong := Policy.baseDelay_of_large factor initial low large
    obtain ⟨first, cause, asks, error⟩ := exists_asksDelay fails spare inTime
      ((Policy.delay_eq_error_iff steady).mpr ⟨_, tooLong, rfl⟩)
    exact breaksOff (asks.not_isReport error)

/-- Doubling from one second: a run reports its end with sixty-five attempts, but not with sixty-six that
all fail. -/
theorem run_reports_doubling :
    let doubling (attempts : Nat) : Policy := ⟨attempts, .ofSeconds 1, .ofNat 2, .finite false 0⟩
    (∀ (attempts : Nat → Attempt String Nat) (c : Millis),
      (Retried.run ⟨doubling 65, fun _ => .nan, attempts⟩ (some c)).outcome.IsReport) ∧
    (Retried.run (ε := String) (α := Nat)
      ⟨doubling 66, fun _ => .nan, fun _ => .ends (.error "refused") 0⟩ none).outcome =
        .noDelay (.seconds .tooLargeOrNotANumber) := by
  intro doubling
  have two : Binary64.ofNat 2 = .finite false (2 * Binary64.unitsPerOne) := by decide +kernel
  have size : (Binary64.ofNat 2).size = 2 := by
    rw [two, Binary64.size, Nat.cast_mul, mul_div_cancel_right₀ _ Binary64.cast_unitsPerOne_pos.ne']
    rfl
  have whole : Binary64.unitsPerOne ≤ 2 * Binary64.unitsPerOne := Nat.le_mul_of_pos_left _ Nat.two_pos
  have grows : ∀ n, (doubling n).Grows := fun n => ⟨_, two, whole⟩
  have bounded : (doubling 65).Bounded := by
    have top : (doubling 65).topExponent = 63 := by decide
    have factor : (doubling 65).factor.size = 2 := size
    have overflow := Binary64.pow_le_sizeOverflow
    refine ⟨?_, ?_⟩
    · rw [top, factor]
      linarith
    · rw [top, factor]
      norm_num [doubling, Duration.ofSeconds, Duration.nanosPerSecond]
  refine ⟨fun attempts c => ?_, ?_⟩
  · obtain ⟨-, -, reports, -⟩ :=
      run_reports ⟨doubling 65, fun _ => .nan, attempts⟩ rfl (grows 65) (some c) (.inl rfl)
    exact reports (show 65 < 2 ^ 32 by decide) bounded
  · have answered : ∀ k : Nat, (fun _ => Attempt.ends (.error "refused") 0 : Nat → Attempt String Nat) k ≠
        .hangs := by
      intro k hangs
      cases hangs
    obtain ⟨-, -, -, breaks⟩ :=
      run_reports ⟨doubling 66, fun _ => .nan, _⟩ rfl (grows 66) none (.inr answered)
    refine breaks 1 0 64 (.inr ⟨_, two, Nat.le_refl _⟩) (by decide) (by decide) (by decide) (by decide)
      (fun _ _ => ⟨_, _, rfl⟩) ?_
    intro c given
    cases given

/-- Sixty-six attempts that double from one second and all fail: there is no delay after the sixty-fifth. -/
theorem run_overflows :
    let o : Retried String Nat :=
      ⟨⟨66, .ofSeconds 1, .ofNat 2, .finite false 0⟩, fun _ => .nan,
        fun _ => .ends (.error "refused") 0⟩
    o.policy.isSteady = true ∧ o.policy.Grows ∧
      o.policy.baseDelay 65 = .error .tooLargeOrNotANumber ∧ ¬ (o.run none).outcome.IsReport := by
  intro o
  have steady : o.policy.isSteady = true := rfl
  have grows : o.policy.Grows := ⟨2 * Binary64.unitsPerOne, by decide +kernel, by decide +kernel⟩
  have tooLong : o.policy.baseDelay 65 = .error .tooLargeOrNotANumber := by decide +kernel
  refine ⟨steady, grows, tooLong, fun report => ?_⟩
  obtain ⟨j, cause, asks, error⟩ : ∃ j cause, o.AsksDelay none j ∧ o.delay j = .error cause :=
    exists_asksDelay (fun _ _ => ⟨_, _, rfl⟩) (show 64 + 1 < o.policy.budget by decide)
      (fun c given => by cases given) ((Policy.delay_eq_error_iff steady).mpr ⟨_, tooLong, rfl⟩)
  exact asks.not_isReport error report

end Retried

end StartupGate.Retry

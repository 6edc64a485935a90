/-
# StartupGate.Proofs.Retry.Doubling -- delays that double are exact

The delay goes through doubles and back: the seconds of the initial delay become a double, a power of the
factor stretches them, and the product becomes a span of time.  For a whole number of seconds
and a factor that is a power of two, none of the steps rounds (`Policy.baseDelay_of_two_pow`).
The power itself may overflow, but then the product is too long for a span in any case.
-/
import StartupGate.Proofs.Number.PowerOfTwo
import StartupGate.Proofs.Retry.Overflow

set_option autoImplicit false

namespace StartupGate

open Binary64 (IsExact unitsPerOne unitsOverflow ofNat)

/-! ## Whole seconds -/

namespace Duration

variable {n s : Nat}

/-- What overflows is too long for a span. -/
theorem secondsOverflow_mul_le : secondsOverflow * unitsPerOne ≤ unitsOverflow := by decide +kernel

-- so that no tactic computes them
attribute [local irreducible] Binary64.unitsPerOne Binary64.unitsOverflow

/-- The seconds of a span of whole seconds. -/
theorem toBinary64_ofSeconds (few : s ≤ 2 ^ 53) : (ofSeconds s).toBinary64 = ofNat s := by
  have whole : (ofSeconds s).seconds = s := Nat.mul_div_cancel s (by decide)
  have rest : (ofSeconds s).subsecond = 0 := Nat.mul_mod_left s nanosPerSecond
  have positive : 0 < nanosPerSecond * unitsPerOne := Nat.mul_pos (by decide) Binary64.unitsPerOne_pos
  have fraction : (ofNat 0).div (ofNat nanosPerSecond) = .finite false 0 := by
    rw [Binary64.ofNat_eq (Nat.zero_le _), ofNat_nanosPerSecond, Binary64.div, if_neg positive.ne', Nat.zero_mul,
      Nat.zero_mul, Bool.false_bne, Binary64.ofQuotient_zero positive]
  rw [toBinary64, whole, rest, fraction, Binary64.ofNat_eq few, Binary64.addSizes, Nat.add_zero,
    ← Binary64.ofNat_eq few, ofNat]

/-- A whole number of seconds is the span of as many seconds, unless it is too large. -/
theorem ofBinary64_ofNat (exact : IsExact n) : ofBinary64 (ofNat n) =
    if n < 2 ^ 64 then .ok (ofSeconds n) else .error .tooLargeOrNotANumber := by
  have unit := Binary64.unitsPerOne_pos
  have limit : secondsOverflow = 2 ^ 64 := rfl
  split
  · next short =>
      have finite : n * unitsPerOne < secondsOverflow * unitsPerOne :=
        Nat.mul_lt_mul_of_pos_right (limit ▸ short) unit
      have nanos : Binary64.divTiesEven (n * unitsPerOne * nanosPerSecond) unitsPerOne = n * nanosPerSecond := by
        rw [Nat.mul_right_comm]
        exact Nat.le_antisymm (Binary64.divTiesEven_le unit (Nat.le_refl _))
          (Binary64.le_divTiesEven unit (Nat.le_refl _))
      rw [exact.ofNat_eq, if_pos (finite.trans_le secondsOverflow_mul_le), ofBinary64, if_neg (by simp),
        if_neg (Nat.not_le.mpr finite), nanos, ofSeconds]
  · next long =>
      have large : secondsOverflow * unitsPerOne ≤ n * unitsPerOne :=
        Nat.mul_le_mul_right _ (limit ▸ Nat.not_lt.mp long)
      rw [exact.ofNat_eq]
      split
      · rw [ofBinary64, if_neg (by simp), if_pos large]
      · rfl

/-- **Whole seconds stretched by a power of two** are exactly the product. -/
theorem scale_two_pow (some' : 1 ≤ s) (few : s ≤ 2 ^ 53) (e : Nat) :
    (ofSeconds s).scale (ofNat (2 ^ e)) =
      if s * 2 ^ e < 2 ^ 64 then .ok (ofSeconds (s * 2 ^ e)) else .error .tooLargeOrNotANumber := by
  have product : IsExact (2 ^ e * s) := by
    rw [Nat.mul_comm]
    exact Binary64.isExact_mul_pow few e
  have stretched := (Binary64.isExact_two_pow e).ofNat_mul_ofNat (Binary64.isExact_of_few few) product
    (Nat.two_pow_pos e) some'
  rw [scale, toBinary64_ofSeconds few, stretched, ofBinary64_ofNat product, Nat.mul_comm]

end Duration

/-! ## Delays -/

namespace Retry.Policy

variable {p : Policy} {i k s : Nat}

/-- **With a power of two as the factor the delays are exact.**  The attempts are counted from zero. -/
theorem baseDelay_of_two_pow (factor : p.factor = ofNat (2 ^ i)) (initial : p.initialDelay = .ofSeconds s)
    (some' : 1 ≤ s) (few : s ≤ 2 ^ 53) (low : k < 2 ^ 31) :
    p.baseDelay (k + 1) =
      if s * 2 ^ (i * k) < 2 ^ 64 then .ok (.ofSeconds (s * 2 ^ (i * k)))
      else .error .tooLargeOrNotANumber := by
  rw [baseDelay, exponent_succ low, factor, initial, Binary64.powi_two_pow, Duration.scale_two_pow some' few]

/-- **Doubling is exact.**  If the factor is two and the initial delay a whole number of seconds from one
to below `2 ^ 53`, then the delay after the attempt `n`, up to the attempt `2 ^ 31`, is the initial one
times `2 ^ (n - 1)`, to the nanosecond, if that is below `2 ^ 64` seconds.  From there on, and only there,
there is no delay, because it is too long. -/
theorem baseDelay_doubling (p : Policy) {s n : Nat} (double : p.factor = .ofNat 2)
    (initial : p.initialDelay = .ofSeconds s) (some' : 1 ≤ s) (few : s < 2 ^ 53) (first : 1 ≤ n)
    (last : n ≤ 2 ^ 31) :
    (s * 2 ^ (n - 1) < 2 ^ 64 → p.baseDelay n = .ok (.ofSeconds (s * 2 ^ (n - 1)))) ∧
    ((∃ cause, p.baseDelay n = .error cause) ↔ 2 ^ 64 ≤ s * 2 ^ (n - 1)) ∧
    ∀ cause, p.baseDelay n = .error cause → cause = .tooLargeOrNotANumber := by
  have delay : p.baseDelay n = if s * 2 ^ (n - 1) < 2 ^ 64 then .ok (.ofSeconds (s * 2 ^ (n - 1)))
      else .error .tooLargeOrNotANumber := by
    have exact := baseDelay_of_two_pow (i := 1) (k := n - 1) double initial some' few.le (by omega)
    rwa [Nat.sub_add_cancel first, Nat.one_mul] at exact
  rcases Nat.lt_or_ge (s * 2 ^ (n - 1)) (2 ^ 64) with short | long
  · rw [if_pos short] at delay
    have isSpan : ∀ cause, p.baseDelay n ≠ .error cause := by
      intro cause error
      rw [delay] at error
      cases error
    refine ⟨fun _ => delay, ⟨?_, fun long => absurd short (Nat.not_lt.mpr long)⟩, ?_⟩
    · rintro ⟨cause, error⟩
      exact absurd error (isSpan cause)
    · intro cause error
      exact absurd error (isSpan cause)
  · rw [if_neg (Nat.not_lt.mpr long)] at delay
    refine ⟨fun short => absurd short (Nat.not_lt.mpr long), ⟨fun _ => long, fun _ => ⟨_, delay⟩⟩, ?_⟩
    intro cause error
    rw [delay] at error
    cases error
    rfl

/-- The standard policy doubles from one second: `2 ^ 63` seconds after the attempt 64, and no delay after the
next one or after the attempt `2 ^ 31`, where the power of two overflows. -/
theorem baseDelay_doubling_standard :
    standard.baseDelay 64 = .ok (.ofSeconds (2 ^ 63)) ∧
      standard.baseDelay 65 = .error .tooLargeOrNotANumber ∧
      standard.baseDelay (2 ^ 31) = .error .tooLargeOrNotANumber := by
  have double : standard.factor = .ofNat 2 := by rw [standard]
  have initial : standard.initialDelay = .ofSeconds 1 := by rw [standard]
  have exact : standard.baseDelay 64 = .ok (.ofSeconds (2 ^ 63)) :=
    (baseDelay_doubling standard double initial (by decide) (by decide) (by decide) (by decide)).1 (by decide)
  have breaksOff : ∀ n, 65 ≤ n → n ≤ 2 ^ 31 → standard.baseDelay n = .error .tooLargeOrNotANumber := by
    intro n many last
    obtain ⟨-, fails, reason⟩ :=
      baseDelay_doubling standard double initial (by decide) (by decide) (by omega) last
    have long : 2 ^ 64 ≤ 1 * 2 ^ (n - 1) := by
      rw [Nat.one_mul]
      exact Nat.pow_le_pow_right Nat.two_pos (by omega)
    obtain ⟨cause, error⟩ := fails.mpr long
    rw [error, reason cause error]
  exact ⟨exact, breaksOff 65 (by decide) (by decide), breaksOff (2 ^ 31) (by decide) (Nat.le_refl _)⟩

end Retry.Policy

end StartupGate

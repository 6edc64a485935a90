/-
# StartupGate.Proofs.Retry.Growth -- delays grow from attempt to attempt

Under a policy whose factor is one or more, a higher exponent never gives a shorter delay
(`Policy.baseDelay_mono`), whatever doubles round on the way.  The exponent is one less than the number
of the attempt up to `2 ^ 31`; the numbers beyond stand for negative exponents, which rise again.  So the
delays grow up to the attempt `2 ^ 31`, fall once after it, to no more than the first one, and
grow again (`Policy.delay_grows_but_for_wrap`).
-/
import StartupGate.Proofs.Number.Order
import StartupGate.Proofs.Retry.Overflow

set_option autoImplicit false

namespace StartupGate

-- so that no tactic computes them
attribute [local irreducible] Binary64.unitsPerOne Binary64.unitsOverflow

/-! ## Stretched spans -/

namespace Duration

variable {d later : Duration} {x y factor factor' : Binary64}

/-- A smaller number of seconds is a span that is no longer. -/
theorem ofBinary64_mono (order : Binary64.AtMost x y) (ok : ofBinary64 y = .ok later) :
    ∃ earlier, ofBinary64 x = .ok earlier ∧ earlier.nanos ≤ later.nanos := by
  cases order with
  | overflow => cases ok
  | infinite => cases ok
  | @finite u v less =>
      simp only [ofBinary64, Bool.false_and, Bool.false_eq_true, if_false] at ok ⊢
      split at ok
      · cases ok
      · next short =>
          cases ok
          rw [if_neg (by omega)]
          refine ⟨_, rfl, ?_⟩
          have unit := Binary64.unitsPerOne_pos
          exact Binary64.divTiesEven_mono unit unit
            (Nat.mul_le_mul_right _ (Nat.mul_le_mul_right _ less))

/-- A span that is stretched to a span is finite in seconds, and so is the factor. -/
theorem exists_finite_of_scale (ok : d.scale factor = .ok later) :
    (∃ negative u, factor = .finite negative u) ∧ ∃ v, d.toBinary64 = .finite false v := by
  have unsigned : d.toBinary64.isNegative = false := Binary64.isNegative_addSizes _ _
  rw [scale] at ok
  generalize d.toBinary64 = seconds at unsigned ok ⊢
  fun_cases Binary64.mul factor seconds
  case case8 s u t v =>
    cases unsigned
    exact ⟨⟨s, u, rfl⟩, v, rfl⟩
  all_goals simp_all [ofBinary64, Binary64.mul]

/-- A span stretched by a smaller factor is no longer. -/
theorem scale_mono (order : Binary64.AtMost factor factor') (ok : d.scale factor' = .ok later) :
    ∃ earlier, d.scale factor = .ok earlier ∧ earlier.nanos ≤ later.nanos := by
  obtain ⟨⟨negative, u, rfl⟩, v, seconds⟩ := exists_finite_of_scale ok
  refine ofBinary64_mono ?_ ok
  rw [seconds]
  cases order with
  | finite less =>
      exact Binary64.ofQuotient_mono Binary64.unitsPerOne_pos Binary64.unitsPerOne_pos
        (Nat.mul_le_mul_right _ (Nat.mul_le_mul_right _ less))

end Duration

/-! ## Delays -/

namespace Retry.Policy

variable {p : Policy} {a b : Nat} {later : Duration}

theorem Grows.one_atMost (grows : p.Grows) : Binary64.AtMost .one p.factor := by
  obtain ⟨units, factor, large⟩ := grows
  rw [factor]
  exact .finite large

/-- **A lower exponent gives a delay that is no longer**, if the higher one gives a delay at all. -/
theorem baseDelay_mono (grows : p.Grows) (order : exponent a ≤ exponent b)
    (ok : p.baseDelay b = .ok later) :
    ∃ earlier, p.baseDelay a = .ok earlier ∧ earlier.nanos ≤ later.nanos :=
  Duration.scale_mono (grows.one_atMost.powi order) ok

theorem exponent_le_of_early (order : a ≤ b) (early : b ≤ 2 ^ 31) : exponent a ≤ exponent b := by
  simp only [exponent, Nat.pow_eq]
  split <;> split <;> omega

theorem exponent_le_of_late (order : a ≤ b) (late : 2 ^ 31 < a) : exponent a ≤ exponent b := by
  simp only [exponent, Nat.pow_eq]
  split <;> split <;> omega

/-- Past the attempt `2 ^ 31` the exponents are below those of all attempts up to it. -/
theorem exponent_le_of_wrap (early : a ≤ 2 ^ 31) (late : 2 ^ 31 < b) (word : b < 2 ^ 32) :
    exponent b ≤ exponent a := by
  simp only [exponent, Nat.pow_eq]
  split <;> split <;> omega

/-- **The delays grow, but for one fall after the attempt `2 ^ 31`.**  For two attempts, one not after the
other:

* If both are up to `2 ^ 31` or both are later, a delay after the second means a delay after the first
  that is no longer.
* If `2 ^ 31` lies between them, a delay after the first means a delay after the second that is no longer.
* So the delay after the first is at most that after the second if and only if `2 ^ 31` does not lie between
  them or the two are equal. -/
theorem delay_grows_but_for_wrap (p : Policy) (grows : p.Grows) {a b : Nat} (order : a ≤ b)
    (word : b < 2 ^ 32) :
    (b ≤ 2 ^ 31 ∨ 2 ^ 31 < a → ∀ later, p.baseDelay b = .ok later →
      ∃ earlier, p.baseDelay a = .ok earlier ∧ earlier.nanos ≤ later.nanos) ∧
    (a ≤ 2 ^ 31 → 2 ^ 31 < b → ∀ earlier, p.baseDelay a = .ok earlier →
      ∃ later, p.baseDelay b = .ok later ∧ later.nanos ≤ earlier.nanos) ∧
    ∀ earlier later, p.baseDelay a = .ok earlier → p.baseDelay b = .ok later →
      (earlier.nanos ≤ later.nanos ↔ b ≤ 2 ^ 31 ∨ 2 ^ 31 < a ∨ earlier = later) := by
  have sameSide : b ≤ 2 ^ 31 ∨ 2 ^ 31 < a → exponent a ≤ exponent b := by
    rintro (early | late)
    · exact exponent_le_of_early order early
    · exact exponent_le_of_late order late
  refine ⟨fun side later ok => baseDelay_mono grows (sameSide side) ok,
    fun early late earlier ok => baseDelay_mono grows (exponent_le_of_wrap early late word) ok, ?_⟩
  intro earlier later found found'
  constructor
  · intro grown
    by_cases side : b ≤ 2 ^ 31 ∨ 2 ^ 31 < a
    · exact side.imp_right .inl
    · have ⟨late, early⟩ := not_or.mp side
      obtain ⟨_, again, fallen⟩ := baseDelay_mono grows
        (exponent_le_of_wrap (Nat.not_lt.mp early) (Nat.not_le.mp late) word) found
      rw [found'] at again
      cases again
      exact .inr (.inr (congrArg Duration.mk (Nat.le_antisymm grown fallen)))
  · rintro (early | late | rfl)
    · obtain ⟨_, again, grown⟩ := baseDelay_mono grows (sameSide (.inl early)) found'
      rw [found] at again
      cases again
      exact grown
    · obtain ⟨_, again, grown⟩ := baseDelay_mono grows (sameSide (.inr late)) found'
      rw [found] at again
      cases again
      exact grown
    · exact Nat.le_refl _

/-- Doubling from one second: the delay after the attempt 64 is longer than that after the second, and the
one after the attempt `2 ^ 31 + 1` no longer than the first. -/
theorem delay_grows_but_for_wrap_doubling :
    let p : Policy := ⟨5, .ofSeconds 1, .ofNat 2, .finite false 0⟩
    p.Grows ∧ 2 ≤ 64 ∧ 64 < 2 ^ 32 ∧ p.baseDelay 64 = .ok (.ofSeconds (2 ^ 63)) ∧
      (∃ earlier, p.baseDelay 2 = .ok earlier ∧ earlier.nanos ≤ 2 ^ 63 * 10 ^ 9) ∧
      1 ≤ 2 ^ 31 + 1 ∧ 2 ^ 31 + 1 < 2 ^ 32 ∧ p.baseDelay 1 = .ok (.ofSeconds 1) ∧
      ∃ later, p.baseDelay (2 ^ 31 + 1) = .ok later ∧ later.nanos ≤ 10 ^ 9 := by
  intro p
  have grows : p.Grows := ⟨2 * Binary64.unitsPerOne, by decide +kernel, by decide +kernel⟩
  have long : p.baseDelay 64 = .ok (.ofSeconds (2 ^ 63)) := by decide +kernel
  have first : p.baseDelay 1 = .ok (.ofSeconds 1) := by decide +kernel
  obtain ⟨rises, -, -⟩ := delay_grows_but_for_wrap p grows (show 2 ≤ 64 by decide) (by decide)
  obtain ⟨-, falls, -⟩ := delay_grows_but_for_wrap p grows (show 1 ≤ 2 ^ 31 + 1 by decide) (by decide)
  exact ⟨grows, by decide, by decide, long, rises (.inl (by decide)) _ long, by decide, by decide, first,
    falls (by decide) (by decide) _ first⟩

/-- A factor one step above one: the delay after the attempt `2 ^ 31` is a little more than the initial
second, the next one a little less. -/
theorem delay_falls_after_wrap :
    let p : Policy := ⟨5, .ofSeconds 1, .finite false (Binary64.unitsPerOne + 2 ^ 1022), .finite false 0⟩
    p.Grows ∧ p.baseDelay (2 ^ 31) = .ok ⟨1000000477⟩ ∧
      p.baseDelay (2 ^ 31 + 1) = .ok ⟨999999523⟩ ∧
      ¬ ∀ a b earlier later, a ≤ b → b < 2 ^ 32 → p.baseDelay a = .ok earlier →
        p.baseDelay b = .ok later → earlier.nanos ≤ later.nanos := by
  intro p
  have grows : p.Grows := ⟨_, rfl, Nat.le_add_right _ _⟩
  have before : p.baseDelay (2 ^ 31) = .ok ⟨1000000477⟩ := by decide +kernel
  have after : p.baseDelay (2 ^ 31 + 1) = .ok ⟨999999523⟩ := by decide +kernel
  refine ⟨grows, before, after, fun shrinksNever => ?_⟩
  have order := shrinksNever _ _ _ _ (Nat.le_succ _) (by decide) before after
  exact absurd order (by decide)

end Retry.Policy

end StartupGate

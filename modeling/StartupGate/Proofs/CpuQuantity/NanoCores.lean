/-
# StartupGate.Proofs.CpuQuantity.NanoCores -- whole nano-cores are converted exactly

An amount is rounded when its number is read, when it is scaled to milli-CPU, and when these are made
nano-cores again; factors of 1024 cost nothing.  Below `2 ^ 50` nano-cores these three roundings are less
than half a nano-core, so a whole number of nano-cores is found again (`ceilMillis_eq`).  What is left is
one quotient, which no whole number lies close enough to to be mistaken for it (`ceil_div_million`).

* `millis_exact`: each spelling of the amount gives the milli-CPU that just cover it.
-/
import Mathlib.Data.Rat.Floor
import StartupGate.Proofs.CpuQuantity.Text
import StartupGate.Proofs.Number.Deviation
import StartupGate.Proofs.Number.Numeral

set_option autoImplicit false

namespace StartupGate.CpuQuantity

open Binary64

variable {c d k n : Nat} {x : Binary64} {w : Written}

-- so that no tactic computes them
attribute [local irreducible] unitsPerOne unitsOverflow

/-! ## Scaling -/

section Scaling

variable (few : n < 2 ^ 50)

include few

theorem regular_of_few (positive : 0 < d) (small : d ≤ 2 ^ 99) : Regular (n / d) :=
  regular_div positive (few.le.trans (by norm_num)) small

/-- A factor of 1024 is taken back without a rounding. -/
theorem deviates_mul_kibi (positive : 0 < d) (small : d ≤ 2 ^ 99)
    (deviates : Deviates 1 x (n / (1024 * d : Nat))) : Deviates 1 (x.mul Scale.kibiFactor) (n / d) := by
  have dPos : (0 : ℚ) < d := by exact_mod_cast positive
  have value : (n / (1024 * d : Nat) * (2 ^ 10 : Nat) : ℚ) = n / d := by
    push_cast
    field_simp
  have scaled := deviates.mul_pow (e := 10) (by norm_num) (by norm_num)
    (value ▸ regular_of_few few positive small)
  rwa [value] at scaled

/-- A power of ten is taken back with one rounding. -/
theorem deviates_mul_ten (fits : k ≤ 12) (deviates : Deviates 1 x (n / (10 ^ k * 10 ^ 6 : Nat))) :
    Deviates 2 (x.mul (Scale.powerOfTen k)) (n / (10 ^ 6 : Nat)) := by
  have value : (n / (10 ^ k * 10 ^ 6 : Nat) * (10 ^ k : Nat) : ℚ) = n / (10 ^ 6 : Nat) := by
    push_cast
    field_simp
  have exact : 10 ^ k ≤ 2 ^ 53 := (Nat.pow_le_pow_right (by decide) fits).trans (by norm_num)
  have scaled := deviates.mul_ofNat (by norm_num) exact
    (value ▸ regular_of_few few (by norm_num) (by norm_num))
  rwa [value] at scaled

/-- A power of ten that is missing is divided by with one rounding. -/
theorem deviates_div_ten (fits : c + k = 6) (deviates : Deviates 1 x (n / (10 ^ c : Nat))) :
    Deviates 2 (x.div (Scale.powerOfTen k)) (n / (10 ^ 6 : Nat)) := by
  have value : (n / (10 ^ c : Nat) / (10 ^ k : Nat) : ℚ) = n / (10 ^ 6 : Nat) := by
    rw [div_div, ← Nat.cast_mul, ← Nat.pow_add, fits]
  have exact : 10 ^ k ≤ 2 ^ 53 :=
    (Nat.pow_le_pow_right (by decide) (by omega : k ≤ 6)).trans (by norm_num)
  have scaled := deviates.div_ofNat (by norm_num) exact (Nat.pow_pos (by decide))
    (value ▸ regular_of_few few (by norm_num) (by norm_num))
  rwa [value] at scaled

/-- **Scaling to milli-CPU** adds one rounding at most, in all scales. -/
theorem Scale.deviates_toMillis (s : Scale) (deviates : Deviates 1 x (n / s.nanoCores)) :
    Deviates 2 (s.toMillis x) (n / (10 ^ 6 : Nat)) := by
  cases s with
  | nano => exact deviates_div_ten (c := 0) few rfl deviates
  | micro => exact deviates_div_ten (c := 3) few rfl deviates
  | milli => exact deviates.succ (div_nonneg (Nat.cast_nonneg n) (Nat.cast_nonneg _))
  | one => exact deviates_mul_ten few (by decide) deviates
  | kilo => exact deviates_mul_ten few (by decide) deviates
  | mega => exact deviates_mul_ten few (by decide) deviates
  | giga => exact deviates_mul_ten few (by decide) deviates
  | kibi =>
      have once := deviates_mul_kibi (d := 10 ^ 3 * 10 ^ 6) few (by decide) (by decide) deviates
      exact deviates_mul_ten few (by decide) once
  | mebi =>
      have once := deviates_mul_kibi (d := 1024 * (10 ^ 3 * 10 ^ 6)) few (by decide) (by decide) deviates
      have twice := deviates_mul_kibi few (by decide) (by decide) once
      exact deviates_mul_ten few (by decide) twice
  | gibi =>
      have once := deviates_mul_kibi (d := 1024 * (1024 * (10 ^ 3 * 10 ^ 6))) few (by decide) (by decide)
        deviates
      have twice := deviates_mul_kibi few (by decide) (by decide) once
      have thrice := deviates_mul_kibi few (by decide) (by decide) twice
      exact deviates_mul_ten few (by decide) thrice

end Scaling

/-! ## Rounding up -/

theorem millisOf_le_iff (n k : Nat) : Written.millisOf n ≤ k ↔ n ≤ k * 10 ^ 6 := by
  have million : Nat.pow 10 6 = 1000000 := rfl
  rw [Written.millisOf, million]
  omega

/-- The milli-CPU of whole nano-cores are their millionth, rounded up. -/
theorem millisOf_eq_ceil (n : Nat) : Written.millisOf n = ⌈(n / 10 ^ 6 : ℚ)⌉₊ := by
  refine eq_of_forall_ge_iff fun k => ?_
  rw [millisOf_le_iff, Nat.ceil_le, div_le_iff₀ (by norm_num)]
  exact_mod_cast Iff.rfl

/-- A millionth is not rounded beyond the next whole number. -/
theorem roundUnits_million_le (few : n < 2 ^ 50) :
    roundUnits (n * unitsPerOne) (10 ^ 6) ≤ Written.millisOf n * unitsPerOne := by
  have atMost : n ≤ Written.millisOf n * 10 ^ 6 := (millisOf_le_iff n _).mp (Nat.le_refl _)
  have small : Written.millisOf n ≤ 2 ^ 53 := (millisOf_le_iff n _).mpr (few.le.trans (by norm_num))
  refine (isDouble_whole small).roundUnits_le (by norm_num) ?_
  calc n * unitsPerOne ≤ Written.millisOf n * 10 ^ 6 * unitsPerOne := Nat.mul_le_mul_right _ atMost
    _ = Written.millisOf n * unitsPerOne * 10 ^ 6 := Nat.mul_right_comm _ _ _

/-- A millionth is not rounded to the whole number before: a `2 ^ 20`-th beyond that there is a double. -/
theorem lt_roundUnits_million (few : n < 2 ^ 50) (more : k * 10 ^ 6 < n) :
    k * unitsPerOne < roundUnits (n * unitsPerOne) (10 ^ 6) := by
  obtain ⟨e, unit⟩ := exists_unitsPerOne_eq_mul (s := 20) (by norm_num)
  have small : k * 2 ^ 20 + 1 ≤ 2 ^ 53 := by omega
  have isDouble : IsDouble ((k * 2 ^ 20 + 1) * 2 ^ e) := isDouble_mul_pow small e
  have above : (k * 2 ^ 20 + 1) * 2 ^ e ≤ roundUnits (n * unitsPerOne) (10 ^ 6) := by
    refine isDouble.le_roundUnits (by norm_num) ?_
    calc (k * 2 ^ 20 + 1) * 2 ^ e * 10 ^ 6 = (k * 2 ^ 20 + 1) * 10 ^ 6 * 2 ^ e := Nat.mul_right_comm _ _ _
      _ ≤ n * 2 ^ 20 * 2 ^ e := Nat.mul_le_mul_right _ (by linarith)
      _ = n * unitsPerOne := by rw [unit, Nat.mul_assoc]
  calc k * unitsPerOne = k * 2 ^ 20 * 2 ^ e := by rw [unit, Nat.mul_assoc]
    _ < (k * 2 ^ 20 + 1) * 2 ^ e := Nat.mul_lt_mul_of_pos_right (Nat.lt_succ_self _) (Nat.two_pow_pos e)
    _ ≤ roundUnits (n * unitsPerOne) (10 ^ 6) := above

/-- **A millionth that was rounded is rounded up as if it had not been.** -/
theorem ceil_div_million (few : n < 2 ^ 50) :
    ((finite false (n * unitsPerOne)).div (Scale.powerOfTen 6)).ceil =
      .finite false (Written.millisOf n * unitsPerOne) := by
  have unit := unitsPerOne_pos
  have divided : (finite false (n * unitsPerOne)).div (Scale.powerOfTen 6) =
      .finite false (roundUnits (n * unitsPerOne) (10 ^ 6)) := by
    have exact : Deviates 0 (finite false (n * unitsPerOne)) n := by
      rw [← ofNat_eq (few.le.trans (by norm_num))]
      exact deviates_ofNat (few.le.trans (by norm_num))
    have finite := (exact.div_ofNat (c := 10 ^ 6) (by norm_num) (by norm_num) (by norm_num)
      (regular_of_few few (by norm_num) (by norm_num))).unsigned
    rw [Scale.powerOfTen, Nat.pow_eq]
    rw [div_ofNat_eq _ (by norm_num) (by norm_num)] at finite ⊢
    refine (ofQuotient_eq_of_unsigned finite).trans (congrArg _ ?_)
    exact roundUnits_congr (Nat.mul_pos (by norm_num) unit) (by norm_num) (by ring)
  have most := roundUnits_million_le few
  have whole : (roundUnits (n * unitsPerOne) (10 ^ 6) + (unitsPerOne - 1)) / unitsPerOne =
      Written.millisOf n := by
    refine Nat.div_eq_of_lt_le ?_ ?_
    · rcases Nat.eq_zero_or_pos (Written.millisOf n) with zero | positive
      · rw [zero, Nat.zero_mul]
        exact Nat.zero_le _
      · obtain ⟨k, next⟩ := Nat.exists_eq_add_of_le' positive
        have before : k * 10 ^ 6 < n := by
          rw [← Nat.not_le, ← millisOf_le_iff, next]
          exact Nat.not_succ_le_self k
        have above := lt_roundUnits_million few before
        rw [next, Nat.add_mul, Nat.one_mul]
        omega
    · rw [Nat.add_mul, Nat.one_mul]
      omega
  rw [divided, ceil, whole]

theorem ceilMillis_eq (few : n < 2 ^ 50) (deviates : Deviates 2 x (n / (10 ^ 6 : Nat))) :
    ceilMillis x = .finite false (Written.millisOf n * unitsPerOne) := by
  have value : (n / (10 ^ 6 : Nat) * (10 ^ 6 : Nat) : ℚ) = n := by
    push_cast
    field_simp
  have product : Deviates 3 (x.mul (Scale.powerOfTen 6)) n := by
    have regular : Regular (n : ℚ) := by
      have whole := regular_of_few few (d := 1) (by norm_num) (by norm_num)
      rwa [Nat.cast_one, div_one] at whole
    have scaled := deviates.mul_ofNat (c := 10 ^ 6) (by norm_num) (by norm_num) (value ▸ regular)
    rwa [value] at scaled
  have less : deviation 3 * n < 1 / 2 := by
    have fewQ : (n : ℚ) < 2 ^ 50 := by exact_mod_cast few
    have part : deviation 3 ≤ 7 / 2 ^ 54 := by norm_num [deviation]
    have scaled := mul_le_mul part fewQ.le (Nat.cast_nonneg n) (by norm_num)
    linarith
  rw [ceilMillis, product.round_eq less, ceil_div_million few]

/-! ## Written amounts -/

theorem Scale.nanoCores_pos (s : Scale) : 0 < s.nanoCores := by cases s <;> decide

theorem Scale.nanoCores_le (s : Scale) : s.nanoCores ≤ 2 ^ 64 := by cases s <;> decide

namespace Written

/-- The amount in nano-cores, as an exact number. -/
def amount (w : Written) : ℚ :=
  Nat.ofDigits 10 (w.digits.map Decimal.digitValue).reverse / 10 ^ w.places * w.scale.nanoCores

theorem isNanoCores_iff : w.IsNanoCores n ↔ w.amount = n := by
  rw [IsNanoCores, shifted, amount, Integer.ofDigits_eq, div_mul_eq_mul_div, div_eq_iff (by positivity)]
  exact_mod_cast Iff.rfl

/-- **The number is rounded once when it is read.** -/
theorem deviates_number (whole : w.IsNanoCores n) (few : n < 2 ^ 50) :
    Deviates 1 (Decimal.toBinary64 ⟨false, Decimal.ofDigits w.digits, -(w.places : Int)⟩)
      (n / w.scale.nanoCores) := by
  have unit : 0 < w.scale.nanoCores := w.scale.nanoCores_pos
  have unitQ : (0 : ℚ) < w.scale.nanoCores := by exact_mod_cast unit
  have shifted : Decimal.ofDigits w.digits * w.scale.nanoCores = n * 10 ^ w.places := whole
  generalize Decimal.ofDigits w.digits = digits at *
  rcases Nat.eq_zero_or_pos digits with rfl | positive
  · have none' : n = 0 := by
      rw [Nat.zero_mul] at shifted
      exact (Nat.mul_eq_zero.mp shifted.symm).resolve_right (Nat.pow_pos (by decide)).ne'
    have zero := deviates_ofNat (Nat.zero_le (2 ^ 53))
    rw [ofNat_eq (Nat.zero_le _), Nat.zero_mul, Nat.cast_zero] at zero
    rw [none', Nat.cast_zero, zero_div]
    exact zero.succ (le_refl 0)
  · have some' : 0 < n := by
      refine Nat.pos_of_ne_zero ?_
      rintro rfl
      rw [Nat.zero_mul] at shifted
      exact absurd shifted (Nat.mul_pos positive unit).ne'
    have large : 10 ^ w.places ≤ digits * 2 ^ 200 := by
      calc 10 ^ w.places ≤ n * 10 ^ w.places := Nat.le_mul_of_pos_left _ some'
        _ = digits * w.scale.nanoCores := shifted.symm
        _ ≤ digits * 2 ^ 200 :=
          Nat.mul_le_mul_left _ (w.scale.nanoCores_le.trans (Nat.pow_le_pow_right (by decide) (by decide)))
    have value : ((digits * unitsPerOne : Nat) / ((10 ^ w.places : Nat) * unitsPerOne) : ℚ) =
        n / w.scale.nanoCores := by
      have cast : (digits * w.scale.nanoCores : ℚ) = n * (10 ^ w.places : Nat) := by exact_mod_cast shifted
      rw [Nat.cast_mul, mul_div_mul_right _ _ cast_unitsPerOne_pos.ne', div_eq_div_iff _ unitQ.ne', cast]
      exact_mod_cast (Nat.pow_pos (by decide)).ne'
    rw [Decimal.toBinary64_eq_ofQuotient positive.ne' large]
    refine deviates_ofQuotient (k := 0) (Nat.pow_pos (by decide)) ?_ (Nat.zero_le _)
      (regular_of_few few unit (w.scale.nanoCores_le.trans (by norm_num)))
    rw [value, sub_self, abs_zero, deviation_zero, zero_mul]

end Written

/-- **Whole nano-cores below `2 ^ 50` are converted exactly**, to the milli-CPU that just cover them.  It does
not matter in which scale they are written, with how many digits, or whether with a plus. -/
theorem millis_exact (number : w.IsNumber) (whole : w.amount = n) (few : n < 2 ^ 50) :
    millis (String.ofList w.text) = .ok ⌈(n / 10 ^ 6 : ℚ)⌉₊ := by
  have scaled := w.scale.deviates_toMillis few
    (Written.deviates_number (Written.isNanoCores_iff.mpr whole) few)
  have small : Written.millisOf n ≤ Integer.maxUnsigned64 :=
    (millisOf_le_iff n _).mpr (few.le.trans (by decide))
  rw [millis, String.toList_ofList, Written.readMillis?_text number, ceilMillis_eq few scaled,
    ← millisOf_eq_ceil]
  simp only [isFinite, isBelowZero, Bool.not_true, Bool.false_and, Bool.or_self, Bool.false_eq_true,
    if_false, toNatSaturating, Nat.mul_div_cancel _ unitsPerOne_pos, Nat.min_eq_left small]

/-- One nano-core below the bound, written in cores. -/
theorem millis_exact_most :
    let most : Written := ⟨true, "1125899".toList, some "906842623".toList, .one⟩
    most.IsNumber ∧ most.amount = (1125899906842623 : Nat) ∧ 1125899906842623 < 2 ^ 50 ∧
      millis "+1125899.906842623" = .ok 1125899907 := by
  intro most
  have number : most.IsNumber := ⟨by decide, List.all_eq_true.mp (by decide)⟩
  have whole : most.amount = (1125899906842623 : Nat) :=
    Written.isNanoCores_iff.mp (by decide +kernel : most.shifted = 1125899906842623 * Nat.pow 10 most.places)
  have few : 1125899906842623 < 2 ^ 50 := by norm_num
  have read := millis_exact number whole few
  rw [← millisOf_eq_ceil] at read
  exact ⟨number, whole, few, read⟩

end StartupGate.CpuQuantity

/-
# StartupGate.Proofs.Number.Rounding -- how much rounding to a double can add

A double is taken as the rational number it stands for (`Binary64.size`).  Rounding to the
nearest double adds at most one part in `2 ^ 53`, and half a unit where doubles are whole units
apart (`Binary64.roundUnits_le`).  So each operation is at most the exact one, times `slack`
and with `halfUnit` on top; an overflow has size zero and is covered.
-/
import Mathlib.Algebra.Order.Field.Basic
import Mathlib.Data.Nat.Cast.Order.Field
import Mathlib.Data.Rat.Cast.Order
import Mathlib.Tactic.FieldSimp
import Mathlib.Tactic.GCongr
import Mathlib.Tactic.Linarith
import Mathlib.Tactic.NormNum
import Mathlib.Tactic.Positivity
import StartupGate.Number.Binary64

set_option autoImplicit false

namespace StartupGate.Binary64

/-- The size of a finite double as a number; what is not finite counts as zero. -/
def size : Binary64 → ℚ
  | .finite _ units => units / unitsPerOne
  | _ => 0

/-- What one rounding multiplies by at most. -/
def slack : ℚ := 1 + 1 / 2 ^ 53

/-- Half of the least unit. -/
def halfUnit : ℚ := 1 / (2 * unitsPerOne)

theorem unitsPerOne_pos : 0 < unitsPerOne := by decide +kernel

theorem cast_unitsPerOne_pos : (0 : ℚ) < unitsPerOne := Nat.cast_pos.mpr unitsPerOne_pos

theorem halfUnit_le : halfUnit ≤ 1 / 2 ^ 100 := by
  have large : 2 ^ 99 ≤ unitsPerOne := by decide +kernel
  have cast : (2 : ℚ) ^ 99 ≤ unitsPerOne := by exact_mod_cast large
  rw [halfUnit]
  refine one_div_le_one_div_of_le (by positivity) ?_
  linarith

-- so that no tactic computes them
attribute [local irreducible] unitsPerOne unitsOverflow

theorem size_nonneg (x : Binary64) : 0 ≤ x.size := by
  cases x with
  | finite negative units => exact div_nonneg (Nat.cast_nonneg _) cast_unitsPerOne_pos.le
  | nan => exact le_refl 0
  | infinite negative => exact le_refl 0

theorem size_zero (negative : Bool) : (finite negative 0).size = 0 := by
  rw [size, Nat.cast_zero, zero_div]

/-- A double of a size above zero has units. -/
theorem units_pos {negative : Bool} {units : Nat} (positive : 0 < (finite negative units).size) :
    0 < units := by
  refine Nat.pos_of_ne_zero ?_
  rintro rfl
  rw [size_zero] at positive
  exact lt_irrefl 0 positive

theorem slack_pos : 0 < slack := by norm_num [slack]

theorem halfUnit_pos : 0 < halfUnit := by
  have positive := cast_unitsPerOne_pos
  rw [halfUnit]
  positivity

/-! ## Rounding -/

/-- A quotient rounded to a whole number is at most a half above it. -/
theorem divTiesEven_mul_le (n d : Nat) : 2 * (divTiesEven n d * d) ≤ 2 * n + d := by
  have parts : d * (n / d) + n % d = n := Nat.div_add_mod n d
  have exact : n / d * d = d * (n / d) := Nat.mul_comm _ _
  rw [divTiesEven]
  split
  · next up =>
      have half : d ≤ 2 * (n % d) := by omega
      rw [Nat.add_mul, Nat.one_mul]
      omega
  · omega

/-- Doubles are a unit apart, or by at most one part in `2 ^ 52`. -/
theorem spacing_eq_or_mul_le (q : Nat) : spacing q = 1 ∨ spacing q * 2 ^ 52 ≤ q := by
  rcases Nat.le_total (Nat.log2 q) 52 with small | large
  · left
    rw [spacing, Nat.sub_eq_zero_of_le small, Nat.pow_eq, Nat.pow_zero]
  · right
    have nonzero : q ≠ 0 := by
      rintro rfl
      exact absurd large (by decide)
    calc spacing q * 2 ^ 52 = 2 ^ (Nat.log2 q - 52) * 2 ^ 52 := rfl
      _ = 2 ^ Nat.log2 q := by rw [← Nat.pow_add, Nat.sub_add_cancel large]
      _ ≤ q := Nat.log2_self_le nonzero

/-- **What one rounding adds.** -/
theorem roundUnits_le (n : Nat) {d : Nat} (positive : 0 < d) :
    (roundUnits n d : ℚ) ≤ slack * (n / d) + 1 / 2 := by
  have dPos : (0 : ℚ) < d := by exact_mod_cast positive
  have nearest : (roundUnits n d : ℚ) ≤ n / d + spacing (n / d) / 2 := by
    have bound := divTiesEven_mul_le n (d * spacing (n / d))
    have cast : 2 * ((divTiesEven n (d * spacing (n / d)) : ℚ) * (d * spacing (n / d))) ≤
        2 * n + d * spacing (n / d) := by exact_mod_cast bound
    rw [roundUnits, Nat.cast_mul, div_add' _ _ _ dPos.ne', le_div_iff₀ dPos]
    linarith
  have exact : (0 : ℚ) ≤ n / d := div_nonneg (Nat.cast_nonneg n) dPos.le
  rw [slack]
  rcases spacing_eq_or_mul_le (n / d) with unit | fine
  · rw [unit, Nat.cast_one] at nearest
    have relative : (0 : ℚ) ≤ 1 / 2 ^ 53 * (n / d) := by positivity
    linarith
  · have whole : ((n / d : Nat) : ℚ) ≤ n / d := Nat.cast_div_le
    have apart : (spacing (n / d) : ℚ) * 2 ^ 52 ≤ (n / d : Nat) := by exact_mod_cast fine
    linarith

/-! ## Operations -/

theorem size_ofQuotient_le (negative : Bool) (n : Nat) {d : Nat} (positive : 0 < d) :
    (ofQuotient negative n d).size ≤ slack * (n / (d * unitsPerOne)) + halfUnit := by
  have unit := cast_unitsPerOne_pos
  have dPos : (0 : ℚ) < d := by exact_mod_cast positive
  rw [ofQuotient]
  split
  · calc (roundUnits n d : ℚ) / unitsPerOne
        ≤ (slack * (n / d) + 1 / 2) / unitsPerOne :=
          div_le_div_of_nonneg_right (roundUnits_le n positive) unit.le
      _ = slack * (n / (d * unitsPerOne)) + halfUnit := by
          rw [halfUnit]
          field_simp
  · have := slack_pos
    have := halfUnit_pos
    show (0 : ℚ) ≤ _
    positivity

theorem size_mul_le (x y : Binary64) : (x.mul y).size ≤ slack * (x.size * y.size) + halfUnit := by
  have unit := cast_unitsPerOne_pos
  have trivially : (0 : ℚ) ≤ slack * (x.size * y.size) + halfUnit :=
    add_nonneg (mul_nonneg slack_pos.le (mul_nonneg x.size_nonneg y.size_nonneg)) halfUnit_pos.le
  fun_cases mul x y
  case case8 s u t v =>
    refine (size_ofQuotient_le _ _ unitsPerOne_pos).trans_eq ?_
    simp only [size, Nat.cast_mul]
    field_simp
  all_goals exact trivially

theorem size_addSizes_le (x y : Binary64) :
    (x.addSizes y).size ≤ slack * (x.size + y.size) + halfUnit := by
  have unit := cast_unitsPerOne_pos
  have trivially : (0 : ℚ) ≤ slack * (x.size + y.size) + halfUnit :=
    add_nonneg (mul_nonneg slack_pos.le (add_nonneg x.size_nonneg y.size_nonneg)) halfUnit_pos.le
  fun_cases addSizes x y
  case case5 s u t v =>
    refine (size_ofQuotient_le _ _ Nat.one_pos).trans_eq ?_
    simp only [size, Nat.cast_add, Nat.cast_one]
    field_simp
  all_goals exact trivially

theorem size_div_le (x y : Binary64) : (x.div y).size ≤ slack * (x.size / y.size) + halfUnit := by
  have unit := cast_unitsPerOne_pos
  have trivially : (0 : ℚ) ≤ slack * (x.size / y.size) + halfUnit :=
    add_nonneg (mul_nonneg slack_pos.le (div_nonneg x.size_nonneg y.size_nonneg)) halfUnit_pos.le
  fun_cases div x y
  case case8 s u t v nonzero =>
    refine (size_ofQuotient_le _ _ (Nat.pos_of_ne_zero nonzero)).trans_eq ?_
    simp only [size, Nat.cast_mul]
    field_simp
  case case5 s u t =>
    have zero : (finite (s != t) 0).size = 0 := by rw [size, Nat.cast_zero, zero_div]
    exact zero.trans_le trivially
  all_goals exact trivially

theorem size_ofNat_le (n : Nat) : (ofNat n).size ≤ slack * n + halfUnit := by
  have unit := cast_unitsPerOne_pos
  refine (size_ofQuotient_le _ _ Nat.one_pos).trans_eq ?_
  rw [Nat.cast_mul, Nat.cast_one, one_mul, mul_div_cancel_right₀ _ unit.ne']

end StartupGate.Binary64

/-
# StartupGate.Proofs.Number.Deviation -- decimals that are scaled by whole numbers

A decimal is rounded once when it is read, and once more each time it is multiplied or divided by a whole
number, but for powers of two, which pass through (`Deviates.mul_pow`).  Each rounding is off by one part in
`2 ^ 53` at most, so a few of them leave no doubt which whole number is meant
(`Deviates.round_eq`).  This counts finer than `Near`, which allows twice as much for each rounding.
-/
import StartupGate.Proofs.Number.Closeness

set_option autoImplicit false

namespace StartupGate.Binary64

variable {v : ℚ} {c d e k n u : Nat} {x : Binary64}

-- so that no tactic computes them
attribute [local irreducible] unitsPerOne unitsOverflow

/-- What `k` roundings are off by at most, as a part of the exact number. -/
def deviation (k : Nat) : ℚ := (1 + 1 / 2 ^ 53) ^ k - 1

theorem deviation_zero : deviation 0 = 0 := by rw [deviation, pow_zero, sub_self]

theorem deviation_succ (k : Nat) :
    deviation (k + 1) = deviation k + (1 + deviation k) / 2 ^ 53 := by
  rw [deviation, deviation, pow_succ]
  ring

theorem deviation_nonneg (k : Nat) : 0 ≤ deviation k :=
  sub_nonneg.mpr (one_le_pow₀ (by norm_num))

theorem deviation_le_half (few : k ≤ 64) : deviation k ≤ 1 / 2 := by
  have slower : (1 + 1 / 2 ^ 53 : ℚ) ^ k ≤ fullSlack ^ k :=
    pow_le_pow_left₀ (by norm_num) (by norm_num [fullSlack]) k
  have bound := fullSlack_pow_le (few.trans (by norm_num : 64 ≤ 2 ^ 31))
  rw [deviation]
  linarith

/-- The value is a double that is off a number by `k` roundings. -/
structure Deviates (k : Nat) (x : Binary64) (v : ℚ) : Prop where
  rounded : x.IsRounded
  unsigned : x.Unsigned
  off : |x.size - v| ≤ deviation k * v

theorem Deviates.succ (deviates : Deviates k x v) (nonneg : 0 ≤ v) : Deviates (k + 1) x v := by
  refine ⟨deviates.rounded, deviates.unsigned, deviates.off.trans (mul_le_mul_of_nonneg_right ?_ nonneg)⟩
  have more := deviation_nonneg k
  rw [deviation_succ]
  linarith

/-- A whole number that is a double is itself. -/
theorem deviates_ofNat (few : n ≤ 2 ^ 53) : Deviates 0 (ofNat n) n := by
  have rounded : (ofNat n).IsRounded := isRounded_ofQuotient false _ Nat.one_pos
  rw [ofNat_eq few] at rounded ⊢
  refine ⟨rounded, ⟨_, rfl⟩, ?_⟩
  rw [size_finite_mul_unitsPerOne, sub_self, abs_zero, deviation_zero, zero_mul]

/-- Rounding a quotient that is off a number by `k` roundings adds one. -/
theorem deviates_ofQuotient (positive : 0 < d)
    (off : |(n / (d * unitsPerOne) : ℚ) - v| ≤ deviation k * v) (few : k ≤ 64)
    (regular : Regular v) : Deviates (k + 1) (ofQuotient false n d) v := by
  have scale : (0 : ℚ) < d * unitsPerOne :=
    mul_pos (by exact_mod_cast positive) cast_unitsPerOne_pos
  have rounded := isRounded_ofQuotient false n positive
  obtain ⟨above, below⟩ := abs_sub_le_iff.mp off
  rcases regular with rfl | ⟨least, most⟩
  · have none : n = 0 := by
      rw [mul_zero, sub_zero, div_le_iff₀ scale, zero_mul] at above
      exact_mod_cast le_antisymm above (Nat.cast_nonneg n)
    rw [none, ofQuotient_zero positive] at rounded ⊢
    exact ⟨rounded, ⟨0, rfl⟩, by rw [size_zero, sub_zero, mul_zero, abs_zero]⟩
  · have half : deviation k * v ≤ 1 / 2 * v :=
      mul_le_mul_of_nonneg_right (deviation_le_half few) (by linarith)
    obtain ⟨u, finite, once⟩ :=
      abs_size_ofQuotient_sub_le (n := n) false positive (by linarith) (by linarith)
    rw [finite] at rounded ⊢
    refine ⟨rounded, ⟨u, rfl⟩, ?_⟩
    calc |(Binary64.finite false u).size - v|
        ≤ |(Binary64.finite false u).size - n / (d * unitsPerOne)| +
            |(n / (d * unitsPerOne) : ℚ) - v| := abs_sub_le _ _ _
      _ ≤ (1 + deviation k) * v / 2 ^ 53 + deviation k * v := by linarith
      _ = deviation (k + 1) * v := by rw [deviation_succ]; ring

/-! ## Scaling -/

theorem mul_ofNat_eq (u : Nat) (fits : c ≤ 2 ^ 53) :
    (finite false u).mul (ofNat c) = ofQuotient false (u * (c * unitsPerOne)) unitsPerOne := by
  rw [ofNat_eq fits, mul, Bool.false_bne]

theorem div_ofNat_eq (u : Nat) (fits : c ≤ 2 ^ 53) (positive : 0 < c) :
    (finite false u).div (ofNat c) = ofQuotient false (u * unitsPerOne) (c * unitsPerOne) := by
  rw [ofNat_eq fits, div, if_neg (Nat.mul_pos positive unitsPerOne_pos).ne', Bool.false_bne]

namespace Deviates

/-- **Multiplying by a whole number** adds one rounding. -/
theorem mul_ofNat (deviates : Deviates k x v) (few : k ≤ 64) (fits : c ≤ 2 ^ 53)
    (regular : Regular (v * c)) : Deviates (k + 1) (x.mul (ofNat c)) (v * c) := by
  obtain ⟨-, ⟨u, rfl⟩, off⟩ := deviates
  have unit := cast_unitsPerOne_pos
  rw [mul_ofNat_eq u fits]
  refine deviates_ofQuotient unitsPerOne_pos ?_ few regular
  have product : ((u * (c * unitsPerOne) : Nat) / (unitsPerOne * unitsPerOne) : ℚ) =
      (finite false u).size * c := by
    simp only [size, Nat.cast_mul]
    field_simp
  rw [product, ← sub_mul, abs_mul, Nat.abs_cast, ← mul_assoc]
  exact mul_le_mul_of_nonneg_right off (Nat.cast_nonneg c)

/-- **Dividing by a whole number** adds one rounding. -/
theorem div_ofNat (deviates : Deviates k x v) (few : k ≤ 64) (fits : c ≤ 2 ^ 53) (positive : 0 < c)
    (regular : Regular (v / c)) : Deviates (k + 1) (x.div (ofNat c)) (v / c) := by
  obtain ⟨-, ⟨u, rfl⟩, off⟩ := deviates
  have unit := cast_unitsPerOne_pos
  have cPos : (0 : ℚ) < c := by exact_mod_cast positive
  rw [div_ofNat_eq u fits positive]
  refine deviates_ofQuotient (Nat.mul_pos positive unitsPerOne_pos) ?_ few regular
  have quotient : ((u * unitsPerOne : Nat) / ((c * unitsPerOne : Nat) * unitsPerOne) : ℚ) =
      (finite false u).size / c := by
    simp only [size, Nat.cast_mul]
    field_simp
  rw [quotient, ← sub_div, abs_div, Nat.abs_cast, ← mul_div_assoc]
  exact div_le_div_of_nonneg_right off cPos.le

/-- **Multiplying by a power of two** adds none. -/
theorem mul_pow (deviates : Deviates k x v) (few : k ≤ 64) (fits : e ≤ 53)
    (regular : Regular (v * (2 ^ e : Nat))) :
    Deviates k (x.mul (ofNat (2 ^ e))) (v * (2 ^ e : Nat)) := by
  obtain ⟨rounded, ⟨u, rfl⟩, off⟩ := deviates
  obtain ⟨isDouble, -⟩ := rounded
  have power : (0 : ℚ) < (2 ^ e : Nat) := by exact_mod_cast Nat.two_pow_pos e
  have scaled : |(finite false (u * 2 ^ e)).size - v * (2 ^ e : Nat)| ≤ deviation k * (v * (2 ^ e : Nat)) := by
    have product : (finite false (u * 2 ^ e)).size = (finite false u).size * (2 ^ e : Nat) := by
      rw [size, size, Nat.cast_mul, mul_div_right_comm]
    rw [product, ← sub_mul, abs_mul, Nat.abs_cast, ← mul_assoc]
    exact mul_le_mul_of_nonneg_right off power.le
  have small : u * 2 ^ e < unitsOverflow := by
    have overflow := pow_le_sizeOverflow
    have bound : (finite false (u * 2 ^ e)).size < sizeOverflow := by
      obtain ⟨above, -⟩ := abs_sub_le_iff.mp scaled
      have half := mul_le_mul_of_nonneg_right (deviation_le_half few) regular.nonneg
      have most := regular.le
      linarith
    rw [size, sizeOverflow, div_lt_div_iff_of_pos_right cast_unitsPerOne_pos] at bound
    exact_mod_cast bound
  have exact : (finite false u).mul (ofNat (2 ^ e)) = finite false (u * 2 ^ e) := by
    rw [mul_ofNat_eq u (Nat.pow_le_pow_right Nat.two_pos fits), ← Nat.mul_assoc, ofQuotient,
      (isDouble.mul_pow e).roundUnits_eq unitsPerOne_pos]
    exact if_pos small
  rw [exact]
  exact ⟨⟨isDouble.mul_pow e, small⟩, ⟨_, rfl⟩, scaled⟩

/-- **A number of few deviations is rounded to what it stands for**, if that is a whole number. -/
theorem round_eq (deviates : Deviates k x n) (less : deviation k * n < 1 / 2) :
    x.round = .finite false (n * unitsPerOne) := by
  obtain ⟨-, ⟨u, rfl⟩, off⟩ := deviates
  have unit := cast_unitsPerOne_pos
  obtain ⟨above, below⟩ := abs_sub_lt_iff.mp (off.trans_lt less)
  have most : 2 * u < (2 * n + 1) * unitsPerOne := by
    rw [← size_lt_half_iff]
    linarith
  have least : n * (2 * unitsPerOne) ≤ 2 * u + unitsPerOne := by
    rw [size, sub_lt_iff_lt_add, ← sub_lt_iff_lt_add', lt_div_iff₀ unit] at below
    have cast : (n * (2 * unitsPerOne) : ℚ) ≤ 2 * u + unitsPerOne := by linarith
    exact_mod_cast cast
  have whole : (2 * u + unitsPerOne) / (2 * unitsPerOne) = n := by
    refine Nat.div_eq_of_lt_le least ?_
    calc 2 * u + unitsPerOne < (2 * n + 1) * unitsPerOne + unitsPerOne := Nat.add_lt_add_right most _
      _ = (n + 1) * (2 * unitsPerOne) := by ring
  rw [Binary64.round, whole]

end Deviates

end StartupGate.Binary64

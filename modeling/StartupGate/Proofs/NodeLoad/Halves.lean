/-
# StartupGate.Proofs.NodeLoad.Halves -- which halves are not rounded up

A load of exactly `k` and a half percent has to count as `k + 1`.  The percentage takes the hundredth of
the half first, which is no double, and multiplies it by a hundred.  Where the hundredth was
rounded down by enough, the product stays below the half and the load counts as `k`: the half is
lost (`HalfLost`).  It depends only on the 53 binary digits of the half, through their remainder
modulo 25 (`units_lt_half_iff`).

* `percent_exact_but_for_lost_halves`: for amounts of 32 bits the percentage is the exact one, a
  half upward, but for the lost halves, where it is one less; the verdict differs exactly for a
  threshold that is the whole part of a lost half.
* `half_lost`: 57 of 200.
-/
import StartupGate.Proofs.NodeLoad.Percent

set_option autoImplicit false

namespace StartupGate.NodeLoad

open Binary64

variable {used capacity threshold h k n : Nat}

-- so that no tactic computes them
attribute [local irreducible] unitsPerOne unitsOverflow

/-! ## A hundred times the hundredth -/

/-- A twenty-fifth rounded to a whole number: there are no ties. -/
theorem twentyFive_mul_divTiesEven (n : Nat) :
    25 * divTiesEven n 25 = if n % 25 ≤ 12 then n - n % 25 else n + (25 - n % 25) := by
  rw [divTiesEven]
  split <;> split <;> omega

/-- A hundred steps of the hundredth are `100 / 64` steps of the half here: one that was rounded down by
more than 8 parts of 25 is not rounded back. -/
theorem lost_iff_of_coarse (coarse : 25 * 2 ^ 52 ≤ 16 * h) (most : h < 2 ^ 53) (even : h % 2 = 0) :
    roundUnits (100 * roundUnits (256 * h) 200) 1 < 128 * h ↔
      9 ≤ 16 * h % 25 ∧ 16 * h % 25 ≤ 12 := by
  have parts : 256 * h = 16 * h * 16 := by omega
  have first : roundUnits (256 * h) 200 = divTiesEven (16 * h * 16) (25 * 16) * 2 := by
    rw [← parts]
    exact roundUnits_eq (s := 1) (by omega) (by omega) (by omega)
  rw [first, divTiesEven_mul_mul _ (by omega) (by omega)]
  have quotient := twentyFive_mul_divTiesEven (16 * h)
  generalize divTiesEven (16 * h) 25 = m at *
  have bounds : 25 * 2 ^ 52 - 12 ≤ 25 * m ∧ 25 * m < 2 ^ 57 := by split at quotient <;> omega
  have parts' : 100 * (m * 2) = 25 * m * 8 := by omega
  have second : roundUnits (100 * (m * 2)) 1 = divTiesEven (25 * m * 8) (16 * 8) * 128 := by
    rw [← parts']
    exact roundUnits_eq (s := 7) Nat.one_pos (by omega) (by omega)
  rw [second, divTiesEven_mul_mul _ (by omega) (by omega), quotient, divTiesEven]
  have rest : 16 * h % 25 < 25 := Nat.mod_lt _ (by omega)
  generalize 16 * h % 25 = r at *
  split <;> split <;> omega

/-- A hundred steps of the hundredth are `100 / 128` steps of the half here, so it is always rounded
back. -/
theorem kept_of_fine (fine : 16 * h < 25 * 2 ^ 52) (least : 2 ^ 52 ≤ h) (even : h % 2 = 0) :
    128 * h ≤ roundUnits (100 * roundUnits (256 * h) 200) 1 := by
  have parts : 256 * h = 32 * h * 8 := by omega
  have first : roundUnits (256 * h) 200 = divTiesEven (32 * h * 8) (25 * 8) := by
    rw [← parts]
    exact (roundUnits_eq (s := 0) (by omega) (by omega) (by omega)).trans (Nat.mul_one _)
  rw [first, divTiesEven_mul_mul _ (by omega) (by omega)]
  have quotient := twentyFive_mul_divTiesEven (32 * h)
  generalize divTiesEven (32 * h) 25 = m at *
  by_cases short : 25 * m < 32 * h
  · -- not at a power of two, whose hundredth is rounded up
    have bounds : 2 ^ 57 ≤ 25 * m ∧ 32 * h ≤ 25 * m + 12 := by split at quotient <;> omega
    have parts' : 100 * m = 25 * m * 4 := by omega
    have second : roundUnits (100 * m) 1 = divTiesEven (25 * m * 4) (32 * 4) * 128 := by
      rw [← parts']
      exact roundUnits_eq (s := 7) Nat.one_pos (by omega) (by omega)
    rw [second, divTiesEven_mul_mul _ (by omega) (by omega), divTiesEven]
    generalize 25 * m = product at *
    split <;> omega
  · have isDouble : IsDouble (128 * h) := by
      rw [Nat.mul_comm]
      exact isDouble_mul_pow (by omega) 7
    exact isDouble.le_roundUnits Nat.one_pos (by omega)

/-! ## Halves -/

/-- A number with 53 binary digits in front of the point. -/
def significand (n : Nat) : Nat := n * 2 ^ (52 - n.log2)

/-- `k` and a half is lost: a hundred steps of its hundredth are more than one and a half of its own steps,
and the hundredth is rounded down by 9 to 12 parts of 25. -/
def HalfLost (k : Nat) : Prop :=
  25 * 2 ^ 52 ≤ 16 * significand (2 * k + 1) ∧
    9 ≤ 16 * significand (2 * k + 1) % 25 ∧ 16 * significand (2 * k + 1) % 25 ≤ 12

instance (k : Nat) : Decidable (HalfLost k) :=
  inferInstanceAs (Decidable (_ ∧ _ ∧ _))

theorem significand_mul_pow (small : n < 2 ^ 52) : significand n * 2 ^ n.log2 = n * 2 ^ 52 := by
  have digits : n.log2 ≤ 52 := by
    rcases Nat.eq_zero_or_pos n with rfl | positive
    · exact Nat.zero_le _
    · exact ((Nat.log2_lt positive.ne').mpr small).le
  rw [significand, Nat.mul_assoc, ← Nat.pow_add, Nat.sub_add_cancel digits]

theorem significand_bounds (positive : 0 < n) (small : n < 2 ^ 52) :
    2 ^ 52 ≤ significand n ∧ significand n < 2 ^ 53 ∧ significand n % 2 = 0 := by
  have power : 0 < 2 ^ n.log2 := Nat.two_pow_pos _
  have product := significand_mul_pow small
  refine ⟨?_, ?_, ?_⟩
  · refine Nat.le_of_mul_le_mul_right ?_ power
    rw [product, Nat.mul_comm]
    exact Nat.mul_le_mul_right _ (Nat.log2_self_le positive.ne')
  · refine Nat.lt_of_mul_lt_mul_right (a := 2 ^ n.log2) ?_
    calc significand n * 2 ^ n.log2 = n * 2 ^ 52 := product
      _ < 2 ^ (n.log2 + 1) * 2 ^ 52 := Nat.mul_lt_mul_of_pos_right Nat.lt_log2_self (by norm_num)
      _ = 2 ^ 53 * 2 ^ n.log2 := by ring
  · have digits : n.log2 < 52 := (Nat.log2_lt positive.ne').mpr small
    have even : 2 ∣ 2 ^ (52 - n.log2) := Nat.pow_dvd_pow 2 (by omega : 1 ≤ 52 - n.log2)
    exact Nat.mod_eq_zero_of_dvd (Nat.dvd_mul_left_of_dvd even n)

/-- The two cases together, for the digits of a half. -/
theorem lost_iff (small : 2 * k + 1 < 2 ^ 52) :
    roundUnits (100 * roundUnits (256 * significand (2 * k + 1)) 200) 1 <
      128 * significand (2 * k + 1) ↔ HalfLost k := by
  obtain ⟨least, most, even⟩ := significand_bounds (Nat.succ_pos _) small
  rw [HalfLost]
  rcases Nat.lt_or_ge (16 * significand (2 * k + 1)) (25 * 2 ^ 52) with fine | coarse
  · have kept := kept_of_fine fine least even
    omega
  · rw [lost_iff_of_coarse coarse most even]
    exact (and_iff_right coarse).symm

/-! ## Loads of exactly a half -/

/-- A half in units is its significand times a power of two. -/
theorem exists_mul_unitsPerOne (small : n < 2 ^ 52) :
    ∃ s, n * unitsPerOne = 256 * significand n * 2 ^ s := by
  obtain ⟨e, unit⟩ := exists_unitsPerOne_eq_mul (s := 60) (by norm_num)
  refine ⟨n.log2 + e, ?_⟩
  calc n * unitsPerOne = n * 2 ^ 52 * (256 * 2 ^ e) := by rw [unit]; ring
    _ = significand n * 2 ^ n.log2 * (256 * 2 ^ e) := by rw [significand_mul_pow small]
    _ = 256 * significand n * 2 ^ (n.log2 + e) := by ring

/-- A hundred times the hundredth of a half, against the half. -/
theorem units_lt_half_iff (small : 2 * k + 1 < 2 ^ 52) :
    2 * roundUnits (100 * roundUnits ((2 * k + 1) * unitsPerOne) 200) 1 < (2 * k + 1) * unitsPerOne ↔
      HalfLost k := by
  obtain ⟨s, units⟩ := exists_mul_unitsPerOne small
  obtain ⟨least, -, -⟩ := significand_bounds (Nat.succ_pos _) small
  rw [← lost_iff small, units]
  generalize significand (2 * k + 1) = h at *
  have large : 2 ^ 52 * 200 ≤ 256 * h := by omega
  have large' : 2 ^ 52 * 1 ≤ 100 * roundUnits (256 * h) 200 := by
    have quotient := pow_le_roundUnits (m := 52) (by omega) large
    omega
  have power : 0 < 2 ^ s := Nat.two_pow_pos s
  rw [roundUnits_mul_pow (by omega) large, ← Nat.mul_assoc, roundUnits_mul_pow Nat.one_pos large',
    ← Nat.mul_assoc, Nat.mul_lt_mul_right power]
  omega

theorem half_lt_of_tie (few : used < 2 ^ 32) (positive : 0 < capacity)
    (tie : 200 * used = (2 * k + 1) * capacity) : 2 * k + 1 < 2 ^ 40 := by
  have product : 2 * k + 1 ≤ (2 * k + 1) * capacity := Nat.le_mul_of_pos_right _ positive
  omega

theorem exactPercent_eq_of_tie (positive : 0 < capacity)
    (tie : 200 * used = (2 * k + 1) * capacity) : exactPercent used capacity = k + 1 := by
  have above : ¬ exactPercent used capacity ≤ k := by
    rw [exactPercent_le_iff positive]
    omega
  have below : exactPercent used capacity ≤ k + 1 := by
    rw [exactPercent_le_iff positive, tie]
    exact Nat.mul_lt_mul_of_pos_right (by omega) positive
  omega

section Tie

variable (few : used < 2 ^ 32) (positive : 0 < capacity) (few' : capacity < 2 ^ 32)
  (tie : 200 * used = (2 * k + 1) * capacity)

include few positive few' tie

/-- The percentage in double precision depends only on the half. -/
theorem share_eq_of_tie : share used capacity =
    .finite false (roundUnits (100 * roundUnits ((2 * k + 1) * unitsPerOne) 200) 1) := by
  have unit := unitsPerOne_pos
  have quotient := near_quotient (near_ofNat_of_few (few.le.trans (by norm_num)))
    (near_ofNat_of_few (few'.le.trans (by norm_num))) (by omega) (few.trans (by norm_num)) positive
    (few'.trans (by norm_num))
  obtain ⟨unsigned, -⟩ := close_share_of_few few positive few'
  have nonzero : capacity * unitsPerOne ≠ 0 := (Nat.mul_pos positive unit).ne'
  have divided : (ofNat used).div (ofNat capacity) =
      .finite false (roundUnits ((2 * k + 1) * unitsPerOne) 200) := by
    have rounded := quotient.unsigned
    rw [ofNat_eq (few.le.trans (by norm_num)), ofNat_eq (few'.le.trans (by norm_num)), Binary64.div,
      if_neg nonzero] at rounded ⊢
    refine (ofQuotient_eq_of_unsigned rounded).trans (congrArg _ ?_)
    refine roundUnits_congr (Nat.pos_of_ne_zero nonzero) (by omega) ?_
    calc used * unitsPerOne * unitsPerOne * 200 = 200 * used * (unitsPerOne * unitsPerOne) := by ring
      _ = (2 * k + 1) * capacity * (unitsPerOne * unitsPerOne) := by rw [tie]
      _ = (2 * k + 1) * unitsPerOne * (capacity * unitsPerOne) := by ring
  rw [share, divided, ofNat_eq (by norm_num)] at unsigned ⊢
  refine (ofQuotient_eq_of_unsigned unsigned).trans (congrArg _ ?_)
  exact roundUnits_congr unit Nat.one_pos (by ring)

/-- **A load of exactly a half is rounded up unless the half is lost.** -/
theorem percent_le_iff_halfLost : percent used capacity ≤ k ↔ HalfLost k := by
  have small := half_lt_of_tie few positive tie
  have large : 2 ^ 40 ≤ Integer.maxUnsigned64 := by decide
  obtain ⟨unsigned, -⟩ := close_share_of_few few positive few'
  rw [percent_le_iff unsigned positive (by omega), share_eq_of_tie few positive few' tie,
    size_lt_half_iff]
  exact units_lt_half_iff (by omega)

end Tie

/-! ## All loads -/

section Few

variable (few : used < 2 ^ 32) (positive : 0 < capacity) (few' : capacity < 2 ^ 32)

include few positive few'

theorem percent_le_iff_of_few (small : k < 2 ^ 40) : percent used capacity ≤ k ↔
    exactPercent used capacity ≤ k ∨ 200 * used = (2 * k + 1) * capacity ∧ HalfLost k := by
  by_cases tie : 200 * used = (2 * k + 1) * capacity
  · have next := exactPercent_eq_of_tie positive tie
    rw [percent_le_iff_halfLost few positive few' tie, and_iff_right tie, or_iff_right (by omega)]
  · have large : 2 ^ 40 ≤ Integer.maxUnsigned64 := by decide
    rw [percent_le_iff_exactPercent_le few positive few' (by omega) tie,
      or_iff_left fun lost => tie lost.1]

theorem percent_eq_of_kept
    (kept : ∀ k, 200 * used = (2 * k + 1) * capacity → ¬ HalfLost k) :
    percent used capacity = exactPercent used capacity := by
  have small : exactPercent used capacity ≤ 2 ^ 40 - 1 := by
    rw [exactPercent_le_iff positive]
    omega
  have atMost : percent used capacity ≤ exactPercent used capacity :=
    (percent_le_iff_of_few few positive few' (by omega)).mpr (.inl (Nat.le_refl _))
  refine Nat.le_antisymm atMost (Nat.le_of_not_lt fun less => ?_)
  rcases (percent_le_iff_of_few few positive few' (by omega)).mp (Nat.le_refl _) with below | ⟨tie, lost⟩
  · omega
  · exact kept _ tie lost

theorem percent_eq_of_lost (tie : 200 * used = (2 * k + 1) * capacity) (lost : HalfLost k) :
    percent used capacity = k := by
  have atMost := (percent_le_iff_halfLost few positive few' tie).mpr lost
  have next := exactPercent_eq_of_tie positive tie
  have small := half_lt_of_tie few positive tie
  refine Nat.le_antisymm atMost (Nat.le_of_not_lt fun less => ?_)
  rcases (percent_le_iff_of_few few positive few' (by omega)).mp (Nat.le_refl _) with below | ⟨tie', -⟩
  · omega
  · have same := Nat.eq_of_mul_eq_mul_right positive (tie.symm.trans tie')
    omega

end Few

/-- **The percentage is the exact one, a half upward, but for the lost halves.**  There it is one less,
and a threshold equal to it is passed by a load above it. -/
theorem percent_exact_but_for_lost_halves (few : used < 2 ^ 32) (positive : 1 ≤ capacity)
    (few' : capacity < 2 ^ 32) :
    (exactPercent used capacity : ℤ) = round (100 * used / capacity : ℚ) ∧
      (percent used capacity = exactPercent used capacity ↔
        ∀ k, 200 * used = (2 * k + 1) * capacity → ¬ HalfLost k) ∧
      (∀ k, 200 * used = (2 * k + 1) * capacity → HalfLost k →
        percent used capacity = k ∧ exactPercent used capacity = k + 1) ∧
      ∀ threshold < 256, within used capacity threshold = true ↔
        exactPercent used capacity ≤ threshold ∨
          200 * used = (2 * threshold + 1) * capacity ∧ HalfLost threshold := by
  refine ⟨exactPercent_eq_round used positive, ⟨?_, percent_eq_of_kept few positive few'⟩, ?_, ?_⟩
  · intro exact k tie lost
    have less := percent_eq_of_lost few positive few' tie lost
    have next := exactPercent_eq_of_tie positive tie
    omega
  · intro k tie lost
    exact ⟨percent_eq_of_lost few positive few' tie lost, exactPercent_eq_of_tie positive tie⟩
  · intro threshold byte
    rw [within, decide_eq_true_iff]
    exact percent_le_iff_of_few few positive few' (by omega)

/-- Half a percent is kept, and 28 and a half percent is lost. -/
theorem percent_exact_but_for_lost_halves_small :
    (5 < 2 ^ 32 ∧ 1 ≤ 1000 ∧ 1000 < 2 ^ 32 ∧ percent 5 1000 = 1) ∧
      57 < 2 ^ 32 ∧ 1 ≤ 200 ∧ 200 < 2 ^ 32 ∧ percent 57 200 = 28 ∧ within 57 200 28 = true := by
  have kept := @percent_exact_but_for_lost_halves 5 1000 (by norm_num) (by norm_num) (by norm_num)
  have lost := @percent_exact_but_for_lost_halves 57 200 (by norm_num) (by norm_num) (by norm_num)
  refine ⟨⟨by norm_num, by norm_num, by norm_num, ?_⟩, by norm_num, by norm_num, by norm_num, ?_, ?_⟩
  · refine kept.2.1.mpr fun k tie => ?_
    obtain rfl : k = 0 := by omega
    decide
  · exact (lost.2.2.1 28 (by norm_num) (by decide)).1
  · exact (lost.2.2.2 28 (by norm_num)).mpr (.inr ⟨by norm_num, by decide⟩)

/-- **57 of 200 is 28 and a half percent, but counts as 28.** -/
theorem half_lost : percent 57 200 = 28 ∧ exactPercent 57 200 = 29 ∧
    within 57 200 28 = true ∧ ¬ exactPercent 57 200 ≤ 28 := by
  decide +kernel

/-- The lost halves up to the largest threshold. -/
example : (List.range 256).filter HalfLost =
    [14, 28, 56, 57, 100, 101, 102, 103, 125, 126, 127, 213, 215, 217, 219, 238, 240, 242, 244] := by
  decide +kernel

end StartupGate.NodeLoad

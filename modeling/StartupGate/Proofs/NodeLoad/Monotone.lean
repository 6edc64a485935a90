/-
# StartupGate.Proofs.NodeLoad.Monotone -- more usage or less capacity is never less load

Every step from the two amounts to the percentage keeps their order: the conversions, the quotient, the
product with a hundred, and the rounding to a whole number.  A node without capacity has the
largest percentage there is.

* `percent_mono`: for all amounts of 64 bits, and what it says about thresholds.
-/
import StartupGate.Proofs.NodeLoad.Percent

set_option autoImplicit false

namespace StartupGate.NodeLoad

open Binary64

variable {used used' capacity capacity' : Nat}

-- so that no tactic computes them
attribute [local irreducible] unitsPerOne unitsOverflow

/-- A node without capacity has the largest percentage. -/
theorem percent_le_of_zero (used used' capacity : Nat) : percent used capacity ≤ percent used' 0 := by
  rw [percent]
  split
  · exact Nat.le_refl _
  · exact toNatSaturating_le _ _

section Words

variable (word : used' < 2 ^ 64) (word' : capacity < 2 ^ 64) (more : used ≤ used')
  (less : capacity' ≤ capacity) (positive : 0 < capacity')

include word word' more less positive

/-- The percentages before they are made whole are in order. -/
theorem share_mono : AtMost (share used capacity) (share used' capacity') := by
  have wordUsed : used < 2 ^ 64 := Nat.lt_of_le_of_lt more word
  have wordCapacity : capacity' < 2 ^ 64 := Nat.lt_of_le_of_lt less word'
  have positive' : 0 < capacity := Nat.lt_of_lt_of_le positive less
  obtain ⟨unsigned, -⟩ := close_share_of_words wordUsed positive' word'
  obtain ⟨unsigned', -⟩ := close_share_of_words word positive wordCapacity
  have least : 0 < (ofNat capacity').size :=
    (near_ofNat wordCapacity).close.pos (by exact_mod_cast positive)
  have quotients : AtMost ((ofNat used).div (ofNat capacity)) ((ofNat used').div (ofNat capacity')) :=
    (ofNat_mono more).div (ofNat_mono less) (near_ofNat word).unsigned (near_ofNat word').unsigned least
  exact quotients.mul (ofNat_mono (Nat.le_refl 100)) unsigned.ne_nan unsigned'.ne_nan

theorem percent_le_of_pos : percent used capacity ≤ percent used' capacity' := by
  have positive' : 0 < capacity := Nat.lt_of_lt_of_le positive less
  rw [percent, percent, if_neg positive.ne', if_neg positive'.ne']
  exact (share_mono word word' more less positive).round.toNatSaturating_le_toNatSaturating _

end Words

/-- **The percentage grows with the usage and shrinks with the capacity**, over all amounts of 64 bits, and
it is the largest of all where there is no capacity.  So a load that is within a threshold stays within it,
and within any larger one, if the usage gets less or the capacity more. -/
theorem percent_mono (word : used' < 2 ^ 64) (word' : capacity < 2 ^ 64) (more : used ≤ used')
    (less : capacity' ≤ capacity) :
    percent used capacity ≤ percent used' capacity' ∧
      (capacity' = 0 → percent used' capacity' = 2 ^ 64 - 1) ∧
      ∀ threshold threshold' : Nat, threshold' ≤ threshold →
        within used' capacity' threshold' = true → within used capacity threshold = true := by
  have order : percent used capacity ≤ percent used' capacity' := by
    rcases Nat.eq_zero_or_pos capacity' with rfl | positive
    · exact percent_le_of_zero used used' capacity
    · exact percent_le_of_pos word word' more less positive
  refine ⟨order, ?_, fun threshold threshold' larger inside => ?_⟩
  · rintro rfl
    rfl
  · rw [within, decide_eq_true_iff] at inside ⊢
    exact order.trans (inside.trans larger)

/-- Amounts that are no doubles: a quarter of `2 ^ 62`, with one more in use, is within 25 percent, so less of
the largest capacity is within 80. -/
theorem percent_mono_large :
    2 ^ 60 + 1 < 2 ^ 64 ∧ 2 ^ 64 - 1 < 2 ^ 64 ∧ 2 ^ 53 + 1 ≤ 2 ^ 60 + 1 ∧ 2 ^ 62 ≤ 2 ^ 64 - 1 ∧
      within (2 ^ 60 + 1) (2 ^ 62) 25 = true ∧ within (2 ^ 53 + 1) (2 ^ 64 - 1) 80 = true := by
  have inside : within (2 ^ 60 + 1) (2 ^ 62) 25 = true := by decide +kernel
  obtain ⟨-, -, thresholds⟩ := @percent_mono (2 ^ 53 + 1) (2 ^ 60 + 1) (2 ^ 64 - 1) (2 ^ 62)
    (by norm_num) (by norm_num) (by norm_num) (by norm_num)
  exact ⟨by norm_num, by norm_num, by norm_num, by norm_num, inside,
    thresholds 80 25 (by norm_num) inside⟩

end StartupGate.NodeLoad

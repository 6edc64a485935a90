/-
# StartupGate.Proofs.NodeLoad.Percent -- the percentage against the exact one

The percentage is rounded four times in double precision, or twice where the amounts are doubles
themselves, and then to a whole number.  This last step jumps at each half and shows nothing of the
others elsewhere (`percent_le_iff`).  So the question is how near to a half a load has to be for them
to matter.

* `within_eq_true`, `within_eq_false`: for amounts of 64 bits a load up to the threshold passes and one
  from the next percent on does not.
* `percent_le_iff_exactPercent_le`: for amounts of 32 bits the percentage is that of the exact
  quotient, unless the quotient is exactly a half.
-/
import Mathlib.Algebra.Order.Round
import Mathlib.Data.Rat.Floor
import StartupGate.NodeLoad
import StartupGate.Proofs.Number.Closeness

set_option autoImplicit false

namespace StartupGate.NodeLoad

variable {used capacity threshold i j k : Nat}

/-! ## The exact percentage -/

/-- The percentage of the exact quotient, to the nearest whole one, a half upward. -/
def exactPercent (used capacity : Nat) : Nat := (200 * used + capacity) / (2 * capacity)

theorem exactPercent_eq_round (used : Nat) (positive : 0 < capacity) :
    (exactPercent used capacity : ℤ) = round (100 * used / capacity : ℚ) := by
  have nonzero : (capacity : ℚ) ≠ 0 := Nat.cast_ne_zero.mpr positive.ne'
  have quotient : (100 * used / capacity + 1 / 2 : ℚ) =
      ((200 * used + capacity : Nat) : ℚ) / ((2 * capacity : Nat) : ℚ) := by
    push_cast
    field_simp
    ring
  rw [round_eq, quotient, Rat.floor_natCast_div_natCast, exactPercent, Int.natCast_div]

theorem exactPercent_le_iff (positive : 0 < capacity) :
    exactPercent used capacity ≤ k ↔ 200 * used < (2 * k + 1) * capacity := by
  have parts : (k + 1) * (2 * capacity) = (2 * k + 1) * capacity + capacity := by ring
  rw [exactPercent, ← Nat.lt_succ_iff, Nat.div_lt_iff_lt_mul (Nat.mul_pos Nat.two_pos positive), parts]
  omega

/-! ## The percentage before it is made whole -/

open Binary64

/-- The percentage in double precision. -/
def share (used capacity : Nat) : Binary64 :=
  ((ofNat used).div (ofNat capacity)).mul (ofNat 100)

/-- **The percentage exceeds a whole number from the next half on.** -/
theorem percent_le_iff (unsigned : (share used capacity).Unsigned) (positive : 0 < capacity)
    (small : k < Integer.maxUnsigned64) :
    percent used capacity ≤ k ↔ (share used capacity).size < k + 1 / 2 := by
  obtain ⟨u, shared⟩ := unsigned
  have made : percent used capacity =
      min ((2 * u + unitsPerOne) / (2 * unitsPerOne)) Integer.maxUnsigned64 := by
    have defined : percent used capacity =
        (share used capacity).round.toNatSaturating Integer.maxUnsigned64 := if_neg positive.ne'
    rw [defined, shared, Binary64.round, toNatSaturating, if_neg Bool.false_ne_true,
      Nat.mul_div_cancel _ unitsPerOne_pos]
  have parts : (k + 1) * (2 * unitsPerOne) = (2 * k + 1) * unitsPerOne + unitsPerOne := by ring
  rw [shared, size_lt_half_iff, made, min_le_iff, or_iff_left small.not_ge, ← Nat.lt_succ_iff,
    Nat.div_lt_iff_lt_mul (Nat.mul_pos Nat.two_pos unitsPerOne_pos), parts]
  omega

section Roundings

variable (left : Near i (ofNat used) used) (right : Near j (ofNat capacity) capacity)
  (few : i + j ≤ 60) (word : used < 2 ^ 64) (positive : 0 < capacity) (word' : capacity < 2 ^ 64)

include left right few word positive word'

theorem near_quotient :
    Near (i + j + 1) ((ofNat used).div (ofNat capacity)) (used / capacity) :=
  left.div right (by omega) (by exact_mod_cast positive)
    (regular_div positive (word.le.trans (by norm_num)) (word'.le.trans (by norm_num)))

/-- Two roundings more than those of the amounts. -/
theorem close_share : (share used capacity).Unsigned ∧
    Close (i + j + 2) ((share used capacity).size * capacity) (100 * used) := by
  have cPos : (0 : ℚ) < capacity := by exact_mod_cast positive
  have percentage : (used / capacity * (100 : Nat) : ℚ) = (100 * used : Nat) / capacity := by
    push_cast
    ring
  have product := (near_quotient left right few word positive word').mul
    (near_ofNat_of_few (n := 100) (by norm_num)) (by omega)
    (percentage ▸ regular_div positive (by omega) (word'.le.trans (by norm_num)))
  have scaled := product.close.mul (Close.refl (capacity : ℚ)) (size_nonneg _) cPos.le
  have value : (used / capacity * (100 : Nat) * capacity : ℚ) = 100 * used := by
    rw [percentage, div_mul_cancel₀ _ cPos.ne']
    push_cast
    ring
  rw [value] at scaled
  exact ⟨product.unsigned, scaled⟩

end Roundings

/-! ## Amounts of 64 bits -/

section Words

variable (word : used < 2 ^ 64) (positive : 0 < capacity) (word' : capacity < 2 ^ 64)
  (byte : threshold < 256)

include word positive word'

/-- Both amounts are rounded, their quotient, and its product with a hundred. -/
theorem close_share_of_words :
    (share used capacity).Unsigned ∧ Close 4 ((share used capacity).size * capacity) (100 * used) :=
  close_share (near_ofNat word) (near_ofNat word') (by omega) word positive word'

include byte

theorem within_iff_of_words :
    within used capacity threshold = true ↔ (share used capacity).size < threshold + 1 / 2 := by
  obtain ⟨unsigned, -⟩ := close_share_of_words word positive word'
  rw [within, decide_eq_true_iff]
  exact percent_le_iff unsigned positive (byte.trans (by decide))

/-- **A load up to the threshold passes.** -/
theorem within_eq_true (load : 100 * used ≤ threshold * capacity) :
    within used capacity threshold = true := by
  rw [within_iff_of_words word positive word' byte]
  obtain ⟨-, close⟩ := close_share_of_words word positive word'
  have cPos : (0 : ℚ) < capacity := by exact_mod_cast positive
  have loadQ : (100 * used : ℚ) ≤ threshold * capacity := by exact_mod_cast load
  have byteQ : (threshold : ℚ) < 256 := by exact_mod_cast byte
  refine lt_of_mul_lt_mul_right ?_ cPos.le
  calc (share used capacity).size * capacity ≤ fullSlack ^ 4 * (100 * used) := close.le
    _ ≤ (1 + 1 / 2 ^ 20) * (threshold * capacity) :=
      mul_le_mul (fullSlack_pow_le (by norm_num)) loadQ (by positivity) (by norm_num)
    _ < (threshold + 1 / 2) * capacity := by
      have product := mul_lt_mul_of_pos_right byteQ cPos
      linarith

/-- **A load of the next percent or more does not pass.** -/
theorem within_eq_false (load : (threshold + 1) * capacity ≤ 100 * used) :
    within used capacity threshold = false := by
  rw [← Bool.not_eq_true, within_iff_of_words word positive word' byte]
  intro below
  obtain ⟨-, close⟩ := close_share_of_words word positive word'
  have cPos : (0 : ℚ) < capacity := by exact_mod_cast positive
  have loadQ : (threshold + 1 : ℚ) * capacity ≤ 100 * used := by exact_mod_cast load
  have byteQ : (threshold : ℚ) < 256 := by exact_mod_cast byte
  have nearer : (threshold + 1 : ℚ) * capacity < (threshold + 1) * capacity := by
    calc (threshold + 1 : ℚ) * capacity ≤ 100 * used := loadQ
      _ ≤ fullSlack ^ 4 * ((share used capacity).size * capacity) := close.ge
      _ ≤ (1 + 1 / 2 ^ 20) * ((threshold + 1 / 2) * capacity) :=
        mul_le_mul (fullSlack_pow_le (by norm_num)) (mul_le_mul_of_nonneg_right below.le cPos.le)
          (mul_nonneg (size_nonneg _) cPos.le) (by norm_num)
      _ < (threshold + 1) * capacity := by
        have product := mul_lt_mul_of_pos_right byteQ cPos
        linarith
  exact lt_irrefl _ nearer

end Words

/-! ## Amounts of 32 bits -/

section HalfWords

variable (few : used < 2 ^ 32) (positive : 0 < capacity) (few' : capacity < 2 ^ 32)

include few positive few'

theorem close_share_of_few :
    (share used capacity).Unsigned ∧ Close 2 ((share used capacity).size * capacity) (100 * used) :=
  close_share (near_ofNat_of_few (few.le.trans (by norm_num)))
    (near_ofNat_of_few (few'.le.trans (by norm_num))) (by omega) (few.trans (by norm_num)) positive
    (few'.trans (by norm_num))

/-- **Off the halves the percentage is the exact one.** -/
theorem percent_le_iff_exactPercent_le (small : k < Integer.maxUnsigned64)
    (off : 200 * used ≠ (2 * k + 1) * capacity) :
    percent used capacity ≤ k ↔ exactPercent used capacity ≤ k := by
  obtain ⟨unsigned, close⟩ := close_share_of_few few positive few'
  have cPos : (0 : ℚ) < capacity := by exact_mod_cast positive
  have fewQ : (used : ℚ) < 2 ^ 32 := by exact_mod_cast few
  have fine : fullSlack ^ 2 ≤ 1 + 1 / 2 ^ 50 := by norm_num [fullSlack]
  rw [percent_le_iff unsigned positive small, exactPercent_le_iff positive]
  constructor
  · intro below
    by_contra notBelow
    have above : (2 * k + 1) * capacity + 1 ≤ 200 * used := by omega
    have aboveQ : ((2 * k + 1) * capacity + 1 : ℚ) ≤ 200 * used := by exact_mod_cast above
    have bound : (100 * used : ℚ) ≤ (1 + 1 / 2 ^ 50) * ((k + 1 / 2) * capacity) :=
      close.ge.trans (mul_le_mul fine (mul_le_mul_of_nonneg_right below.le cPos.le)
        (mul_nonneg (size_nonneg _) cPos.le) (by norm_num))
    linarith
  · intro below
    have belowQ : (200 * used + 1 : ℚ) ≤ (2 * k + 1) * capacity := by exact_mod_cast below
    have bound : (share used capacity).size * capacity ≤ (1 + 1 / 2 ^ 50) * (100 * used) :=
      close.le.trans (mul_le_mul_of_nonneg_right fine (by positivity))
    refine lt_of_mul_lt_mul_right ?_ cPos.le
    linarith

end HalfWords

end StartupGate.NodeLoad

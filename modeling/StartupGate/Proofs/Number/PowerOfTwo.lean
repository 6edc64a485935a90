/-
# StartupGate.Proofs.Number.PowerOfTwo -- products that are not rounded

A whole number of up to 53 binary digits, with any number of zeros after them, is a double as it
stands (`IsExact`): the double nearest to it is the number itself or, from `2 ^ 1024` on, an infinity.  A
product that is such a number is the exact one, and a factor that overflows stands for a product that
does (`IsExact.ofNat_mul_ofNat`).

So powers of powers of two are exact (`powi_two_pow`): all that repeated squaring comes by is a power
of two, with an infinity for the large ones.
-/
import StartupGate.Proofs.Number.Closeness

set_option autoImplicit false

namespace StartupGate.Binary64

variable {base acc result : Binary64} {a b d i j k n : Nat}

-- so that no tactic computes them
attribute [local irreducible] unitsPerOne unitsOverflow

/-! ## Whole numbers -/

/-- No rounding changes the whole number. -/
def IsExact (n : Nat) : Prop := IsDouble (n * unitsPerOne)

/-- Up to 53 binary digits and any number of zeros after them are exact. -/
theorem isExact_mul_pow (few : k ≤ 2 ^ 53) (e : Nat) : IsExact (k * 2 ^ e) := by
  rw [IsExact, Nat.mul_right_comm]
  exact (isDouble_whole few).mul_pow e

theorem isExact_of_few (few : n ≤ 2 ^ 53) : IsExact n := isDouble_whole few

theorem isExact_two_pow (e : Nat) : IsExact (2 ^ e) := by
  have exact := isExact_mul_pow (Nat.one_le_two_pow (n := 53)) e
  rwa [Nat.one_mul] at exact

namespace IsExact

/-- The quotient that is the whole number is rounded to it, or to an infinity if it is too large. -/
theorem ofQuotient_eq (exact : IsExact n) (positive : 0 < d) :
    ofQuotient false (n * unitsPerOne * d) d =
      if n * unitsPerOne < unitsOverflow then .finite false (n * unitsPerOne) else .infinite false := by
  rw [ofQuotient, IsDouble.roundUnits_eq exact positive]

theorem ofNat_eq (exact : IsExact n) : ofNat n =
    if n * unitsPerOne < unitsOverflow then .finite false (n * unitsPerOne) else .infinite false := by
  have quotient := exact.ofQuotient_eq Nat.one_pos
  rwa [Nat.mul_one] at quotient

theorem ofNat_eq_infinite (exact : IsExact n) (large : unitsOverflow ≤ n * unitsPerOne) :
    ofNat n = .infinite false := by
  rw [exact.ofNat_eq, if_neg (Nat.not_lt.mpr large)]

/-- **An exact product is not rounded.**  If a factor overflows, so does the product. -/
theorem ofNat_mul_ofNat (left : IsExact a) (right : IsExact b) (product : IsExact (a * b))
    (positive : 0 < a) (positive' : 0 < b) : (ofNat a).mul (ofNat b) = ofNat (a * b) := by
  have more : a * unitsPerOne ≤ a * b * unitsPerOne :=
    Nat.mul_le_mul_right _ (Nat.le_mul_of_pos_right a positive')
  have more' : b * unitsPerOne ≤ a * b * unitsPerOne :=
    Nat.mul_le_mul_right _ (Nat.le_mul_of_pos_left b positive)
  have nonzero : a * unitsPerOne ≠ 0 := (Nat.mul_pos positive unitsPerOne_pos).ne'
  have nonzero' : b * unitsPerOne ≠ 0 := (Nat.mul_pos positive' unitsPerOne_pos).ne'
  rcases Nat.lt_or_ge (a * unitsPerOne) unitsOverflow with finite | overflow
  · rcases Nat.lt_or_ge (b * unitsPerOne) unitsOverflow with finite' | overflow'
    · have scaled : a * unitsPerOne * (b * unitsPerOne) = a * b * unitsPerOne * unitsPerOne := by ring
      rw [left.ofNat_eq, if_pos finite, right.ofNat_eq, if_pos finite', mul, Bool.false_bne, scaled,
        product.ofQuotient_eq unitsPerOne_pos, product.ofNat_eq]
    · rw [left.ofNat_eq, if_pos finite, right.ofNat_eq_infinite overflow', mul, if_neg nonzero,
        product.ofNat_eq_infinite (overflow'.trans more'), Bool.false_bne]
  · rw [left.ofNat_eq_infinite overflow, product.ofNat_eq_infinite (overflow.trans more), right.ofNat_eq]
    split
    · rw [mul, if_neg nonzero', Bool.false_bne]
    · rw [mul, Bool.false_bne]

end IsExact

/-! ## Powers of two -/

theorem ofNat_two_pow_mul (i j : Nat) : (ofNat (2 ^ i)).mul (ofNat (2 ^ j)) = ofNat (2 ^ (i + j)) := by
  have product : IsExact (2 ^ i * 2 ^ j) := by
    rw [← Nat.pow_add]
    exact isExact_two_pow (i + j)
  rw [(isExact_two_pow i).ofNat_mul_ofNat (isExact_two_pow j) product (Nat.two_pow_pos i) (Nat.two_pow_pos j),
    Nat.pow_add]

/-- **Repeated squaring of a power of two is exact**, with an overflow of the squares or of what is
gathered from them as well. -/
theorem Squares.ofNat_two_pow (course : Squares base acc n result) (left : base = ofNat (2 ^ i))
    (right : acc = ofNat (2 ^ j)) : result = ofNat (2 ^ (j + i * n)) := by
  -- the base is squared as the exponent is halved, so what is asked for stays the same
  induction course generalizing i j with
  | zero => exact right
  | one => rw [left, right, ofNat_two_pow_mul, Nat.mul_one]
  | @even base acc result n _ _ ih =>
      have square : base.mul base = ofNat (2 ^ (i + i)) := by rw [left, ofNat_two_pow_mul]
      have exponent : j + i * (2 * n) = j + (i + i) * n := by ring
      rw [exponent]
      exact ih square right
  | @odd base acc result n _ _ ih =>
      have square : base.mul base = ofNat (2 ^ (i + i)) := by rw [left, ofNat_two_pow_mul]
      have gathered : acc.mul base = ofNat (2 ^ (j + i)) := by rw [left, right, ofNat_two_pow_mul]
      have exponent : j + i * (2 * n + 1) = j + i + (i + i) * n := by ring
      rw [exponent]
      exact ih square gathered

theorem one_eq_ofNat : one = ofNat (2 ^ 0) := by
  rw [Nat.pow_zero, Binary64.ofNat_eq (Nat.one_le_two_pow), Nat.one_mul, one]

/-- **A power of a power of two is the exact one**, or an infinity if that is `2 ^ 1024` or more. -/
theorem powi_two_pow (i n : Nat) : (ofNat (2 ^ i)).powi n = ofNat (2 ^ (i * n)) := by
  have power := (squares_powi (ofNat (2 ^ i)) n).ofNat_two_pow rfl one_eq_ofNat
  rwa [Nat.zero_add] at power

end StartupGate.Binary64

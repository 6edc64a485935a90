/-
# StartupGate.Proofs.Number.Power -- whole powers by repeated squaring

Powers of a double that is one or more, from below and from above.

* `Squares`: the course of repeated squaring as a relation, with one case for each step.
* From below (`AtLeast`), powers of two are exact: what is at least `2 ^ m` is so after rounding, and an
  overflow is more than any of them.  So a power is at least what it should be
  (`Squares.atLeast`).
* From above (`Within`), a product is too large by the factor `fullSlack` at most, and there is at most one
  product for each factor of the power (`Squares.within`).  If the power is small enough, nothing on
  the way to it overflows.
-/
import Mathlib.Algebra.Order.Ring.Pow
import Mathlib.Tactic.Ring
import StartupGate.Proofs.Number.Rounding

set_option autoImplicit false

namespace StartupGate.Binary64

variable {x y base acc : Binary64} {a b : ℚ} {n d i j m : Nat}

theorem exists_unitsPerOne : ∃ e, unitsPerOne = 2 ^ e := by
  unfold unitsPerOne
  generalize 1074 = e
  exact ⟨e, rfl⟩

/-- One is divisible by all but the largest powers of two. -/
theorem exists_unitsPerOne_eq_mul {s : Nat} (small : s ≤ 1074) :
    ∃ e, unitsPerOne = 2 ^ s * 2 ^ e := by
  unfold unitsPerOne
  generalize 1074 = total at *
  obtain ⟨e, rfl⟩ := Nat.exists_eq_add_of_le small
  exact ⟨e, Nat.pow_add 2 s e⟩

/-- The size from which on doubles overflow. -/
def sizeOverflow : ℚ := unitsOverflow / unitsPerOne

theorem pow_le_sizeOverflow : (2 : ℚ) ^ 200 ≤ sizeOverflow := by
  have large : 2 ^ 200 * unitsPerOne ≤ unitsOverflow := by decide +kernel
  rw [sizeOverflow, le_div_iff₀ cast_unitsPerOne_pos]
  exact_mod_cast large

-- so that no tactic computes them
attribute [local irreducible] unitsPerOne unitsOverflow

/-! ## Repeated squaring -/

/-- The course of repeated squaring: `Squares base acc n result` if `result` is what becomes of the product
of `acc` with the `n`-th power of `base`. -/
inductive Squares : Binary64 → Binary64 → Nat → Binary64 → Prop
  | zero {base acc : Binary64} : Squares base acc 0 acc
  | one {base acc : Binary64} : Squares base acc 1 (acc.mul base)
  | even {base acc result : Binary64} {n : Nat} : n ≠ 0 → Squares (base.mul base) acc n result →
      Squares base acc (2 * n) result
  | odd {base acc result : Binary64} {n : Nat} : n ≠ 0 →
      Squares (base.mul base) (acc.mul base) n result → Squares base acc (2 * n + 1) result

theorem squares_powLoop (base acc : Binary64) (n : Nat) : Squares base acc n (powLoop base acc n) := by
  induction n using Nat.strongRecOn generalizing base acc with
  | ind n ih =>
      rw [powLoop]
      have halves : 2 * (n / 2) + n % 2 = n := Nat.div_add_mod n 2
      have smaller : n / 2 ≠ 0 → n / 2 < n := by omega
      by_cases odd : n % 2 = 1
      · rw [if_pos odd]
        rw [odd] at halves
        split
        · next done =>
            obtain rfl : 1 = n := by rw [← halves, done]
            exact .one
        · next more =>
            have course := Squares.odd more (ih (n / 2) (smaller more) (base.mul base) (acc.mul base))
            rw [halves] at course
            exact course
      · have even : n % 2 = 0 := by omega
        rw [if_neg odd]
        rw [even, Nat.add_zero] at halves
        split
        · next done =>
            obtain rfl : 0 = n := by rw [← halves, done]
            exact .zero
        · next more =>
            have course := Squares.even more (ih (n / 2) (smaller more) (base.mul base) acc)
            rw [halves] at course
            exact course

/-! ## Signs -/

/-- The sign; what is not a number has none. -/
def isNegative : Binary64 → Bool
  | .nan => false
  | .infinite negative => negative
  | .finite negative _ => negative

@[simp] theorem isNegative_nan : nan.isNegative = false := rfl

@[simp] theorem isNegative_infinite (negative : Bool) : (infinite negative).isNegative = negative := rfl

@[simp] theorem isNegative_finite (negative : Bool) (units : Nat) :
    (finite negative units).isNegative = negative := rfl

@[simp] theorem isNegative_ofQuotient (negative : Bool) (n d : Nat) :
    (ofQuotient negative n d).isNegative = negative := by
  rw [ofQuotient]
  split <;> rfl

theorem isNegative_mul (left : x.isNegative = false) (right : y.isNegative = false) :
    (x.mul y).isNegative = false := by
  fun_cases mul x y
  all_goals simp_all

theorem isNegative_div (left : x.isNegative = false) (right : y.isNegative = false) :
    (x.div y).isNegative = false := by
  fun_cases div x y
  all_goals simp_all

theorem isNegative_addSizes (x y : Binary64) : (x.addSizes y).isNegative = false := by
  fun_cases addSizes x y
  all_goals simp_all

theorem Squares.isNegative {result : Binary64} (course : Squares base acc n result)
    (left : base.isNegative = false) (right : acc.isNegative = false) :
    result.isNegative = false := by
  induction course with
  | zero => exact right
  | one => exact isNegative_mul right left
  | even _ _ ih => exact ih (isNegative_mul left left) right
  | odd _ _ ih => exact ih (isNegative_mul left left) (isNegative_mul right left)

/-! ## From below -/

/-- A quotient of at least a power of two is rounded to no less. -/
theorem pow_le_roundUnits (positive : 0 < d) (large : 2 ^ m * d ≤ n) : 2 ^ m ≤ roundUnits n d := by
  have quotient : 2 ^ m ≤ n / d := (Nat.le_div_iff_mul_le positive).mpr large
  have nonzero : n / d ≠ 0 := Nat.pos_iff_ne_zero.mp (Nat.lt_of_lt_of_le (Nat.two_pow_pos m) quotient)
  have leading : m ≤ (n / d).log2 := (Nat.le_log2 nonzero).mpr quotient
  have whole : n / d / spacing (n / d) * spacing (n / d) ≤ roundUnits n d := by
    refine Nat.mul_le_mul_right _ ?_
    rw [divTiesEven, Nat.div_div_eq_div_mul]
    split
    · exact Nat.le_succ _
    · exact Nat.le_refl _
  refine Nat.le_trans ?_ whole
  rcases Nat.le_total (n / d).log2 52 with small | large
  · rw [spacing, Nat.sub_eq_zero_of_le small]
    simpa using quotient
  · have parts : 2 ^ 52 * spacing (n / d) = 2 ^ (n / d).log2 := by
      rw [spacing, Nat.pow_eq, ← Nat.pow_add, Nat.add_sub_cancel' large]
    have digits : 2 ^ 52 ≤ n / d / spacing (n / d) :=
      (Nat.le_div_iff_mul_le (Nat.pow_pos Nat.two_pos)).mpr (parts ▸ Nat.log2_self_le nonzero)
    calc 2 ^ m ≤ 2 ^ (n / d).log2 := Nat.pow_le_pow_right Nat.two_pos leading
      _ = 2 ^ 52 * spacing (n / d) := parts.symm
      _ ≤ n / d / spacing (n / d) * spacing (n / d) := Nat.mul_le_mul_right _ digits

/-- The double is `2 ^ m` or more; an overflow is more. -/
def AtLeast (m : Nat) (x : Binary64) : Prop :=
  x = .infinite false ∨ ∃ u, x = .finite false u ∧ 2 ^ m * unitsPerOne ≤ u

theorem atLeast_ofQuotient (positive : 0 < d) (large : 2 ^ m * unitsPerOne * d ≤ n) :
    AtLeast m (ofQuotient false n d) := by
  have units : 2 ^ m * unitsPerOne ≤ roundUnits n d := by
    obtain ⟨e, unit⟩ := exists_unitsPerOne
    rw [unit, ← Nat.pow_add] at large ⊢
    exact pow_le_roundUnits positive large
  rw [ofQuotient]
  split
  · exact .inr ⟨_, rfl, units⟩
  · exact .inl rfl

theorem atLeast_one : AtLeast 0 one := .inr ⟨_, rfl, (Nat.one_mul _).le⟩

theorem atLeast_ofNat (large : 2 ^ m ≤ n) : AtLeast m (ofNat n) :=
  atLeast_ofQuotient Nat.one_pos (by rw [Nat.mul_one]; exact Nat.mul_le_mul_right _ large)

theorem AtLeast.mul (left : AtLeast i x) (right : AtLeast j y) : AtLeast (i + j) (x.mul y) := by
  have positive : ∀ {k u : Nat}, 2 ^ k * unitsPerOne ≤ u → u ≠ 0 := fun large =>
    Nat.pos_iff_ne_zero.mp
      (Nat.lt_of_lt_of_le (Nat.mul_pos (Nat.two_pow_pos _) unitsPerOne_pos) large)
  rcases left with rfl | ⟨u, rfl, atLeast⟩
  · rcases right with rfl | ⟨v, rfl, atLeast'⟩
    · exact .inl rfl
    · exact .inl (if_neg (positive atLeast'))
  · rcases right with rfl | ⟨v, rfl, atLeast'⟩
    · exact .inl (if_neg (positive atLeast))
    · refine atLeast_ofQuotient unitsPerOne_pos ?_
      calc 2 ^ (i + j) * unitsPerOne * unitsPerOne
          = 2 ^ i * unitsPerOne * (2 ^ j * unitsPerOne) := by rw [Nat.pow_add]; ring
        _ ≤ u * v := Nat.mul_le_mul atLeast atLeast'

theorem ofQuotient_ne_nan (negative : Bool) (n d : Nat) : ofQuotient negative n d ≠ .nan := by
  intro undefined
  rw [ofQuotient] at undefined
  split at undefined <;> cases undefined

theorem div_ne_nan {negative : Bool} {v : Nat} (number : x ≠ .nan) (nonzero : v ≠ 0) :
    x.div (.finite negative v) ≠ .nan := by
  cases x with
  | nan => exact absurd rfl number
  | infinite negative =>
      intro undefined
      cases undefined
  | finite negative u =>
      rw [div, if_neg nonzero]
      exact ofQuotient_ne_nan _ _ _

/-- A sum of sizes is at least each of them. -/
theorem AtLeast.addSizes (left : AtLeast m x) (number : y ≠ .nan) : AtLeast m (x.addSizes y) := by
  rcases left with rfl | ⟨u, rfl, atLeast⟩
  · cases y with
    | nan => exact absurd rfl number
    | infinite negative => exact .inl rfl
    | finite negative v => exact .inl rfl
  · cases y with
    | nan => exact absurd rfl number
    | infinite negative => exact .inl rfl
    | finite negative v =>
        refine atLeast_ofQuotient Nat.one_pos ?_
        rw [Nat.mul_one]
        exact Nat.le_trans atLeast (Nat.le_add_right _ _)

/-- **A power is at least what it should be.** -/
theorem Squares.atLeast {result : Binary64} (course : Squares base acc n result)
    (left : AtLeast i base) (right : AtLeast j acc) : AtLeast (j + i * n) result := by
  induction course generalizing i j with
  | zero => exact right
  | one =>
      rw [Nat.mul_one]
      exact right.mul left
  | @even base acc result n _ _ ih =>
      have exponent : j + i * (2 * n) = j + (i + i) * n := by ring
      rw [exponent]
      exact ih (left.mul left) right
  | @odd base acc result n _ _ ih =>
      have exponent : j + i * (2 * n + 1) = j + i + (i + i) * n := by ring
      rw [exponent]
      exact ih (left.mul left) (right.mul left)

/-! ## From above -/

/-- What one rounding multiplies by at most if the result is one or more. -/
def fullSlack : ℚ := 1 + 1 / 2 ^ 52

theorem one_le_fullSlack : 1 ≤ fullSlack := by norm_num [fullSlack]

theorem slack_mul_add_le {s : ℚ} (large : 1 ≤ s) : slack * s + halfUnit ≤ fullSlack * s := by
  have half := halfUnit_le
  rw [slack, fullSlack]
  linarith

/-- Many roundings together multiply by hardly anything. -/
theorem fullSlack_pow_le (few : n ≤ 2 ^ 31) : fullSlack ^ n ≤ 1 + 1 / 2 ^ 20 := by
  have count : (n : ℚ) ≤ 2 ^ 31 := by exact_mod_cast few
  have power : 0 ≤ fullSlack ^ n := pow_nonneg (zero_le_one.trans one_le_fullSlack) n
  have cancels : fullSlack ^ n * (1 - 1 / 2 ^ 52) ^ n ≤ 1 := by
    rw [← mul_pow]
    exact pow_le_one₀ (by norm_num [fullSlack]) (by norm_num [fullSlack])
  have bernoulli : 1 + (n : ℚ) * (-(1 / 2 ^ 52)) ≤ (1 + -(1 / 2 ^ 52)) ^ n :=
    one_add_mul_le_pow (by norm_num) n
  have below : fullSlack ^ n * (1 - 1 / 2 ^ 21) ≤ 1 := by
    refine (mul_le_mul_of_nonneg_left ?_ power).trans cancels
    rw [sub_eq_add_neg]
    linarith
  linarith

/-- A quotient below the overflow is rounded to a finite double. -/
theorem ofQuotient_eq_finite (negative : Bool) (positive : 0 < d)
    (small : slack * (n / (d * unitsPerOne)) + halfUnit < sizeOverflow) :
    ofQuotient negative n d = .finite negative (roundUnits n d) := by
  have unit := cast_unitsPerOne_pos
  have dPos : (0 : ℚ) < d := by exact_mod_cast positive
  have scaled : slack * (n / d) + 1 / 2 < unitsOverflow := by
    have product := mul_lt_mul_of_pos_right small unit
    have left : (slack * (n / (d * unitsPerOne)) + halfUnit) * unitsPerOne = slack * (n / d) + 1 / 2 := by
      rw [halfUnit]
      field_simp
    rw [left, sizeOverflow, div_mul_cancel₀ _ unit.ne'] at product
    exact product
  have below : roundUnits n d < unitsOverflow := by
    exact_mod_cast (roundUnits_le n positive).trans_lt scaled
  rw [ofQuotient]
  exact if_pos below

/-- The double is finite and has no minus. -/
def Unsigned (x : Binary64) : Prop := ∃ u, x = .finite false u

theorem Unsigned.ne_nan (unsigned : x.Unsigned) : x ≠ .nan := by
  obtain ⟨u, rfl⟩ := unsigned
  exact Binary64.noConfusion

theorem unsigned_ofNat (small : slack * n + halfUnit < sizeOverflow) : (ofNat n).Unsigned := by
  refine ⟨_, ofQuotient_eq_finite _ Nat.one_pos (lt_of_eq_of_lt ?_ small)⟩
  have unit := cast_unitsPerOne_pos
  rw [Nat.cast_mul, Nat.cast_one, one_mul, mul_div_cancel_right₀ _ unit.ne']

theorem Unsigned.mul (left : x.Unsigned) (right : y.Unsigned)
    (small : slack * (x.size * y.size) + halfUnit < sizeOverflow) : (x.mul y).Unsigned := by
  obtain ⟨u, rfl⟩ := left
  obtain ⟨v, rfl⟩ := right
  refine ⟨_, ofQuotient_eq_finite _ unitsPerOne_pos (lt_of_eq_of_lt ?_ small)⟩
  have unit := cast_unitsPerOne_pos
  simp only [size, Nat.cast_mul]
  field_simp

theorem Unsigned.div (left : x.Unsigned) (right : y.Unsigned) (positive : 0 < y.size)
    (small : slack * (x.size / y.size) + halfUnit < sizeOverflow) : (x.div y).Unsigned := by
  obtain ⟨u, rfl⟩ := left
  obtain ⟨v, rfl⟩ := right
  have nonzero : v ≠ 0 := (units_pos positive).ne'
  rw [Binary64.div, if_neg nonzero]
  refine ⟨_, ofQuotient_eq_finite _ (Nat.pos_of_ne_zero nonzero) (lt_of_eq_of_lt ?_ small)⟩
  have unit := cast_unitsPerOne_pos
  simp only [size, Nat.cast_mul]
  field_simp

theorem Unsigned.addSizes (left : x.Unsigned) (right : y.Unsigned)
    (small : slack * (x.size + y.size) + halfUnit < sizeOverflow) : (x.addSizes y).Unsigned := by
  obtain ⟨u, rfl⟩ := left
  obtain ⟨v, rfl⟩ := right
  refine ⟨_, ofQuotient_eq_finite _ Nat.one_pos (lt_of_eq_of_lt ?_ small)⟩
  have unit := cast_unitsPerOne_pos
  simp only [size, Nat.cast_add, Nat.cast_one]
  field_simp

/-- The double lies between one and a bound, and it does not overflow. -/
structure Within (x : Binary64) (most : ℚ) : Prop where
  unsigned : x.Unsigned
  atLeast : AtLeast 0 x
  size_le : x.size ≤ most

theorem one_le_size {negative : Bool} {u : Nat} (large : unitsPerOne ≤ u) :
    1 ≤ (finite negative u).size :=
  (one_le_div cast_unitsPerOne_pos).mpr (Nat.cast_le.mpr large)

theorem Within.one_le_size (within : Within x a) : 1 ≤ x.size := by
  obtain ⟨u, rfl⟩ := within.unsigned
  rcases within.atLeast with overflow | ⟨_, same, large⟩
  · cases overflow
  · cases same
    rw [pow_zero, one_mul] at large
    exact Binary64.one_le_size large

theorem Within.one_le (within : Within x a) : 1 ≤ a := within.one_le_size.trans within.size_le

theorem size_one : one.size = 1 := div_self cast_unitsPerOne_pos.ne'

theorem within_one : Within one 1 := ⟨⟨_, rfl⟩, atLeast_one, size_one.le⟩

theorem Within.mul (left : Within x a) (right : Within y b)
    (small : fullSlack * (a * b) < sizeOverflow) : Within (x.mul y) (fullSlack * (a * b)) := by
  have exact : x.size * y.size ≤ a * b :=
    mul_le_mul left.size_le right.size_le y.size_nonneg (zero_le_one.trans left.one_le)
  have large : 1 ≤ x.size * y.size := one_le_mul_of_one_le_of_one_le left.one_le_size right.one_le_size
  have rounded : slack * (x.size * y.size) + halfUnit ≤ fullSlack * (a * b) :=
    (slack_mul_add_le large).trans
      (mul_le_mul_of_nonneg_left exact (zero_le_one.trans one_le_fullSlack))
  exact ⟨left.unsigned.mul right.unsigned (rounded.trans_lt small), left.atLeast.mul right.atLeast,
    (size_mul_le x y).trans rounded⟩

/-- The bound of a power grows with its exponent. -/
theorem Within.bound_mono (left : Within x a) (right : Within y b) (order : i ≤ j) :
    b * (fullSlack * a) ^ i ≤ b * (fullSlack * a) ^ j := by
  have factor : 1 ≤ fullSlack * a := one_le_mul_of_one_le_of_one_le one_le_fullSlack left.one_le
  exact mul_le_mul_of_nonneg_left (pow_le_pow_right₀ factor order) (zero_le_one.trans right.one_le)

theorem Within.square (left : Within x a) (right : Within y b) (two : 2 ≤ n)
    (small : b * (fullSlack * a) ^ n < sizeOverflow) : Within (x.mul x) (fullSlack * (a * a)) := by
  have positive : 0 ≤ fullSlack * (a * a) :=
    mul_nonneg (zero_le_one.trans one_le_fullSlack) (mul_self_nonneg a)
  refine left.mul left (lt_of_le_of_lt ?_ small)
  calc fullSlack * (a * a) ≤ fullSlack * (fullSlack * (a * a)) :=
        le_mul_of_one_le_left positive one_le_fullSlack
    _ = (fullSlack * a) ^ 2 := by ring
    _ ≤ b * (fullSlack * a) ^ 2 := le_mul_of_one_le_left (sq_nonneg _) right.one_le
    _ ≤ b * (fullSlack * a) ^ n := left.bound_mono right two

/-- **A power is at most what it should be, up to one rounding for each factor.** -/
theorem Squares.within {result : Binary64} (course : Squares base acc n result)
    (left : Within base a) (right : Within acc b) (small : b * (fullSlack * a) ^ n < sizeOverflow) :
    Within result (b * (fullSlack * a) ^ n) := by
  induction course generalizing a b with
  | zero =>
      rw [pow_zero, mul_one]
      exact right
  | one =>
      have order : b * (fullSlack * a) ^ 1 = fullSlack * (b * a) := by ring
      rw [order] at small ⊢
      exact right.mul left small
  | @even base acc result n nonzero _ ih =>
      have same : b * (fullSlack * (fullSlack * (a * a))) ^ n = b * (fullSlack * a) ^ (2 * n) := by
        rw [pow_mul]
        ring
      have square := left.square right (by omega) small
      rw [← same] at small ⊢
      exact ih square right small
  | @odd base acc result n nonzero _ ih =>
      have same : fullSlack * (b * a) * (fullSlack * (fullSlack * (a * a))) ^ n =
          b * (fullSlack * a) ^ (2 * n + 1) := by
        rw [pow_succ, pow_mul]
        ring
      have square := left.square right (by omega) small
      have next : Within (acc.mul base) (fullSlack * (b * a)) := by
        refine right.mul left (lt_of_le_of_lt ?_ small)
        calc fullSlack * (b * a) = b * (fullSlack * a) ^ 1 := by ring
          _ ≤ b * (fullSlack * a) ^ (2 * n + 1) := left.bound_mono right (Nat.le_add_left 1 _)
      rw [← same] at small ⊢
      exact ih square next small

/-! ## Whole exponents -/

theorem squares_powi (base : Binary64) (n : Nat) : Squares base one n (base.powi n) := by
  have nonnegative : ¬ (n : Int) < 0 := Int.not_lt.mpr (Int.natCast_nonneg n)
  rw [powi, if_neg nonnegative, Int.natAbs_natCast]
  exact squares_powLoop base one n

theorem isNegative_powi (left : base.isNegative = false) (e : Int) :
    (base.powi e).isNegative = false := by
  have power := (squares_powLoop base one e.natAbs).isNegative left rfl
  rw [powi]
  split
  · exact isNegative_div rfl power
  · exact power

/-- The reciprocal of a double of one or more is hardly more than one, and that of an overflow is zero. -/
theorem AtLeast.one_div (large : AtLeast 0 x) :
    (one.div x).Unsigned ∧ (one.div x).size ≤ slack + halfUnit := by
  have positive : 0 ≤ slack + halfUnit := add_nonneg slack_pos.le halfUnit_pos.le
  rcases large with rfl | ⟨u, rfl, atLeast⟩
  · exact ⟨⟨0, rfl⟩, (size_zero false).trans_le positive⟩
  · rw [pow_zero, one_mul] at atLeast
    have large : 1 ≤ (finite false u).size := one_le_size atLeast
    have inverse : one.size / (finite false u).size ≤ 1 := by
      rw [size_one]
      exact div_le_one_of_le₀ large (size_nonneg _)
    have rounded : slack * (one.size / (finite false u).size) + halfUnit ≤ slack + halfUnit := by
      have product := mul_le_mul_of_nonneg_left inverse slack_pos.le
      linarith
    have small : slack + halfUnit < sizeOverflow := by
      have half := halfUnit_le
      have overflow := pow_le_sizeOverflow
      rw [slack]
      linarith
    exact ⟨Unsigned.div ⟨_, rfl⟩ ⟨u, rfl⟩ (zero_lt_one.trans_le large) (rounded.trans_lt small),
      (size_div_le _ _).trans rounded⟩

/-- **A whole power with an exponent up to a bound** is hardly more than the power with that bound. -/
theorem Within.powi {e : Int} (left : Within base a) (order : e ≤ n) (few : n ≤ 2 ^ 31)
    (small : (1 + 1 / 2 ^ 20) * a ^ n < sizeOverflow) :
    (base.powi e).Unsigned ∧ (base.powi e).size ≤ (1 + 1 / 2 ^ 20) * a ^ n := by
  have power : 1 ≤ a ^ n := one_le_pow₀ left.one_le
  rcases lt_or_ge e 0 with negative | nonnegative
  · rw [Binary64.powi, if_pos negative]
    have large : AtLeast 0 (powLoop base one e.natAbs) := by
      have atLeast := (squares_powLoop base one e.natAbs).atLeast left.atLeast atLeast_one
      rw [Nat.zero_mul] at atLeast
      exact atLeast
    obtain ⟨unsigned, bound⟩ := large.one_div
    have hardly : slack + halfUnit ≤ 1 + 1 / 2 ^ 20 := by
      have half := halfUnit_le
      rw [slack]
      linarith
    exact ⟨unsigned, (bound.trans hardly).trans (le_mul_of_one_le_right (by norm_num) power)⟩
  · obtain ⟨m, rfl⟩ := Int.eq_ofNat_of_zero_le nonnegative
    have within : m ≤ n := Int.ofNat_le.mp order
    have bound : 1 * (fullSlack * a) ^ m ≤ (1 + 1 / 2 ^ 20) * a ^ n := by
      rw [one_mul, mul_pow]
      exact mul_le_mul (fullSlack_pow_le (within.trans few)) (pow_le_pow_right₀ left.one_le within)
        (pow_nonneg (zero_le_one.trans left.one_le) m) (by norm_num)
    have result := (squares_powi base m).within left within_one (bound.trans_lt small)
    exact ⟨result.unsigned, result.size_le.trans bound⟩

end StartupGate.Binary64

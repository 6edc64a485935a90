/-
# StartupGate.Proofs.Number.Closeness -- how far a few roundings set apart

Numbers that a few roundings lie between are each at most the other, times one `fullSlack` for each rounding
(`Close`).  The relation is the same in both directions, so it passes through products and quotients
alike: a chain of operations on doubles is close to the exact result by the number of its
roundings (`Near`).  This holds as long as nothing on the way is so small or so large that
doubles get coarse.
-/
import StartupGate.Proofs.Number.Order

set_option autoImplicit false

namespace StartupGate.Binary64

variable {a b c d v w : ℚ} {i j k n : Nat} {x y : Binary64}

/-! ## Numbers -/

/-- Two numbers that `k` roundings may lie between. -/
structure Close (k : Nat) (a b : ℚ) : Prop where
  le : a ≤ fullSlack ^ k * b
  ge : b ≤ fullSlack ^ k * a

theorem fullSlack_pow_pos (k : Nat) : 0 < fullSlack ^ k :=
  pow_pos (zero_lt_one.trans_le one_le_fullSlack) k

namespace Close

theorem refl (a : ℚ) : Close 0 a a := by constructor <;> simp

theorem nonneg (close : Close k a b) (nonneg : 0 ≤ a) : 0 ≤ b :=
  nonneg_of_mul_nonneg_right (nonneg.trans close.le) (fullSlack_pow_pos k)

theorem pos (close : Close k a b) (positive : 0 < b) : 0 < a :=
  (mul_pos_iff_of_pos_left (fullSlack_pow_pos k)).mp (positive.trans_le close.ge)

theorem trans (left : Close i a b) (right : Close j b c) : Close (i + j) a c where
  le := by
    calc a ≤ fullSlack ^ i * b := left.le
      _ ≤ fullSlack ^ i * (fullSlack ^ j * c) :=
        mul_le_mul_of_nonneg_left right.le (fullSlack_pow_pos i).le
      _ = fullSlack ^ (i + j) * c := by rw [pow_add, mul_assoc]
  ge := by
    calc c ≤ fullSlack ^ j * b := right.ge
      _ ≤ fullSlack ^ j * (fullSlack ^ i * a) :=
        mul_le_mul_of_nonneg_left left.ge (fullSlack_pow_pos j).le
      _ = fullSlack ^ (i + j) * a := by rw [pow_add]; ring

theorem mul (left : Close i a b) (right : Close j c d) (nonneg : 0 ≤ a) (nonneg' : 0 ≤ c) :
    Close (i + j) (a * c) (b * d) where
  le := by
    calc a * c ≤ (fullSlack ^ i * b) * (fullSlack ^ j * d) :=
        mul_le_mul left.le right.le nonneg' (nonneg.trans left.le)
      _ = fullSlack ^ (i + j) * (b * d) := by rw [pow_add]; ring
  ge := by
    calc b * d ≤ (fullSlack ^ i * a) * (fullSlack ^ j * c) :=
        mul_le_mul left.ge right.ge (right.nonneg nonneg') ((left.nonneg nonneg).trans left.ge)
      _ = fullSlack ^ (i + j) * (a * c) := by rw [pow_add]; ring

theorem inv (close : Close k a b) (positive : 0 < a) (positive' : 0 < b) : Close k a⁻¹ b⁻¹ where
  le := by
    rw [← div_eq_mul_inv, inv_le_comm₀ positive (div_pos (fullSlack_pow_pos k) positive'), inv_div,
      div_le_iff₀' (fullSlack_pow_pos k)]
    exact close.ge
  ge := by
    rw [← div_eq_mul_inv, inv_le_comm₀ positive' (div_pos (fullSlack_pow_pos k) positive), inv_div,
      div_le_iff₀' (fullSlack_pow_pos k)]
    exact close.le

theorem div (left : Close i a b) (right : Close j c d) (nonneg : 0 ≤ a) (positive : 0 < c)
    (positive' : 0 < d) : Close (i + j) (a / c) (b / d) := by
  rw [div_eq_mul_inv, div_eq_mul_inv]
  exact left.mul (right.inv positive positive') nonneg (inv_pos.mpr positive).le

end Close

/-! ## Rounding -/

-- so that no tactic computes them
attribute [local irreducible] unitsPerOne unitsOverflow

/-- A quotient rounded to a whole number is at most a half below it. -/
theorem le_divTiesEven_mul (n : Nat) {d : Nat} (positive : 0 < d) :
    2 * n ≤ 2 * (divTiesEven n d * d) + d := by
  have parts : d * (n / d) + n % d = n := Nat.div_add_mod n d
  have rest : n % d < d := Nat.mod_lt n positive
  have exact : n / d * d = d * (n / d) := Nat.mul_comm _ _
  rw [divTiesEven]
  split
  · rw [Nat.add_mul, Nat.one_mul]
    omega
  · omega

/-- A rounded quotient is off by half of the distance between doubles at most. -/
theorem abs_roundUnits_sub_le_spacing (n : Nat) {d : Nat} (positive : 0 < d) :
    |(roundUnits n d : ℚ) - n / d| ≤ spacing (n / d) / 2 := by
  have dPos : (0 : ℚ) < d := by exact_mod_cast positive
  have above := divTiesEven_mul_le n (d * spacing (n / d))
  have below := le_divTiesEven_mul n (Nat.mul_pos positive (spacing_pos (n / d)))
  have aboveQ : 2 * ((divTiesEven n (d * spacing (n / d)) : ℚ) * (d * spacing (n / d))) ≤
      2 * n + d * spacing (n / d) := by exact_mod_cast above
  have belowQ : (2 * n : ℚ) ≤
      2 * (divTiesEven n (d * spacing (n / d)) * (d * spacing (n / d))) + d * spacing (n / d) := by
    exact_mod_cast below
  rw [roundUnits, Nat.cast_mul, abs_sub_le_iff]
  constructor
  · rw [sub_le_iff_le_add', div_add' _ _ _ dPos.ne', le_div_iff₀ dPos]
    linarith
  · rw [sub_le_iff_le_add', div_le_iff₀ dPos]
    linarith

/-- **One rounding of what is `2 ^ 52` units or more** is off by one part in `2 ^ 53` at most. -/
theorem abs_roundUnits_sub_le {d : Nat} (positive : 0 < d) (large : 2 ^ 52 * d ≤ n) :
    |(roundUnits n d : ℚ) - n / d| ≤ n / d / 2 ^ 53 := by
  have dPos : (0 : ℚ) < d := by exact_mod_cast positive
  have units : (2 : ℚ) ^ 52 ≤ n / d := by
    rw [le_div_iff₀ dPos]
    exact_mod_cast large
  have fine : (spacing (n / d) : ℚ) * 2 ^ 52 ≤ n / d := by
    have whole : ((n / d : Nat) : ℚ) ≤ n / d := Nat.cast_div_le
    rcases spacing_eq_or_mul_le (n / d) with unit | apart
    · rw [unit, Nat.cast_one, one_mul]
      exact units
    · have cast : (spacing (n / d) : ℚ) * 2 ^ 52 ≤ (n / d : Nat) := by exact_mod_cast apart
      exact cast.trans whole
  have half := abs_roundUnits_sub_le_spacing n positive
  linarith

theorem pow_le_unitsPerOne : (2 : ℚ) ^ 200 ≤ unitsPerOne := by
  have large : 2 ^ 200 ≤ unitsPerOne := by decide +kernel
  exact_mod_cast large

/-- A quotient that is not too small and not too large is rounded once. -/
theorem abs_size_ofQuotient_sub_le (negative : Bool) {d : Nat} (positive : 0 < d)
    (least : 1 / 2 ^ 100 ≤ (n / (d * unitsPerOne) : ℚ)) (most : (n / (d * unitsPerOne) : ℚ) ≤ 2 ^ 150) :
    ∃ u, ofQuotient negative n d = .finite negative u ∧
      |size (.finite negative u) - n / (d * unitsPerOne)| ≤ n / (d * unitsPerOne) / 2 ^ 53 := by
  have unit := cast_unitsPerOne_pos
  have many := pow_le_unitsPerOne
  have overflow := pow_le_sizeOverflow
  have half := halfUnit_le
  have dPos : (0 : ℚ) < d := by exact_mod_cast positive
  refine ⟨_, ofQuotient_eq_finite negative positive ?_, ?_⟩
  · rw [slack]
    linarith
  · have large : 2 ^ 52 * d ≤ n := by
      rw [le_div_iff₀ (mul_pos dPos unit)] at least
      have cast : (2 ^ 52 * d : ℚ) ≤ n := by
        refine le_trans ?_ least
        have scaled := mul_le_mul_of_nonneg_left many dPos.le
        linarith
      exact_mod_cast cast
    have parts : (n / (d * unitsPerOne) : ℚ) = n / d / unitsPerOne := (div_div _ _ _).symm
    rw [parts, size, ← sub_div, abs_div, abs_of_pos unit, div_right_comm]
    exact div_le_div_of_nonneg_right (abs_roundUnits_sub_le positive large) unit.le

theorem Close.of_abs_sub_le (off : |a - b| ≤ b / 2 ^ 53) (nonneg : 0 ≤ b) : Close 1 a b := by
  obtain ⟨above, below⟩ := abs_sub_le_iff.mp off
  constructor
  · rw [pow_one, fullSlack]
    linarith
  · rw [pow_one, fullSlack]
    linarith

/-! ## Operations -/

/-- The double has no minus, does not overflow, and `k` roundings lie between it and a number. -/
structure Near (k : Nat) (x : Binary64) (v : ℚ) : Prop where
  unsigned : x.Unsigned
  close : Close k x.size v

/-- The number is zero, or neither so small nor so large that doubles get coarse there. -/
def Regular (v : ℚ) : Prop := v = 0 ∨ 1 / 2 ^ 99 ≤ v ∧ v ≤ 2 ^ 149

theorem Regular.nonneg (regular : Regular v) : 0 ≤ v := by
  rcases regular with rfl | ⟨least, -⟩
  · exact le_refl 0
  · linarith

theorem Regular.le (regular : Regular v) : v ≤ 2 ^ 149 := by
  rcases regular with rfl | ⟨-, most⟩
  · positivity
  · exact most

theorem regular_div {d : Nat} (positive : 0 < d) (few : n ≤ 2 ^ 149) (few' : d ≤ 2 ^ 99) :
    Regular (n / d) := by
  have dPos : (0 : ℚ) < d := by exact_mod_cast positive
  rcases Nat.eq_zero_or_pos n with rfl | nonzero
  · exact .inl (by rw [Nat.cast_zero, zero_div])
  · have one : (1 : ℚ) ≤ n := by exact_mod_cast nonzero
    have one' : (1 : ℚ) ≤ d := by exact_mod_cast positive
    have most : (n : ℚ) ≤ 2 ^ 149 := by exact_mod_cast few
    have most' : (d : ℚ) ≤ 2 ^ 99 := by exact_mod_cast few'
    exact .inr ⟨div_le_div₀ (Nat.cast_nonneg n) one dPos most',
      (div_le_self (Nat.cast_nonneg n) one').trans most⟩

/-- A few roundings do not double a number. -/
theorem Close.within_twice (close : Close k a b) (few : k ≤ 64) (nonneg : 0 ≤ a) :
    a ≤ 2 * b ∧ b ≤ 2 * a := by
  have twice : fullSlack ^ k ≤ 2 :=
    (fullSlack_pow_le (few.trans (by norm_num))).trans (by norm_num)
  exact ⟨close.le.trans (mul_le_mul_of_nonneg_right twice (close.nonneg nonneg)),
    close.ge.trans (mul_le_mul_of_nonneg_right twice nonneg)⟩

theorem ofQuotient_zero {d : Nat} (positive : 0 < d) : ofQuotient false 0 d = .finite false 0 := by
  have isDouble : IsDouble 0 := Nat.dvd_zero _
  have zero := isDouble.roundUnits_eq positive
  rw [Nat.zero_mul] at zero
  have small := whole_lt_unitsOverflow (Nat.zero_le (2 ^ 53))
  rw [Nat.zero_mul] at small
  rw [ofQuotient, zero]
  exact if_pos small

theorem ofQuotient_eq_of_unsigned {d : Nat} (unsigned : (ofQuotient false n d).Unsigned) :
    ofQuotient false n d = .finite false (roundUnits n d) := by
  obtain ⟨u, rounded⟩ := unsigned
  rw [ofQuotient] at rounded ⊢
  split at rounded
  · next small => exact if_pos small
  · exact Binary64.noConfusion rounded

/-- Rounding a quotient that is close to a number adds one rounding. -/
theorem near_ofQuotient {d : Nat} (positive : 0 < d)
    (close : Close k (n / (d * unitsPerOne)) v) (few : k ≤ 64) (regular : Regular v) :
    Near (k + 1) (ofQuotient false n d) v := by
  have scale : (0 : ℚ) < d * unitsPerOne :=
    mul_pos (by exact_mod_cast positive) cast_unitsPerOne_pos
  obtain ⟨above, below⟩ := close.within_twice few (div_nonneg (Nat.cast_nonneg n) scale.le)
  rcases regular with rfl | ⟨least, most⟩
  · have none : n = 0 := by
      rw [mul_zero, div_le_iff₀ scale, zero_mul] at above
      exact_mod_cast le_antisymm above (Nat.cast_nonneg n)
    rw [none, ofQuotient_zero positive]
    exact ⟨⟨0, rfl⟩, by constructor <;> simp [size_zero]⟩
  · obtain ⟨u, rounded, off⟩ :=
      abs_size_ofQuotient_sub_le (n := n) false positive (by linarith) (by linarith)
    have once := Close.of_abs_sub_le off (div_nonneg (Nat.cast_nonneg n) scale.le)
    rw [rounded, Nat.add_comm]
    exact ⟨⟨u, rfl⟩, once.trans close⟩

/-- Whole numbers up to `2 ^ 53` are not rounded. -/
theorem ofNat_eq (few : n ≤ 2 ^ 53) : ofNat n = .finite false (n * unitsPerOne) := by
  have same := (isDouble_whole few).roundUnits_eq Nat.one_pos
  rw [Nat.mul_one] at same
  rw [ofNat, ofQuotient, same]
  exact if_pos (whole_lt_unitsOverflow few)

theorem size_lt_half_iff (u k : Nat) : (finite false u).size < k + 1 / 2 ↔
    2 * u < (2 * k + 1) * unitsPerOne := by
  have cast : 2 * u < (2 * k + 1) * unitsPerOne ↔ (2 * u : ℚ) < (2 * k + 1) * unitsPerOne := by
    exact_mod_cast Iff.rfl
  rw [cast, size, div_lt_iff₀ cast_unitsPerOne_pos]
  constructor <;> intro order <;> linarith

theorem size_finite_mul_unitsPerOne (n : Nat) : (finite false (n * unitsPerOne)).size = n := by
  rw [size, Nat.cast_mul, mul_div_cancel_right₀ _ cast_unitsPerOne_pos.ne']

theorem near_ofNat_of_few (few : n ≤ 2 ^ 53) : Near 0 (ofNat n) n := by
  rw [ofNat_eq few]
  exact ⟨⟨_, rfl⟩, (size_finite_mul_unitsPerOne n).symm ▸ Close.refl _⟩

theorem near_ofNat (word : n < 2 ^ 64) : Near 1 (ofNat n) n := by
  have value : ((n * unitsPerOne : Nat) / ((1 : Nat) * unitsPerOne) : ℚ) = n := by
    rw [Nat.cast_one, one_mul]
    exact size_finite_mul_unitsPerOne n
  have regular : Regular n := by
    have whole := regular_div (n := n) (d := 1) Nat.one_pos (word.le.trans (by norm_num)) (by norm_num)
    rwa [Nat.cast_one, div_one] at whole
  exact near_ofQuotient Nat.one_pos (value ▸ Close.refl _) (Nat.zero_le _) regular

/-- **A product** adds one rounding to those of its factors. -/
theorem Near.mul (left : Near i x v) (right : Near j y w) (few : i + j ≤ 64)
    (regular : Regular (v * w)) : Near (i + j + 1) (x.mul y) (v * w) := by
  have exact := left.close.mul right.close x.size_nonneg y.size_nonneg
  obtain ⟨s, rfl⟩ := left.unsigned
  obtain ⟨t, rfl⟩ := right.unsigned
  have unit := cast_unitsPerOne_pos
  have value : (finite false s).size * (finite false t).size =
      (s * t : Nat) / (unitsPerOne * unitsPerOne) := by
    simp only [size, Nat.cast_mul]
    field_simp
  rw [value] at exact
  exact near_ofQuotient unitsPerOne_pos exact few regular

/-- **A quotient** adds one rounding to those of its parts. -/
theorem Near.div (left : Near i x v) (right : Near j y w) (few : i + j ≤ 64) (positive : 0 < w)
    (regular : Regular (v / w)) : Near (i + j + 1) (x.div y) (v / w) := by
  have positive' : 0 < y.size := right.close.pos positive
  have exact := left.close.div right.close x.size_nonneg positive' positive
  obtain ⟨s, rfl⟩ := left.unsigned
  obtain ⟨t, rfl⟩ := right.unsigned
  have nonzero : t ≠ 0 := (units_pos positive').ne'
  have unit := cast_unitsPerOne_pos
  have value : (finite false s).size / (finite false t).size =
      (s * unitsPerOne : Nat) / (t * unitsPerOne) := by
    simp only [size, Nat.cast_mul]
    field_simp
  rw [value] at exact
  rw [Binary64.div, if_neg nonzero]
  exact near_ofQuotient (Nat.pos_of_ne_zero nonzero) exact few regular

end StartupGate.Binary64

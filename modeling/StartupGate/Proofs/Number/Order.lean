/-
# StartupGate.Proofs.Number.Order -- arithmetic on doubles keeps their order

A larger exact result is never rounded to less (`roundUnits_mono`), and a number of units that is a
double already is not changed (`IsDouble`).  So products keep the order of the doubles that have no
minus (`AtMost`), and a reciprocal turns it round.

Powers grow with their exponent (`AtMost.powi`): repeated squaring rounds at other places for the
exponents `n` and `n + 1`, but what it has gathered from the lower binary digits is never more than
the square that the next digit stands for.
-/
import Mathlib.Data.Nat.Log
import StartupGate.Proofs.Number.Power

set_option autoImplicit false

namespace StartupGate.Binary64

variable {n d n' d' k u v m : Nat} {x x' y y' a a' base : Binary64}

/-! ## Rounding to a whole number -/

theorem divTiesEven_le (positive : 0 < d) (atMost : n ≤ k * d) : divTiesEven n d ≤ k := by
  have parts : d * (n / d) + n % d = n := Nat.div_add_mod n d
  have below : n / d ≤ k := Nat.div_le_of_le_mul (by rwa [Nat.mul_comm])
  rcases Nat.lt_or_eq_of_le below with less | same
  · rw [divTiesEven]
    split <;> omega
  · -- the quotient is exact, so nothing is rounded up
    have exact : n % d = 0 := by
      rw [same, Nat.mul_comm] at parts
      omega
    rw [divTiesEven, exact, if_neg (by omega)]
    omega

theorem le_divTiesEven (positive : 0 < d) (atLeast : k * d ≤ n) : k ≤ divTiesEven n d := by
  have whole : k ≤ n / d := (Nat.le_div_iff_mul_le positive).mpr atLeast
  rw [divTiesEven]
  split <;> omega

/-- The order of two quotients holds for their whole parts. -/
theorem div_le_div_of_order (positive : 0 < d) (positive' : 0 < d') (order : n * d' ≤ n' * d) :
    n / d ≤ n' / d' := by
  rw [Nat.le_div_iff_mul_le positive']
  refine Nat.le_of_mul_le_mul_right ?_ positive
  calc n / d * d' * d = n / d * d * d' := Nat.mul_right_comm _ _ _
    _ ≤ n * d' := Nat.mul_le_mul_right _ (Nat.div_mul_le_self n d)
    _ ≤ n' * d := order

theorem divTiesEven_mono (positive : 0 < d) (positive' : 0 < d') (order : n * d' ≤ n' * d) :
    divTiesEven n d ≤ divTiesEven n' d' := by
  have parts : d * (n / d) + n % d = n := Nat.div_add_mod n d
  have parts' : d' * (n' / d') + n' % d' = n' := Nat.div_add_mod n' d'
  rcases Nat.lt_or_eq_of_le (div_le_div_of_order positive positive' order) with less | same
  · rw [divTiesEven, divTiesEven]
    split <;> split <;> omega
  · -- equal whole parts: the rests are in order, as parts of the divisors
    have rests : n % d * d' ≤ n' % d' * d := by
      have scaled : (d * (n / d) + n % d) * d' ≤ (d' * (n' / d') + n' % d') * d := by
        rw [parts, parts']
        exact order
      have wholes : d * (n / d) * d' = d' * (n' / d') * d := by
        rw [same]
        ring
      rw [Nat.add_mul, Nat.add_mul, wholes] at scaled
      omega
    have up : d < 2 * (n % d) → d' < 2 * (n' % d') := by
      intro above
      refine Nat.lt_of_mul_lt_mul_right (a := d) ?_
      calc d' * d = d * d' := Nat.mul_comm _ _
        _ < 2 * (n % d) * d' := Nat.mul_lt_mul_of_pos_right above positive'
        _ ≤ 2 * (n' % d') * d := by rw [Nat.mul_assoc, Nat.mul_assoc]; omega
    have upAtTie : d = 2 * (n % d) → d' ≤ 2 * (n' % d') := by
      intro tie
      refine Nat.le_of_mul_le_mul_right ?_ positive
      calc d' * d = 2 * (n % d) * d' := by rw [← tie, Nat.mul_comm]
        _ ≤ 2 * (n' % d') * d := by rw [Nat.mul_assoc, Nat.mul_assoc]; omega
    rw [divTiesEven, divTiesEven, same]
    split <;> split <;> omega

/-! ## Rounding to a double -/

theorem spacing_pos (q : Nat) : 0 < spacing q := Nat.two_pow_pos _

theorem log2_mono {q q' : Nat} (order : q ≤ q') : q.log2 ≤ q'.log2 := by
  rw [Nat.log2_eq_log_two, Nat.log2_eq_log_two]
  exact Nat.log_mono_right order

theorem spacing_dvd_spacing {q q' : Nat} (order : q ≤ q') : spacing q ∣ spacing q' :=
  Nat.pow_dvd_pow 2 (Nat.sub_le_sub_right (log2_mono order) 52)

/-- A quotient is less than `2 ^ 53` steps between doubles. -/
theorem lt_pow_mul_spacing (q : Nat) : q < 2 ^ 53 * spacing q := by
  calc q < 2 ^ (q.log2 + 1) := Nat.lt_log2_self
    _ ≤ 2 ^ (53 + (q.log2 - 52)) := Nat.pow_le_pow_right Nat.two_pos (by omega)
    _ = 2 ^ 53 * spacing q := Nat.pow_add 2 53 _

/-- The number of units is a double: a whole number of steps between neighbours of its size. -/
def IsDouble (u : Nat) : Prop := spacing u ∣ u

/-- A product of up to `2 ^ 53` with any power of two is a double. -/
theorem isDouble_mul_pow (few : k ≤ 2 ^ 53) (e : Nat) : IsDouble (k * 2 ^ e) := by
  rcases Nat.lt_or_eq_of_le few with less | rfl
  · have small : (k * 2 ^ e).log2 ≤ 52 + e := by
      rcases Nat.eq_zero_or_pos (k * 2 ^ e) with zero | positive
      · rw [zero, Nat.log2_zero]
        exact Nat.zero_le _
      · refine Nat.le_of_lt_succ ((Nat.log2_lt (Nat.pos_iff_ne_zero.mp positive)).mpr ?_)
        have power : 2 ^ (52 + e).succ = 2 ^ 53 * 2 ^ e := by rw [← Nat.pow_add]; congr 1; omega
        rw [power]
        exact Nat.mul_lt_mul_of_pos_right less (Nat.two_pow_pos e)
    have step : spacing (k * 2 ^ e) ∣ 2 ^ e := Nat.pow_dvd_pow 2 (by omega)
    exact Nat.dvd_mul_left_of_dvd step k
  · rw [IsDouble, ← Nat.pow_add, spacing, Nat.log2_two_pow]
    exact Nat.pow_dvd_pow 2 (by omega)

/-- Whole numbers up to `2 ^ 53` are doubles. -/
theorem isDouble_whole (few : k ≤ 2 ^ 53) : IsDouble (k * unitsPerOne) := by
  obtain ⟨e, unit⟩ := exists_unitsPerOne
  rw [unit]
  exact isDouble_mul_pow few e

/-- Whole numbers up to `2 ^ 53` do not overflow. -/
theorem whole_lt_unitsOverflow (few : k ≤ 2 ^ 53) : k * unitsPerOne < unitsOverflow := by
  have unit := cast_unitsPerOne_pos
  have overflow := pow_le_sizeOverflow
  rw [sizeOverflow, le_div_iff₀ unit] at overflow
  have cast : (k : ℚ) ≤ 2 ^ 53 := by exact_mod_cast few
  have scaled := mul_le_mul_of_nonneg_right cast unit.le
  have below : (k * unitsPerOne : ℚ) < unitsOverflow := by linarith
  exact_mod_cast below

/-- A power of two passes through doubles. -/
theorem IsDouble.mul_pow (isDouble : IsDouble u) (e : Nat) : IsDouble (u * 2 ^ e) := by
  rcases Nat.eq_zero_or_pos u with rfl | positive
  · rw [Nat.zero_mul]
    exact Nat.dvd_zero _
  · have step : spacing (u * 2 ^ e) ∣ spacing u * 2 ^ e := by
      have log : (u * 2 ^ e).log2 = u.log2 + e := by
        refine (Nat.log2_eq_iff (Nat.mul_pos positive (Nat.two_pow_pos e)).ne').mpr ⟨?_, ?_⟩
        · rw [Nat.pow_add]
          exact Nat.mul_le_mul_right _ (Nat.log2_self_le positive.ne')
        · rw [Nat.add_right_comm, Nat.pow_add]
          exact Nat.mul_lt_mul_of_pos_right Nat.lt_log2_self (Nat.two_pow_pos e)
      rw [spacing, spacing, log, Nat.pow_eq, Nat.pow_eq, ← Nat.pow_add]
      exact Nat.pow_dvd_pow 2 (by omega)
    exact step.trans (Nat.mul_dvd_mul_right isDouble _)

theorem isDouble_roundUnits (n : Nat) (positive : 0 < d) : IsDouble (roundUnits n d) := by
  refine isDouble_mul_pow (divTiesEven_le (Nat.mul_pos positive (spacing_pos _)) ?_) _
  have whole : n < 2 ^ 53 * spacing (n / d) * d :=
    (Nat.div_lt_iff_lt_mul positive).mp (lt_pow_mul_spacing (n / d))
  rw [Nat.mul_comm d, ← Nat.mul_assoc]
  exact whole.le

/-- A double is not changed by rounding. -/
theorem IsDouble.roundUnits_eq (isDouble : IsDouble u) (positive : 0 < d) :
    roundUnits (u * d) d = u := by
  obtain ⟨steps, whole⟩ := isDouble
  have exact : divTiesEven (u * d) (d * spacing u) = steps := by
    have grid : u * d = steps * (d * spacing u) := by
      rw [Nat.mul_left_comm, Nat.mul_comm steps, ← whole, Nat.mul_comm]
    have step : 0 < d * spacing u := Nat.mul_pos positive (spacing_pos u)
    exact Nat.le_antisymm (divTiesEven_le step grid.le) (le_divTiesEven step grid.ge)
  rw [roundUnits, Nat.mul_div_cancel _ positive, exact, Nat.mul_comm, ← whole]

theorem roundUnits_le_pow (positive : 0 < d) (small : n ≤ 2 ^ m * d) : roundUnits n d ≤ 2 ^ m := by
  have quotient : n / d ≤ 2 ^ m := Nat.div_le_of_le_mul (by rwa [Nat.mul_comm])
  have isDouble : IsDouble (2 ^ m) := Nat.one_mul (2 ^ m) ▸ isDouble_mul_pow (by omega) m
  obtain ⟨steps, whole⟩ : spacing (n / d) ∣ 2 ^ m := (spacing_dvd_spacing quotient).trans isDouble
  have grid : n ≤ steps * (d * spacing (n / d)) := by
    rwa [Nat.mul_left_comm, Nat.mul_comm steps, ← whole, Nat.mul_comm]
  calc roundUnits n d ≤ steps * spacing (n / d) :=
        Nat.mul_le_mul_right _ (divTiesEven_le (Nat.mul_pos positive (spacing_pos _)) grid)
    _ = 2 ^ m := by rw [Nat.mul_comm, ← whole]

/-- **A larger exact result is not rounded to less.** -/
theorem roundUnits_mono (positive : 0 < d) (positive' : 0 < d') (order : n * d' ≤ n' * d) :
    roundUnits n d ≤ roundUnits n' d' := by
  have whole : n / d ≤ n' / d' := div_le_div_of_order positive positive' order
  by_cases same : spacing (n / d) = spacing (n' / d')
  · refine Nat.mul_le_mul ?_ same.le
    refine divTiesEven_mono (Nat.mul_pos positive (spacing_pos _))
      (Nat.mul_pos positive' (spacing_pos _)) ?_
    rw [← same, ← Nat.mul_assoc, ← Nat.mul_assoc]
    exact Nat.mul_le_mul_right _ order
  · -- the quotients lie on either side of a power of two
    have apart : (n / d).log2 + 1 ≤ (n' / d').log2 := by
      refine Nat.lt_of_le_of_ne (log2_mono whole) fun equal => same ?_
      rw [spacing, spacing, equal]
    have nonzero : n' / d' ≠ 0 := by
      intro zero
      rw [zero, Nat.log2_zero] at apart
      omega
    have below : n ≤ 2 ^ ((n / d).log2 + 1) * d :=
      ((Nat.div_lt_iff_lt_mul positive).mp Nat.lt_log2_self).le
    have above : 2 ^ ((n / d).log2 + 1) * d' ≤ n' :=
      (Nat.le_div_iff_mul_le positive').mp
        ((Nat.pow_le_pow_right Nat.two_pos apart).trans (Nat.log2_self_le nonzero))
    exact (roundUnits_le_pow positive below).trans (pow_le_roundUnits positive' above)

/-- Rounding depends on the exact result only, not on how it is written as a quotient. -/
theorem roundUnits_congr (positive : 0 < d) (positive' : 0 < d') (same : n * d' = n' * d) :
    roundUnits n d = roundUnits n' d' :=
  Nat.le_antisymm (roundUnits_mono positive positive' same.le)
    (roundUnits_mono positive' positive same.ge)

/-- What is at most a double is not rounded to more. -/
theorem IsDouble.roundUnits_le (isDouble : IsDouble u) (positive : 0 < d) (atMost : n ≤ u * d) :
    roundUnits n d ≤ u := by
  have order := roundUnits_mono positive positive (Nat.mul_le_mul_right d atMost)
  rwa [isDouble.roundUnits_eq positive] at order

/-- What is at least a double is not rounded to less. -/
theorem IsDouble.le_roundUnits (isDouble : IsDouble u) (positive : 0 < d) (atLeast : u * d ≤ n) :
    u ≤ roundUnits n d := by
  have order := roundUnits_mono positive positive (Nat.mul_le_mul_right d atLeast)
  rwa [isDouble.roundUnits_eq positive] at order

/-! ## Powers of two -/

section Scale

variable {q s c : Nat}

theorem spacing_eq (least : 2 ^ (52 + s) ≤ q) (most : q < 2 ^ (53 + s)) : spacing q = 2 ^ s := by
  have nonzero : q ≠ 0 := (Nat.lt_of_lt_of_le (Nat.two_pow_pos _) least).ne'
  have log : q.log2 = 52 + s := by
    refine (Nat.log2_eq_iff nonzero).mpr ⟨least, ?_⟩
    rwa [Nat.add_right_comm]
  rw [spacing, log, Nat.add_sub_cancel_left]
  rfl

/-- The rounding of a quotient whose power of two is known. -/
theorem roundUnits_eq (positive : 0 < d) (least : 2 ^ (52 + s) * d ≤ n)
    (most : n < 2 ^ (53 + s) * d) : roundUnits n d = divTiesEven n (d * 2 ^ s) * 2 ^ s := by
  rw [roundUnits, spacing_eq ((Nat.le_div_iff_mul_le positive).mpr least)
    ((Nat.div_lt_iff_lt_mul positive).mpr most)]

theorem divTiesEven_mul_mul (n : Nat) (positive : 0 < d) (positive' : 0 < c) :
    divTiesEven (n * c) (d * c) = divTiesEven n d := by
  have scaled : 0 < d * c := Nat.mul_pos positive positive'
  have same : n * c * d = n * (d * c) := by rw [Nat.mul_assoc, Nat.mul_comm c d]
  exact Nat.le_antisymm (divTiesEven_mono scaled positive same.le)
    (divTiesEven_mono positive scaled same.ge)

/-- A power of two passes through the rounding of what is `2 ^ 52` units or more. -/
theorem roundUnits_mul_pow (positive : 0 < d) (large : 2 ^ 52 * d ≤ n) (s : Nat) :
    roundUnits (n * 2 ^ s) d = roundUnits n d * 2 ^ s := by
  obtain ⟨t, least, most⟩ : ∃ t, 2 ^ (52 + t) ≤ n / d ∧ n / d < 2 ^ (53 + t) := by
    have whole : 2 ^ 52 ≤ n / d := (Nat.le_div_iff_mul_le positive).mpr large
    have nonzero : n / d ≠ 0 := (Nat.lt_of_lt_of_le (Nat.two_pow_pos _) whole).ne'
    obtain ⟨t, log⟩ := Nat.exists_eq_add_of_le ((Nat.le_log2 nonzero).mpr whole)
    have next : 53 + t = (n / d).log2 + 1 := by omega
    exact ⟨t, log ▸ Nat.log2_self_le nonzero, next ▸ Nat.lt_log2_self⟩
  rw [Nat.le_div_iff_mul_le positive] at least
  rw [Nat.div_lt_iff_lt_mul positive] at most
  have power : 0 < 2 ^ s := Nat.two_pow_pos s
  have least' : 2 ^ (52 + (t + s)) * d ≤ n * 2 ^ s := by
    calc 2 ^ (52 + (t + s)) * d = 2 ^ (52 + t) * d * 2 ^ s := by ring
      _ ≤ n * 2 ^ s := Nat.mul_le_mul_right _ least
  have most' : n * 2 ^ s < 2 ^ (53 + (t + s)) * d := by
    calc n * 2 ^ s < 2 ^ (53 + t) * d * 2 ^ s := Nat.mul_lt_mul_of_pos_right most power
      _ = 2 ^ (53 + (t + s)) * d := by ring
  have steps : d * 2 ^ (t + s) = d * 2 ^ t * 2 ^ s := by ring
  rw [roundUnits_eq positive least' most', roundUnits_eq positive least most, steps,
    divTiesEven_mul_mul n (Nat.mul_pos positive (Nat.two_pow_pos t)) power]
  ring

end Scale

-- so that no tactic computes them
attribute [local irreducible] unitsPerOne unitsOverflow

/-! ## Doubles without a minus -/

/-- The order of the doubles that have no minus; an overflow is above all others. -/
inductive AtMost : Binary64 → Binary64 → Prop
  | finite {u v : Nat} : u ≤ v → AtMost (.finite false u) (.finite false v)
  | overflow {u : Nat} : AtMost (.finite false u) (.infinite false)
  | infinite : AtMost (.infinite false) (.infinite false)

theorem AtMost.trans (left : AtMost x y) (right : AtMost y a) : AtMost x a := by
  cases left with
  | finite order =>
      cases right with
      | finite order' => exact .finite (Nat.le_trans order order')
      | overflow => exact .overflow
  | overflow =>
      cases right
      exact .overflow
  | infinite =>
      cases right
      exact .infinite

theorem AtMost.refl_left (order : AtMost x y) : AtMost x x := by
  cases order with
  | finite => exact .finite (Nat.le_refl _)
  | overflow => exact .finite (Nat.le_refl _)
  | infinite => exact .infinite

theorem AtMost.refl_right (order : AtMost x y) : AtMost y y := by
  cases order with
  | finite => exact .finite (Nat.le_refl _)
  | overflow => exact .infinite
  | infinite => exact .infinite

/-- Numbers without a minus are at most an overflow. -/
theorem atMost_infinite (number : x ≠ .nan) (unsigned : x.isNegative = false) :
    AtMost x (.infinite false) := by
  cases x with
  | nan => exact absurd rfl number
  | infinite negative =>
      cases unsigned
      exact .infinite
  | finite negative u =>
      cases unsigned
      exact .overflow

theorem AtMost.left_unsigned (order : AtMost x y) : x.isNegative = false := by
  cases order <;> rfl

theorem AtMost.right_unsigned (order : AtMost x y) : y.isNegative = false := by
  cases order <;> rfl

theorem ofQuotient_mono (positive : 0 < d) (positive' : 0 < d') (order : n * d' ≤ n' * d) :
    AtMost (ofQuotient false n d) (ofQuotient false n' d') := by
  have units := roundUnits_mono positive positive' order
  by_cases small' : roundUnits n' d' < unitsOverflow
  · rw [ofQuotient, ofQuotient, if_pos small', if_pos (Nat.lt_of_le_of_lt units small')]
    exact .finite units
  · rw [ofQuotient.eq_def false n', if_neg small']
    exact atMost_infinite (ofQuotient_ne_nan _ _ _) (isNegative_ofQuotient _ _ _)

/-- A product with an overflow is an overflow if it is a number. -/
theorem mul_eq_infinite (number : x.mul y ≠ .nan) (left : x.isNegative = false)
    (right : y.isNegative = false) (overflow : x = .infinite false ∨ y = .infinite false) :
    x.mul y = .infinite false := by
  fun_cases mul x y
  all_goals simp_all [mul]

/-- **Products keep the order**, where they are numbers: zero times an overflow is none. -/
theorem AtMost.mul (left : AtMost x x') (right : AtMost y y') (number : x.mul y ≠ .nan)
    (number' : x'.mul y' ≠ .nan) : AtMost (x.mul y) (x'.mul y') := by
  by_cases overflow : x' = .infinite false ∨ y' = .infinite false
  · rw [mul_eq_infinite number' left.right_unsigned right.right_unsigned overflow]
    exact atMost_infinite number (isNegative_mul left.left_unsigned right.left_unsigned)
  · obtain ⟨finite, finite'⟩ := not_or.mp overflow
    cases left with
    | overflow => exact absurd rfl finite
    | infinite => exact absurd rfl finite
    | finite order =>
        cases right with
        | overflow => exact absurd rfl finite'
        | infinite => exact absurd rfl finite'
        | finite order' =>
            exact ofQuotient_mono unitsPerOne_pos unitsPerOne_pos
              (Nat.mul_le_mul_right _ (Nat.mul_le_mul order order'))

/-- **Quotients keep the order** of what is divided and turn round that of what divides, as long as
nothing overflows. -/
theorem AtMost.div (left : AtMost x x') (right : AtMost y' y) (unsigned : x'.Unsigned)
    (unsigned' : y.Unsigned) (positive : 0 < y'.size) : AtMost (x.div y) (x'.div y') := by
  obtain ⟨u', rfl⟩ := unsigned
  obtain ⟨v, rfl⟩ := unsigned'
  cases left with
  | @finite u _ order =>
      cases right with
      | @finite v' _ order' =>
          have nonzero' : 0 < v' := units_pos positive
          have nonzero : 0 < v := Nat.lt_of_lt_of_le nonzero' order'
          rw [Binary64.div, Binary64.div, if_neg nonzero.ne', if_neg nonzero'.ne']
          refine ofQuotient_mono nonzero nonzero' ?_
          calc u * unitsPerOne * v' ≤ u' * unitsPerOne * v' :=
                Nat.mul_le_mul_right _ (Nat.mul_le_mul_right _ order)
            _ ≤ u' * unitsPerOne * v := Nat.mul_le_mul_left _ order'

theorem ofNat_mono (order : n ≤ n') : AtMost (ofNat n) (ofNat n') :=
  ofQuotient_mono Nat.one_pos Nat.one_pos (Nat.mul_le_mul_right _ (Nat.mul_le_mul_right _ order))

/-- Rounding to a whole number keeps the order. -/
theorem AtMost.round (order : AtMost x y) : AtMost x.round y.round := by
  cases order with
  | finite atMost =>
      refine .finite (Nat.mul_le_mul_right _ (Nat.div_le_div_right ?_))
      omega
  | overflow => exact .overflow
  | infinite => exact .infinite

theorem toNatSaturating_le (limit : Nat) (x : Binary64) : x.toNatSaturating limit ≤ limit := by
  fun_cases toNatSaturating limit x
  all_goals omega

/-- The whole parts within a limit are in order; an overflow counts as the limit. -/
theorem AtMost.toNatSaturating_le_toNatSaturating (order : AtMost x y) (limit : Nat) :
    x.toNatSaturating limit ≤ y.toNatSaturating limit := by
  cases order with
  | finite atMost =>
      exact min_le_min_right limit (Nat.div_le_div_right atMost)
  | overflow => exact Nat.min_le_right _ _
  | infinite => exact Nat.le_refl _

/-! ## Doubles of one or more -/

theorem atMost_one_iff : AtMost one x ↔ AtLeast 0 x := by
  constructor
  · intro order
    cases order with
    | finite large => exact .inr ⟨_, rfl, by rwa [Nat.pow_zero, Nat.one_mul]⟩
    | overflow => exact .inl rfl
  · rintro (rfl | ⟨u, rfl, large⟩)
    · exact .overflow
    · rw [Nat.pow_zero, Nat.one_mul] at large
      exact .finite large

theorem AtLeast.ne_nan (large : AtLeast m x) : x ≠ .nan := by
  rcases large with rfl | ⟨u, rfl, -⟩ <;> exact Binary64.noConfusion

theorem AtMost.one_mul_one (left : AtMost one x) (right : AtMost one y) : AtMost one (x.mul y) :=
  atMost_one_iff.mpr ((atMost_one_iff.mp left).mul (atMost_one_iff.mp right))

/-- Products of doubles of one or more keep the order. -/
theorem AtMost.mul_large (left : AtMost x x') (right : AtMost y y') (large : AtMost one x)
    (large' : AtMost one y) : AtMost (x.mul y) (x'.mul y') :=
  left.mul right (atMost_one_iff.mp (large.one_mul_one large')).ne_nan
    (atMost_one_iff.mp ((large.trans left).one_mul_one (large'.trans right))).ne_nan

/-- The value is a double: one of those that rounding gives. -/
def IsRounded : Binary64 → Prop
  | .finite _ u => IsDouble u ∧ u < unitsOverflow
  | _ => True

theorem isRounded_ofQuotient (negative : Bool) (n : Nat) (positive : 0 < d) :
    (ofQuotient negative n d).IsRounded := by
  rw [ofQuotient]
  split
  · next small => exact ⟨isDouble_roundUnits n positive, small⟩
  · exact trivial

theorem isRounded_one : one.IsRounded := by
  have few : 1 ≤ 2 ^ 53 := Nat.one_le_two_pow
  have isDouble := isDouble_whole few
  have small := whole_lt_unitsOverflow few
  rw [Nat.one_mul] at isDouble small
  exact ⟨isDouble, small⟩

theorem isRounded_mul (x y : Binary64) : (x.mul y).IsRounded := by
  fun_cases mul x y
  case case8 => exact isRounded_ofQuotient _ _ unitsPerOne_pos
  all_goals exact trivial

theorem one_mul_eq (rounded : x.IsRounded) : one.mul x = x := by
  cases x with
  | nan => rfl
  | infinite negative =>
      rw [one, mul, if_neg unitsPerOne_pos.ne', Bool.false_bne]
  | finite negative u =>
      obtain ⟨isDouble, small⟩ := rounded
      rw [one, mul, Bool.false_bne, Nat.mul_comm, ofQuotient, isDouble.roundUnits_eq unitsPerOne_pos]
      exact if_pos small

/-- A double is not above its product with one or more. -/
theorem AtMost.le_mul (order : AtMost x x') (rounded : x.IsRounded) (large : AtMost one x)
    (large' : AtMost one y) : AtMost x (y.mul x') := by
  have product := large'.mul_large order large'.refl_left large
  rwa [one_mul_eq rounded] at product

/-! ## Powers -/

theorem powLoop_zero (base acc : Binary64) : powLoop base acc 0 = acc := by
  rw [powLoop]
  rfl

theorem powLoop_even (base acc : Binary64) (n : Nat) :
    powLoop base acc (2 * n) = powLoop (base.mul base) acc n := by
  rw [powLoop]
  simp only [Nat.mul_mod_right, Nat.mul_div_cancel_left n Nat.two_pos, Nat.zero_ne_one, if_false]
  split
  · next done => rw [done, powLoop_zero]
  · rfl

theorem powLoop_odd (base acc : Binary64) (n : Nat) :
    powLoop base acc (2 * n + 1) = powLoop (base.mul base) (acc.mul base) n := by
  have odd : (2 * n + 1) % 2 = 1 := by omega
  have half : (2 * n + 1) / 2 = n := by omega
  rw [powLoop, half, if_pos odd]
  split
  · next done => rw [done, powLoop_zero]
  · rfl

/-- What repeated squaring has gathered from the digits before the next one: a double of one or more,
not above the square that the next digit stands for. -/
structure Gathered (base acc : Binary64) : Prop where
  rounded : acc.IsRounded
  one_le : AtMost one acc
  le_base : AtMost acc base

namespace Gathered

theorem large (gathered : Gathered base a) : AtMost one base := gathered.one_le.trans gathered.le_base

/-- The next digit is zero. -/
theorem skip (gathered : Gathered base a) : Gathered (base.mul base) a :=
  ⟨gathered.rounded, gathered.one_le,
    gathered.le_base.le_mul gathered.rounded gathered.one_le gathered.large⟩

/-- The next digit is one. -/
theorem take (gathered : Gathered base a) : Gathered (base.mul base) (a.mul base) :=
  ⟨isRounded_mul a base, gathered.one_le.one_mul_one gathered.large,
    gathered.le_base.mul_large gathered.large.refl_right gathered.one_le gathered.large⟩

end Gathered

/-- **Repeated squaring keeps the order** of the exponents, and of what was gathered if they are equal. -/
theorem powLoop_mono (gathered : Gathered base a) (gathered' : Gathered base a')
    (order : m < n ∨ m = n ∧ AtMost a a') : AtMost (powLoop base a m) (powLoop base a' n) := by
  induction n using Nat.strongRecOn generalizing base a a' m with
  | ind n ih =>
      rcases Nat.eq_zero_or_pos n with rfl | positive
      · obtain ⟨rfl, order⟩ := order.resolve_left (Nat.not_lt_zero m)
        rwa [powLoop_zero, powLoop_zero]
      · obtain ⟨i, rfl | rfl⟩ := Nat.even_or_odd' m
        all_goals obtain ⟨j, rfl | rfl⟩ := Nat.even_or_odd' n
        · -- the digits are equal, both zero
          rw [powLoop_even, powLoop_even]
          refine ih j (by omega) gathered.skip gathered'.skip ?_
          exact order.imp (by omega) fun ⟨same, order⟩ => ⟨by omega, order⟩
        · -- the larger exponent has the larger digit
          rw [powLoop_even, powLoop_odd]
          refine ih j (by omega) gathered.skip gathered'.take ?_
          have next : AtMost a (a'.mul base) :=
            gathered.le_base.le_mul gathered.rounded gathered.one_le gathered'.one_le
          rcases Nat.lt_or_ge i j with less | least
          · exact .inl less
          · exact .inr ⟨by omega, next⟩
        · -- the smaller exponent has the larger digit, so the rest of it is smaller
          rw [powLoop_odd, powLoop_even]
          exact ih j (by omega) gathered.take gathered'.skip (.inl (by omega))
        · rw [powLoop_odd, powLoop_odd]
          refine ih j (by omega) gathered.take gathered'.take ?_
          refine order.imp (by omega) fun ⟨same, order⟩ => ⟨by omega, ?_⟩
          exact order.mul_large gathered.large.refl_right gathered.one_le gathered.large

/-! ## Whole exponents -/

/-- Reciprocals turn the order round. -/
theorem AtMost.one_div (order : AtMost x y) (large : AtMost one x) :
    AtMost (one.div y) (one.div x) := by
  cases large with
  | overflow =>
      cases order
      exact .finite (Nat.le_refl _)
  | @finite _ u atLeast =>
      have positive : 0 < u := Nat.lt_of_lt_of_le unitsPerOne_pos atLeast
      have rounded : one.div (.finite false u) = ofQuotient false (unitsPerOne * unitsPerOne) u :=
        if_neg positive.ne'
      rw [rounded]
      cases order with
      | overflow =>
          rw [ofQuotient]
          split
          · exact .finite (Nat.zero_le _)
          · exact .overflow
      | @finite _ v more =>
          have positive' : 0 < v := Nat.lt_of_lt_of_le positive more
          have rounded' : one.div (.finite false v) = ofQuotient false (unitsPerOne * unitsPerOne) v :=
            if_neg positive'.ne'
          rw [rounded']
          exact ofQuotient_mono positive' positive (Nat.mul_le_mul_left _ more)

theorem one_div_one : one.div one = one := by
  obtain ⟨isDouble, small⟩ := isRounded_one
  have rounded : one.div one = ofQuotient false (unitsPerOne * unitsPerOne) unitsPerOne :=
    if_neg unitsPerOne_pos.ne'
  rw [rounded, ofQuotient, isDouble.roundUnits_eq unitsPerOne_pos]
  exact if_pos small

/-- **Powers of one or more grow with their exponent**, also over the reciprocals. -/
theorem AtMost.powi {e f : Int} (large : AtMost one base) (order : e ≤ f) :
    AtMost (base.powi e) (base.powi f) := by
  have gathered : Gathered base one := ⟨isRounded_one, large.refl_left, large⟩
  have grows : ∀ {m n : Nat}, m ≤ n → AtMost (powLoop base one m) (powLoop base one n) := by
    intro m n order
    refine powLoop_mono gathered gathered ?_
    exact (Nat.lt_or_eq_of_le order).imp_right fun same => ⟨same, large.refl_left⟩
  have least : ∀ n, AtMost one (powLoop base one n) := by
    intro n
    have first := grows (Nat.zero_le n)
    rwa [powLoop_zero] at first
  rw [Binary64.powi, Binary64.powi]
  by_cases negative : e < 0
  · rw [if_pos negative]
    by_cases negative' : f < 0
    · rw [if_pos negative']
      exact (grows (by omega)).one_div (least _)
    · rw [if_neg negative']
      have small := (least e.natAbs).one_div large.refl_left
      rw [one_div_one] at small
      exact small.trans (least _)
  · rw [if_neg negative, if_neg (by omega)]
    exact grows (by omega)

end StartupGate.Binary64

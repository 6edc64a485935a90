/-
# StartupGate.Proofs.Number.Decimal -- decimals in digits and a point

A text of digits with at most one point is read as the decimal that it writes (`read?_number`), and its value is
the double nearest to that: the bounds at which a reader may stop early are never reached by
decimals that are not tiny (`toBinary64_eq_ofQuotient`).
-/
import Mathlib.Algebra.Group.Nat.Defs
import Mathlib.Data.List.TakeWhile
import StartupGate.Number.Decimal

set_option autoImplicit false

namespace StartupGate

variable {c : Char} {cs rest whole fraction : List Char} {digits places : Nat} {negative : Bool}

namespace Decimal

/-! ## Reading -/

theorem readUnsigned_whole (written : ∀ c ∈ whole, c.isDigit = true) (some' : whole ≠ []) :
    readUnsigned negative whole = some ⟨negative, ofDigits whole, 0⟩ := by
  have all : whole.takeWhile Char.isDigit = whole := List.takeWhile_eq_self_iff.mpr written
  have rest : whole.dropWhile Char.isDigit = [] := List.dropWhile_eq_nil_iff.mpr written
  simp [readUnsigned, all, rest, some', readExponent]

theorem readUnsigned_point (written : ∀ c ∈ whole ++ fraction, c.isDigit = true)
    (some' : whole ++ fraction ≠ []) : readUnsigned negative (whole ++ '.' :: fraction) =
      some ⟨negative, ofDigits (whole ++ fraction), -(fraction.length : Int)⟩ := by
  obtain ⟨before, behind⟩ := List.forall_mem_append.mp written
  have all : (whole ++ '.' :: fraction).takeWhile Char.isDigit = whole := by
    rw [List.takeWhile_append_of_pos before, List.takeWhile_cons_of_neg (by decide), List.append_nil]
  have rest : (whole ++ '.' :: fraction).dropWhile Char.isDigit = '.' :: fraction := by
    rw [List.dropWhile_append_of_pos before, List.dropWhile_cons_of_neg (by decide)]
  have all' : fraction.takeWhile Char.isDigit = fraction := List.takeWhile_eq_self_iff.mpr behind
  have rest' : fraction.dropWhile Char.isDigit = [] := List.dropWhile_eq_nil_iff.mpr behind
  have one : ¬ (whole = [] ∧ fraction = []) := by simpa using some'
  simp [readUnsigned, all, rest, all', rest', one, readExponent]

/-- Digits, points and plus signs write no word. -/
theorem toLower_ne_n (plain : c.isDigit = true ∨ c = '.' ∨ c = '+') : c.toLower ≠ 'n' := by
  rcases plain with digit | rfl | rfl
  · have small : ¬ (c.val ≥ 'A'.val ∧ c.val ≤ 'Z'.val) := by
      obtain ⟨-, last⟩ : 48 ≤ c.toNat ∧ c.toNat ≤ 57 := Char.isDigit_iff_toNat.mp digit
      rintro ⟨upper, -⟩
      have first : 65 ≤ c.toNat := upper
      omega
    have same : c.toLower = c := dif_neg small
    rw [same]
    rintro rfl
    exact absurd digit (by decide)
  · decide
  · decide

/-- Without an exponent only digits with at most one point are read, and at least one digit. -/
theorem exists_digits_of_readUnsigned {d : Decimal} (noExponent : ∀ c ∈ cs, c ≠ 'e' ∧ c ≠ 'E')
    (read : readUnsigned negative cs = some d) : ∃ (whole : List Char) (fraction : Option (List Char)),
      cs = whole ++ fraction.elim [] (List.cons '.') ∧ whole ++ fraction.getD [] ≠ [] ∧
      ∀ c ∈ whole ++ fraction.getD [], c.isDigit = true := by
  have ended : ∀ {tail : List Char}, (∀ c ∈ tail, c ∈ cs) → (∃ e, readExponent tail = some e) → tail = [] := by
    rintro tail within ⟨e, read⟩
    cases tail with
    | nil => rfl
    | cons c rest =>
        obtain ⟨lower, upper⟩ := noExponent c (within c List.mem_cons_self)
        simp [readExponent, lower, upper] at read
  have parts : cs.takeWhile Char.isDigit ++ cs.dropWhile Char.isDigit = cs := List.takeWhile_append_dropWhile
  have digits : ∀ c ∈ cs.takeWhile Char.isDigit, c.isDigit = true := fun c => List.mem_takeWhile_imp
  have behind : ∀ c ∈ cs.dropWhile Char.isDigit, c ∈ cs := (List.dropWhile_sublist _).subset
  cases shape : cs.dropWhile Char.isDigit with
  | nil =>
      rw [shape] at parts
      simp only [readUnsigned, shape, and_true, Option.ite_none_left_eq_some] at read
      exact ⟨_, none, parts.symm, by simpa using read.1, by simpa using digits⟩
  | cons x r =>
      rw [shape] at parts behind
      by_cases point : x = '.'
      · subst point
        simp only [readUnsigned, shape, Option.ite_none_left_eq_some, Option.map_eq_some_iff] at read
        obtain ⟨some', e, tail, -⟩ := read
        have whole : r.takeWhile Char.isDigit = r := by
          have within : ∀ c ∈ r.dropWhile Char.isDigit, c ∈ cs := fun c member =>
            behind c (List.mem_cons_of_mem _ ((List.dropWhile_sublist _).subset member))
          have parts' := List.takeWhile_append_dropWhile (p := Char.isDigit) (l := r)
          rwa [ended within ⟨e, tail⟩, List.append_nil] at parts'
        rw [whole] at some'
        refine ⟨_, some r, parts.symm, by simpa using some', ?_⟩
        exact List.forall_mem_append.mpr ⟨digits, List.takeWhile_eq_self_iff.mp whole⟩
      · -- something else than a point would have to be an exponent
        simp only [readUnsigned, shape, List.cons.injEq, point, false_and, imp_self, implies_true,
          Option.ite_none_left_eq_some, Option.map_eq_some_iff] at read
        obtain ⟨-, e, tail, -⟩ := read
        cases ended behind ⟨e, tail⟩

end Decimal

/-- Digits, points and plus signs behind a sign are read as a decimal. -/
theorem Binary64.read?_of_sign (sign : Decimal.takeSign cs = (negative, rest))
    (plain : ∀ c ∈ rest, c.isDigit = true ∨ c = '.' ∨ c = '+') :
    read? cs = (Decimal.readUnsigned negative rest).map Decimal.toBinary64 := by
  have noWord : ∀ word : String, 'n' ∈ word.toList → String.ofList (rest.map Char.toLower) ≠ word := by
    rintro word member rfl
    rw [String.toList_ofList, List.mem_map] at member
    obtain ⟨c, letter, same⟩ := member
    exact Decimal.toLower_ne_n (plain c letter) same
  have inf := noWord "inf" (by decide)
  have infinity := noWord "infinity" (by decide)
  have nan := noWord "nan" (by decide)
  rw [read?, sign]
  simp only [inf, infinity, nan, or_self, if_false]

/-- **A number of digits and points, with a plus or without, is read for its digits.** -/
theorem Binary64.read?_number (plus : Bool) (plain : ∀ c ∈ cs, c.isDigit = true ∨ c = '.') :
    read? ((if plus then ['+'] else []) ++ cs) =
      (Decimal.readUnsigned false cs).map Decimal.toBinary64 := by
  have sign : Decimal.takeSign ((if plus then ['+'] else []) ++ cs) = (false, cs) := by
    cases plus with
    | true => rfl
    | false =>
        change Decimal.takeSign cs = (false, cs)
        unfold Decimal.takeSign
        split
        · exact absurd (plain '+' List.mem_cons_self) (by decide)
        · exact absurd (plain '-' List.mem_cons_self) (by decide)
        · rfl
  exact read?_of_sign sign fun c member => (plain c member).imp_right .inl

namespace Decimal

/-! ## The nearest double -/

/-- **The value is the nearest double** of a decimal that is no less than `2 ^ -200`. -/
theorem toBinary64_eq_ofQuotient (some' : digits ≠ 0) (large : 10 ^ places ≤ digits * 2 ^ 200) :
    toBinary64 ⟨negative, digits, -(places : Int)⟩ =
      .ofQuotient negative (digits * Binary64.unitsPerOne) (10 ^ places) := by
  have notLarge : ¬ overflowExponent < -(places : Int) := by
    rw [overflowExponent]
    omega
  have notTiny : ¬ -(places : Int) + (digits.log2 : Int) < underflowExponent := by
    have power : 2 ^ places < 2 ^ (digits.log2 + 1 + 200) := by
      calc 2 ^ places ≤ 10 ^ places := Nat.pow_le_pow_left (by decide) places
        _ ≤ digits * 2 ^ 200 := large
        _ < 2 ^ (digits.log2 + 1) * 2 ^ 200 :=
          Nat.mul_lt_mul_of_pos_right Nat.lt_log2_self (Nat.two_pow_pos _)
        _ = 2 ^ (digits.log2 + 1 + 200) := (Nat.pow_add 2 _ _).symm
    have few := (Nat.pow_lt_pow_iff_right Nat.one_lt_two).mp power
    rw [underflowExponent]
    omega
  rw [toBinary64]
  simp only [some', notLarge, notTiny, if_false]
  split
  · next none' =>
      obtain rfl : places = 0 := by omega
      simp
  · rw [Int.neg_neg, Int.toNat_natCast]
    rfl

end Decimal

end StartupGate

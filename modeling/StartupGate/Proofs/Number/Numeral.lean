/-
# StartupGate.Proofs.Number.Numeral -- the texts that write a whole number

A numeral of a number is its decimal digits, at least one, with any zeros in front (`Integer.Numeral`).
A reader of whole numbers takes the numerals of the numbers within its limit and nothing else:

* `readSize_eq_ok_iff`: without a sign;
* `readUnsigned_eq_ok_iff`: with at most one plus in front (`Integer.PlusNumeral`).
-/
import Mathlib.Data.List.Induction
import Mathlib.Data.Nat.Digits.Defs
import StartupGate.Proofs.Number.Integer

set_option autoImplicit false

namespace StartupGate.Integer

variable {acc limit n : Nat} {overflow : IntegerError} {c : Char} {cs : List Char}

/-- The text is digits and stands for the number. -/
structure Numeral (cs : List Char) (n : Nat) : Prop where
  some' : cs ≠ []
  digits : ∀ c ∈ cs, c.isDigit = true
  value : Nat.ofDigits 10 (cs.map Decimal.digitValue).reverse = n

/-- A numeral with at most one plus in front. -/
def PlusNumeral (cs : List Char) (n : Nat) : Prop :=
  Numeral cs n ∨ ∃ digits, cs = '+' :: digits ∧ Numeral digits n

/-- Reading digits from the left gives the number that they stand for by their places. -/
theorem ofDigits_eq (cs : List Char) :
    Decimal.ofDigits cs = Nat.ofDigits 10 (cs.map Decimal.digitValue).reverse := by
  induction cs using List.reverseRecOn with
  | nil => rfl
  | append_singleton before c ih =>
      rw [ofDigits_concat, ih, List.map_append, List.map_singleton, List.reverse_append,
        List.reverse_singleton, List.singleton_append, Nat.ofDigits_cons]
      omega

theorem numeral_iff :
    Numeral cs n ↔ cs ≠ [] ∧ (∀ c ∈ cs, c.isDigit = true) ∧ Decimal.ofDigits cs = n := by
  rw [ofDigits_eq]
  constructor
  · rintro ⟨some', digits, value⟩
    exact ⟨some', digits, value⟩
  · rintro ⟨some', digits, value⟩
    exact ⟨some', digits, value⟩

theorem Numeral.notMem (numeral : Numeral cs n) (sign : c.isDigit = false) : c ∉ cs := by
  intro member
  rw [numeral.digits c member] at sign
  cases sign

/-! ## Readers -/

/-- Digits are read to the end exactly if all of them are digits and the limit is not passed. -/
theorem readDigits_eq_ok_iff (fits : acc ≤ limit) : readDigits limit overflow acc cs = .ok n ↔
    (∀ c ∈ cs, c.isDigit = true) ∧ Decimal.foldDigits acc cs = n ∧ n ≤ limit := by
  constructor
  · intro read
    induction cs generalizing acc with
    | nil =>
        cases read
        exact ⟨by simp, rfl, fits⟩
    | cons c rest ih =>
        rw [readDigits] at read
        split at read
        · next isDigit =>
            simp only at read
            split at read
            · next next' =>
                obtain ⟨digits, value, most⟩ := ih next' read
                exact ⟨List.forall_mem_cons.mpr ⟨isDigit, digits⟩, value, most⟩
            · cases read
        · cases read
  · rintro ⟨digits, rfl, most⟩
    exact readDigits_eq_ok digits most

/-- **Without a sign the numerals within the limit are read.** -/
theorem readSize_eq_ok_iff : readSize limit overflow cs = .ok n ↔ Numeral cs n ∧ n ≤ limit := by
  rw [readSize, numeral_iff]
  split
  · next none' => simp [none']
  · next some' =>
      rw [readDigits_eq_ok_iff (Nat.zero_le limit), and_iff_right some', and_assoc]
      rfl

/-- **With a plus or without, the numerals within the limit are read.** -/
theorem readUnsigned_eq_ok_iff :
    readUnsigned limit cs = .ok n ↔ PlusNumeral cs n ∧ n ≤ limit := by
  have notPlus : ∀ digits, ¬ Numeral ('+' :: digits) n :=
    fun digits numeral => numeral.notMem rfl List.mem_cons_self
  rw [PlusNumeral]
  fun_cases readUnsigned limit cs
  case case1 =>
    have notNil : ¬ Numeral [] n := fun numeral => numeral.some' rfl
    simp [notNil]
  case case2 digits => simp [notPlus, readSize_eq_ok_iff]
  case case3 some' noPlus =>
    rw [readSize_eq_ok_iff]
    have unsigned : ¬ ∃ digits, cs = '+' :: digits ∧ Numeral digits n := by
      rintro ⟨digits, plus, -⟩
      exact noPlus digits plus
    rw [or_iff_left unsigned]

theorem readUnsigned64_eq_ok_iff :
    readUnsigned maxUnsigned64 cs = .ok n ↔ PlusNumeral cs n ∧ n < 2 ^ 64 := by
  have limit : n ≤ maxUnsigned64 ↔ n < 2 ^ 64 := by
    rw [show maxUnsigned64 = 2 ^ 64 - 1 from rfl]
    omega
  rw [readUnsigned_eq_ok_iff, limit]

end StartupGate.Integer

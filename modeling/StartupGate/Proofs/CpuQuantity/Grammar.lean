/-
# StartupGate.Proofs.CpuQuantity.Grammar -- exactly the written amounts are read

A text is an amount of CPU if it is a written amount among blanks (`readMillis?_eq_some_iff`): the letters of
a number do not spell an exponent or a word, so the reader of numbers takes nothing else of them.

What an amount comes to has no minus and is a number, in every scale (`Binary64.IsAmount`).  So an amount is
refused for nothing but an overflow (`exists_millis_iff`).

* `millis_by_grammar`: which texts are read, what is refused, and where the conversion saturates.
-/
import StartupGate.Proofs.CpuQuantity.Text
import StartupGate.Proofs.Number.Deviation

set_option autoImplicit false

namespace StartupGate

-- so that no tactic computes them
attribute [local irreducible] Binary64.unitsPerOne Binary64.unitsOverflow

/-! ## Numbers without a minus -/

namespace Binary64

variable {x : Binary64} {n : Nat}

/-- A finite number without a minus, or an overflow of such numbers. -/
def IsAmount (x : Binary64) : Prop := x = .infinite false ∨ x.Unsigned

theorem isAmount_ofQuotient (n d : Nat) : (ofQuotient false n d).IsAmount := by
  rw [ofQuotient]
  split
  · exact .inr ⟨_, rfl⟩
  · exact .inl rfl

theorem isAmount_toBinary64 (digits : Nat) (exponent : Int) :
    (Decimal.toBinary64 ⟨false, digits, exponent⟩).IsAmount := by
  unfold Decimal.toBinary64
  split
  · exact .inr ⟨0, rfl⟩
  · split
    · exact .inl rfl
    · split
      · exact .inr ⟨0, rfl⟩
      · split
        · exact isAmount_ofQuotient _ _
        · exact isAmount_ofQuotient _ _

namespace IsAmount

theorem ne_nan (amount : x.IsAmount) : x ≠ .nan := by
  rcases amount with rfl | ⟨u, rfl⟩
  · simp
  · simp

theorem isBelowZero (amount : x.IsAmount) : x.isBelowZero = false := by
  rcases amount with rfl | ⟨u, rfl⟩
  · rfl
  · simp [Binary64.isBelowZero]

section Scaled

variable (amount : x.IsAmount) (positive : 0 < n) (exact : n ≤ 2 ^ 53)

include amount positive exact

theorem mul_ofNat : (x.mul (ofNat n)).IsAmount := by
  have units : n * unitsPerOne ≠ 0 := (Nat.mul_pos positive unitsPerOne_pos).ne'
  rcases amount with rfl | ⟨u, rfl⟩
  · -- an overflow stays one: the factor is not zero
    left
    rw [ofNat_eq exact, mul, if_neg units, Bool.false_bne]
  · rw [mul_ofNat_eq u exact]
    exact isAmount_ofQuotient _ _

theorem div_ofNat : (x.div (ofNat n)).IsAmount := by
  rcases amount with rfl | ⟨u, rfl⟩
  · left
    rw [ofNat_eq exact]
    rfl
  · rw [div_ofNat_eq u exact positive]
    exact isAmount_ofQuotient _ _

end Scaled

theorem round (amount : x.IsAmount) : x.round.IsAmount := by
  rcases amount with rfl | ⟨u, rfl⟩
  · exact .inl rfl
  · exact .inr ⟨_, rfl⟩

/-- Rounding up gives a whole number, unless there was an overflow. -/
theorem ceil_cases (amount : x.IsAmount) :
    x.ceil = .infinite false ∨ ∃ whole, x.ceil = .finite false (whole * unitsPerOne) := by
  rcases amount with rfl | ⟨u, rfl⟩
  · exact .inl rfl
  · exact .inr ⟨_, rfl⟩

end IsAmount

end Binary64

namespace CpuQuantity

open Binary64

variable {raw : String} {cs : List Char} {m x : Binary64} {s : Scale} {w : Written}

/-! ## In every scale -/

theorem isAmount_mul_ten {k : Nat} (few : k ≤ 12) (amount : x.IsAmount) :
    (x.mul (Scale.powerOfTen k)).IsAmount :=
  amount.mul_ofNat (Nat.pow_pos (by decide))
    ((Nat.pow_le_pow_right (by decide) few).trans (by norm_num : 10 ^ 12 ≤ 2 ^ 53))

theorem isAmount_div_ten {k : Nat} (few : k ≤ 12) (amount : x.IsAmount) :
    (x.div (Scale.powerOfTen k)).IsAmount :=
  amount.div_ofNat (Nat.pow_pos (by decide))
    ((Nat.pow_le_pow_right (by decide) few).trans (by norm_num : 10 ^ 12 ≤ 2 ^ 53))

theorem isAmount_mul_kibi (amount : x.IsAmount) : (x.mul Scale.kibiFactor).IsAmount :=
  amount.mul_ofNat (by norm_num) (by norm_num)

theorem isAmount_toMillis (s : Scale) (amount : x.IsAmount) : (s.toMillis x).IsAmount := by
  cases s with
  | nano => exact isAmount_div_ten (by norm_num) amount
  | micro => exact isAmount_div_ten (by norm_num) amount
  | milli => exact amount
  | one => exact isAmount_mul_ten (by norm_num) amount
  | kilo => exact isAmount_mul_ten (by norm_num) amount
  | mega => exact isAmount_mul_ten (by norm_num) amount
  | giga => exact isAmount_mul_ten (by norm_num) amount
  | kibi =>
      apply isAmount_mul_ten (by norm_num)
      exact isAmount_mul_kibi amount
  | mebi =>
      apply isAmount_mul_ten (by norm_num)
      apply isAmount_mul_kibi
      exact isAmount_mul_kibi amount
  | gibi =>
      apply isAmount_mul_ten (by norm_num)
      apply isAmount_mul_kibi
      apply isAmount_mul_kibi
      exact isAmount_mul_kibi amount

/-- Noise is rounded away and the rest rounded up without a minus turning up. -/
theorem ceilMillis_cases (amount : x.IsAmount) : ceilMillis x = .infinite false ∨
    ∃ whole, ceilMillis x = .finite false (whole * unitsPerOne) := by
  apply IsAmount.ceil_cases
  apply isAmount_div_ten (by norm_num)
  apply IsAmount.round
  exact isAmount_mul_ten (by norm_num) amount

/-! ## Which texts are amounts -/

/-- A text that names a scale is its suffix. -/
theorem Scale.read?_eq_some_iff : Scale.read? cs = some s ↔ cs = s.suffix.toList := by
  constructor
  · intro read
    unfold Scale.read? at read
    split at read
    all_goals
      cases read
      try rfl
  · rintro rfl
    exact s.read?_suffix

theorem ne_exponent_of_isNumberChar {c : Char} (plain : isNumberChar c = true) : c ≠ 'e' ∧ c ≠ 'E' := by
  constructor
  · rintro rfl
    exact absurd plain (by decide)
  · rintro rfl
    exact absurd plain (by decide)

/-- **What is read as a number is a plus or none, and digits with at most one point.** -/
theorem exists_number_of_read? (letters : ∀ c ∈ cs, isNumberChar c = true)
    (read : Binary64.read? cs = some x) (s : Scale) :
    ∃ w : Written, w.IsNumber ∧ w.number = cs ∧ w.scale = s := by
  obtain ⟨plus, rest, rfl, sign⟩ : ∃ (plus : Bool) (rest : List Char),
      cs = (if plus then ['+'] else []) ++ rest ∧ Decimal.takeSign cs = (false, rest) := by
    unfold Decimal.takeSign
    split
    · next rest => exact ⟨true, rest, rfl, rfl⟩
    · exact absurd (letters '-' List.mem_cons_self) (by decide)
    · exact ⟨false, cs, rfl, rfl⟩
  have behind : ∀ c ∈ rest, isNumberChar c = true := fun c member =>
    letters c (List.mem_append_right _ member)
  have plain : ∀ c ∈ rest, c.isDigit = true ∨ c = '.' ∨ c = '+' := by
    intro c member
    have letter := behind c member
    simp only [isNumberChar, Bool.or_eq_true, decide_eq_true_eq, or_assoc] at letter
    exact letter
  rw [Binary64.read?_of_sign sign plain, Option.map_eq_some_iff] at read
  obtain ⟨d, unsigned, -⟩ := read
  obtain ⟨whole, fraction, parts, some', digits⟩ := Decimal.exists_digits_of_readUnsigned
    (fun c member => ne_exponent_of_isNumberChar (behind c member)) unsigned
  refine ⟨⟨plus, whole, fraction, s⟩, ⟨some', digits⟩, ?_, rfl⟩
  rw [Written.number_eq, Written.unsigned, parts]
  cases fraction <;> rfl

/-- What an amount comes to depends on nothing but what is left of it without the blanks around it. -/
theorem readMillis?_congr {others : List Char} (same : Text.trim cs = Text.trim others) :
    readMillis? cs = readMillis? others := by
  unfold readMillis?
  rw [same]

namespace Written

/-- The double that a written amount comes to: its number in milli-CPU, rounded up. -/
def rounded (w : Written) : Binary64 :=
  ceilMillis (w.scale.toMillis (Decimal.toBinary64 ⟨false, Decimal.ofDigits w.digits, -(w.places : Int)⟩))

theorem rounded_cases (w : Written) :
    w.rounded = .infinite false ∨ ∃ whole, w.rounded = .finite false (whole * unitsPerOne) := by
  apply ceilMillis_cases
  apply isAmount_toMillis
  exact isAmount_toBinary64 _ _

theorem isAmount_rounded (w : Written) : w.rounded.IsAmount :=
  w.rounded_cases.imp_right fun ⟨_, exact⟩ => ⟨_, exact⟩

/-- The amount is written in the text, among blanks. -/
def WrittenIn (w : Written) (raw : String) : Prop := w.IsNumber ∧ Text.Encloses raw.toList w.text

theorem WrittenIn.readMillis?_eq (written : w.WrittenIn raw) : readMillis? raw.toList = some w.rounded := by
  obtain ⟨number, around⟩ := written
  have trimmed := (Text.trim_eq_iff (isWord_text number)).mpr around
  rw [← Text.trim_of_word (isWord_text number)] at trimmed
  rw [readMillis?_congr trimmed]
  exact readMillis?_text number

end Written

/-- **The amounts are exactly what is written as one.** -/
theorem readMillis?_eq_some_iff : readMillis? raw.toList = some m ↔
    ∃ w : Written, w.WrittenIn raw ∧ w.rounded = m := by
  constructor
  · intro read
    have parts := List.takeWhile_append_dropWhile (p := isNumberChar) (l := Text.trim raw.toList)
    obtain ⟨value, number, s, scale, -⟩ : ∃ value,
        Binary64.read? ((Text.trim raw.toList).takeWhile isNumberChar) = some value ∧
        ∃ s, Scale.read? ((Text.trim raw.toList).dropWhile isNumberChar) = some s ∧
          ceilMillis (s.toMillis value) = m := by
      simpa [readMillis?, Option.bind_eq_some_iff] using read
    obtain ⟨w, isNumber, front, rfl⟩ := exists_number_of_read? (fun c => List.mem_takeWhile_imp) number s
    have back := Scale.read?_eq_some_iff.mp scale
    have text : Text.trim raw.toList = w.text := by
      rw [← parts, ← front, back]
      rfl
    have written : w.WrittenIn raw := ⟨isNumber, text ▸ Text.encloses_trim raw.toList⟩
    rw [written.readMillis?_eq] at read
    exact ⟨w, written, Option.some.inj read⟩
  · rintro ⟨w, written, rfl⟩
    exact written.readMillis?_eq

/-! ## What becomes of an amount -/

/-- An amount that overflows is refused, and every other one is a whole number within 64 bits. -/
theorem Written.WrittenIn.millis_cases (written : w.WrittenIn raw) :
    w.rounded = .infinite false ∧ millis raw = .error ⟨raw⟩ ∨
      ∃ whole, w.rounded = .finite false (whole * unitsPerOne) ∧
        millis raw = .ok (min whole (2 ^ 64 - 1)) := by
  unfold millis
  rw [written.readMillis?_eq]
  rcases w.rounded_cases with overflow | ⟨whole, exact⟩
  · left
    rw [overflow]
    exact ⟨rfl, rfl⟩
  · right
    refine ⟨whole, exact, ?_⟩
    rw [exact]
    simp only [isFinite, isBelowZero, toNatSaturating, Nat.mul_div_cancel _ unitsPerOne_pos, Bool.not_true,
      Bool.false_and, Bool.or_self, Bool.false_eq_true, if_false]
    rfl

/-- What is read is an amount that is written in the text. -/
theorem exists_writtenIn_of_millis {n : Nat} (read : millis raw = .ok n) : ∃ w : Written, w.WrittenIn raw := by
  unfold millis at read
  split at read
  · cases read
  · next m found =>
      obtain ⟨w, written, -⟩ := readMillis?_eq_some_iff.mp found
      exact ⟨w, written⟩

/-- **Only an overflow is refused of what is written.** -/
theorem exists_millis_iff : (∃ n, millis raw = .ok n) ↔
    ∃ w : Written, w.WrittenIn raw ∧ w.rounded.isFinite = true := by
  constructor
  · rintro ⟨n, read⟩
    obtain ⟨w, written⟩ := exists_writtenIn_of_millis read
    refine ⟨w, written, ?_⟩
    rcases written.millis_cases with ⟨-, refused⟩ | ⟨whole, exact, -⟩
    · rw [refused] at read
      cases read
    · rw [exact]
      rfl
  · rintro ⟨w, written, finite⟩
    rcases written.millis_cases with ⟨overflow, -⟩ | ⟨whole, -, read⟩
    · rw [overflow] at finite
      cases finite
    · exact ⟨_, read⟩

/-- A text that is refused is in the error as it was given. -/
theorem eq_of_millis_eq_error {cause : Invalid} (refused : millis raw = .error cause) : cause = ⟨raw⟩ := by
  unfold millis at refused
  split at refused
  · cases refused
    rfl
  · split at refused
    · cases refused
      rfl
    · cases refused

/-- **Exactly the written amounts that do not overflow are read.**  An amount is written as a plus or none,
digits with at most one point and at least one digit, and the suffix of a scale, with nothing but blanks around
it.

* It is read if and only if the double that it comes to is finite.
* A text that is refused is in the error as it was given.
* The double is always a number and never has a minus, so it is not refused for either.
* It is whole, and the answer is that whole number, or the largest of 64 bits if it is beyond. -/
theorem millis_by_grammar (raw : String) :
    ((∃ n, millis raw = .ok n) ↔
      ∃ w : Written, w.IsNumber ∧ Text.Encloses raw.toList w.text ∧ w.rounded.isFinite = true) ∧
    (∀ cause, millis raw = .error cause → cause = ⟨raw⟩) ∧
    (∀ m, readMillis? raw.toList = some m → m ≠ .nan ∧ m.isBelowZero = false) ∧
    ∀ w : Written, w.IsNumber → Text.Encloses raw.toList w.text → w.rounded.isFinite = true →
      ∃ whole, w.rounded = .finite false (whole * unitsPerOne) ∧
        millis raw = .ok (if whole < 2 ^ 64 then whole else 2 ^ 64 - 1) := by
  refine ⟨?_, fun cause => eq_of_millis_eq_error, ?_, ?_⟩
  · rw [exists_millis_iff]
    simp only [Written.WrittenIn, and_assoc]
  · intro m read
    obtain ⟨w, -, rfl⟩ := readMillis?_eq_some_iff.mp read
    exact ⟨w.isAmount_rounded.ne_nan, w.isAmount_rounded.isBelowZero⟩
  · intro w number around finite
    have written : w.WrittenIn raw := ⟨number, around⟩
    rcases written.millis_cases with ⟨overflow, -⟩ | ⟨whole, exact, read⟩
    · rw [overflow] at finite
      cases finite
    · refine ⟨whole, exact, ?_⟩
      have saturated : min whole (2 ^ 64 - 1) = if whole < 2 ^ 64 then whole else 2 ^ 64 - 1 := by
        split <;> omega
      rw [read, saturated]

/-- Billions of times more than 64 bits hold, with a plus, a point at the end and blanks around it. -/
theorem millis_by_grammar_saturated :
    let raw := "\u3000+99999999999999999.Gi\n"
    let w : Written := ⟨true, "99999999999999999".toList, some [], .gibi⟩
    w.IsNumber ∧ Text.Encloses raw.toList w.text ∧ w.rounded.isFinite = true ∧
      millis raw = .ok 18446744073709551615 := by
  intro raw w
  have number : w.IsNumber := ⟨by decide, List.all_eq_true.mp (by decide)⟩
  have around : Text.Encloses raw.toList w.text := by
    have blank : ∀ c ∈ ['\u3000'], Text.isBlank c = true := List.all_eq_true.mp (by decide)
    have blank' : ∀ c ∈ ['\n'], Text.isBlank c = true := List.all_eq_true.mp (by decide)
    exact ⟨['\u3000'], ['\n'], by decide, blank, blank'⟩
  have value : w.rounded = .finite false (107374182400000000000000000000 * unitsPerOne) := by decide +kernel
  have finite : w.rounded.isFinite = true := by
    rw [value]
    rfl
  obtain ⟨-, -, -, accepted⟩ := millis_by_grammar raw
  obtain ⟨whole, exact, read⟩ := accepted w number around finite
  have beyond : whole = 107374182400000000000000000000 := by
    obtain ⟨-, units⟩ := Binary64.finite.inj (exact.symm.trans value)
    exact Nat.eq_of_mul_eq_mul_right unitsPerOne_pos units
  rw [beyond] at read
  exact ⟨number, around, finite, read⟩

end CpuQuantity

end StartupGate

/-
# StartupGate.Proofs.CpuQuantity.Text -- a written amount falls into its parts

The characters of a number and those of a scale are different ones, and none is blank.  So the reader cuts a
written amount where its number ends, and reads both parts for what they are
(`Written.readMillis?_text`).
-/
import StartupGate.CpuQuantity.Written
import StartupGate.Proofs.Number.Decimal
import StartupGate.Proofs.Text.Blank

set_option autoImplicit false

namespace StartupGate.CpuQuantity

variable {c : Char} {cs : List Char} {w : Written}

/-! ## Characters -/

theorem isBlank_of_isNumberChar (plain : isNumberChar c = true) : Text.isBlank c = false := by
  simp only [isNumberChar, Bool.or_eq_true, decide_eq_true_eq] at plain
  rcases plain with (digit | rfl) | rfl
  · obtain ⟨first, last⟩ : 48 ≤ c.toNat ∧ c.toNat ≤ 57 := Char.isDigit_iff_toNat.mp digit
    simp only [Text.isBlank, Text.blankRanges, List.any_cons, List.any_nil, Bool.or_false,
      Bool.or_eq_false_iff, Bool.and_eq_false_iff, decide_eq_false_iff_not]
    omega
  · decide
  · decide

namespace Scale

/-- The suffix of a scale names it. -/
theorem read?_suffix (s : Scale) : read? s.suffix.toList = some s := by cases s <;> rfl

/-- No suffix begins like a number. -/
theorem takeWhile_suffix (s : Scale) : s.suffix.toList.takeWhile isNumberChar = [] := by
  cases s <;> decide

theorem dropWhile_suffix (s : Scale) :
    s.suffix.toList.dropWhile isNumberChar = s.suffix.toList := by
  cases s <;> decide

theorem isBlank_of_mem_suffix (s : Scale) : ∀ c ∈ s.suffix.toList, Text.isBlank c = false := by
  have none' : s.suffix.toList.any Text.isBlank = false := by cases s <;> decide
  intro c member
  exact Bool.eq_false_iff.mpr (List.any_eq_false.mp none' c member)

end Scale

namespace Written

/-! ## The number -/

/-- The digits of the number with the point between them. -/
def unsigned (w : Written) : List Char :=
  w.whole ++ match w.fraction with
    | some fraction => '.' :: fraction
    | none => []

theorem number_eq (w : Written) : w.number = (if w.plus then ['+'] else []) ++ w.unsigned :=
  List.append_assoc _ _ _

theorem plain_of_mem_unsigned (number : w.IsNumber) :
    ∀ c ∈ w.unsigned, c.isDigit = true ∨ c = '.' := by
  intro c member
  have written := number.2 c
  rw [unsigned, List.mem_append] at member
  rw [digits, List.mem_append] at written
  rcases member with whole | behind
  · exact .inl (written (.inl whole))
  · cases point : w.fraction with
    | none => simp [point] at behind
    | some fraction =>
        simp only [point, Option.getD_some, List.mem_cons] at behind written
        exact behind.elim .inr fun digit => .inl (written (.inr digit))

theorem isNumberChar_of_mem_number (number : w.IsNumber) :
    ∀ c ∈ w.number, isNumberChar c = true := by
  intro c member
  rw [number_eq, List.mem_append] at member
  rcases member with sign | plain
  · split at sign
    · rw [List.mem_singleton.mp sign]
      rfl
    · cases sign
  · rcases plain_of_mem_unsigned number c plain with digit | rfl
    · simp only [isNumberChar, digit, Bool.true_or]
    · rfl

/-- **The number is read as the decimal of its digits.** -/
theorem read?_number (number : w.IsNumber) : Binary64.read? w.number =
    some (Decimal.toBinary64 ⟨false, Decimal.ofDigits w.digits, -(w.places : Int)⟩) := by
  rw [number_eq, Binary64.read?_number w.plus (plain_of_mem_unsigned number)]
  obtain ⟨some', written⟩ := number
  cases point : w.fraction with
  | none =>
      simp only [digits, point, Option.getD_none, List.append_nil] at some' written
      simp [unsigned, digits, places, point, Decimal.readUnsigned_whole written some']
  | some fraction =>
      simp only [digits, point, Option.getD_some] at some' written
      simp [unsigned, digits, places, point, Decimal.readUnsigned_point written some']

/-! ## The amount -/

/-- A written amount has a digit and no blanks. -/
theorem isWord_text (number : w.IsNumber) : Text.IsWord w.text := by
  constructor
  · obtain ⟨c, digit⟩ := List.exists_mem_of_ne_nil _ number.1
    intro nothing
    have parts : w.digits = [] := by
      simp only [text, Written.number, List.append_eq_nil_iff] at nothing
      obtain ⟨⟨⟨-, whole⟩, behind⟩, -⟩ := nothing
      cases point : w.fraction with
      | none => simp [digits, whole, point]
      | some fraction => simp [point] at behind
    rw [parts] at digit
    cases digit
  · intro c member
    rcases List.mem_append.mp member with letter | letter
    · exact isBlank_of_isNumberChar (isNumberChar_of_mem_number number c letter)
    · exact w.scale.isBlank_of_mem_suffix c letter

/-- **A written amount is read for its number and its scale.** -/
theorem readMillis?_text (number : w.IsNumber) : readMillis? w.text =
    some (ceilMillis (w.scale.toMillis
      (Decimal.toBinary64 ⟨false, Decimal.ofDigits w.digits, -(w.places : Int)⟩))) := by
  have letters := isNumberChar_of_mem_number number
  have front : w.text.takeWhile isNumberChar = w.number := by
    rw [text, List.takeWhile_append_of_pos letters, w.scale.takeWhile_suffix, List.append_nil]
  have back : w.text.dropWhile isNumberChar = w.scale.suffix.toList := by
    rw [text, List.dropWhile_append_of_pos letters, w.scale.dropWhile_suffix]
  simp only [readMillis?, Text.trim_of_word (isWord_text number), front, back, read?_number number, Scale.read?_suffix]
  rfl

end Written

end StartupGate.CpuQuantity

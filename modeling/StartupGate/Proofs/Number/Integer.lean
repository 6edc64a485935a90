/-
# StartupGate.Proofs.Number.Integer -- a number that is written reads back

The decimal digits of a number are digits, at least one, and they are the number's: so every reader of
whole numbers that has room for the number gives it back.

* `ofDigits_decimalDigits`: the digits of a number stand for it.
* `readUnsigned_decimalDigits`, `readSigned_decimalDigits`: both readers take them up to their limit.
-/
import StartupGate.Number.Integer

set_option autoImplicit false

namespace StartupGate.Integer

variable {acc limit n : Nat} {overflow : IntegerError} {c : Char} {cs : List Char}

/-! ## Digits -/

theorem isDigit_digitChar : ∀ d < 10, (digitChar d).isDigit = true := by decide

theorem digitValue_digitChar : ∀ d < 10, Decimal.digitValue (digitChar d) = d := by decide

theorem ofDigits_concat (cs : List Char) (c : Char) :
    Decimal.ofDigits (cs ++ [c]) = Decimal.ofDigits cs * 10 + Decimal.digitValue c := by
  simp only [Decimal.ofDigits, Decimal.foldDigits, List.foldl_append, List.foldl_cons, List.foldl_nil]

theorem decimalDigits_ne_nil (n : Nat) : decimalDigits n ≠ [] := by
  rw [decimalDigits]
  split <;> simp

theorem isDigit_of_mem_decimalDigits (n : Nat) : ∀ c ∈ decimalDigits n, c.isDigit = true := by
  rw [decimalDigits]
  split
  · next small =>
      intro c member
      obtain rfl := List.mem_singleton.mp member
      exact isDigit_digitChar n small
  · intro c member
    rcases List.mem_append.mp member with early | last
    · exact isDigit_of_mem_decimalDigits (n / 10) c early
    · obtain rfl := List.mem_singleton.mp last
      exact isDigit_digitChar (n % 10) (by omega)
termination_by n
decreasing_by omega

/-- **The digits of a number stand for it.** -/
theorem ofDigits_decimalDigits (n : Nat) : Decimal.ofDigits (decimalDigits n) = n := by
  rw [decimalDigits]
  split
  · next small =>
      have value := digitValue_digitChar n small
      simpa [Decimal.ofDigits, Decimal.foldDigits] using value
  · have before := ofDigits_decimalDigits (n / 10)
    rw [ofDigits_concat, before, digitValue_digitChar (n % 10) (by omega)]
    omega
termination_by n
decreasing_by omega

theorem sign_notMem_decimalDigits (sign : c.isDigit = false) : c ∉ decimalDigits n := by
  intro member
  rw [isDigit_of_mem_decimalDigits n c member] at sign
  cases sign

/-! ## Reading -/

theorem le_foldDigits (acc : Nat) (cs : List Char) : acc ≤ Decimal.foldDigits acc cs := by
  induction cs generalizing acc with
  | nil => exact Nat.le_refl acc
  | cons c rest ih =>
      have later := ih (acc * 10 + Decimal.digitValue c)
      change acc ≤ Decimal.foldDigits (acc * 10 + Decimal.digitValue c) rest
      omega

/-- Digits are read to the end if what they stand for does not pass the limit. -/
theorem readDigits_eq_ok (digits : ∀ c ∈ cs, c.isDigit = true)
    (fits : Decimal.foldDigits acc cs ≤ limit) :
    readDigits limit overflow acc cs = .ok (Decimal.foldDigits acc cs) := by
  induction cs generalizing acc with
  | nil => rfl
  | cons c rest ih =>
      have isDigit := digits c List.mem_cons_self
      have below := le_foldDigits (acc * 10 + Decimal.digitValue c) rest
      have next : acc * 10 + Decimal.digitValue c ≤ limit := Nat.le_trans below fits
      simp only [readDigits, isDigit, next, if_true]
      exact ih (fun c later => digits c (List.mem_cons_of_mem _ later)) fits

theorem readSize_decimalDigits (fits : n ≤ limit) : readSize limit overflow (decimalDigits n) = .ok n := by
  have value : Decimal.foldDigits 0 (decimalDigits n) = n := ofDigits_decimalDigits n
  rw [readSize, if_neg (decimalDigits_ne_nil n),
    readDigits_eq_ok (isDigit_of_mem_decimalDigits n) (by rw [value]; exact fits), value]

/-- **A number that is written reads back as an unsigned one** of a range it is in. -/
theorem readUnsigned_decimalDigits (fits : n ≤ limit) :
    readUnsigned limit (decimalDigits n) = .ok n := by
  have noPlus : '+' ∉ decimalDigits n := sign_notMem_decimalDigits rfl
  have read : readSize limit .tooLarge (decimalDigits n) = .ok n := readSize_decimalDigits fits
  have some := decimalDigits_ne_nil n
  unfold readUnsigned
  split
  · next empty => exact absurd empty some
  · next plus =>
      rw [plus] at noPlus
      simp at noPlus
  · exact read

/-- **A number that is written reads back as a signed one** of a range it is in. -/
theorem readSigned_decimalDigits (fits : n ≤ limit) :
    readSigned limit (decimalDigits n) = .ok (n : Int) := by
  have noPlus : '+' ∉ decimalDigits n := sign_notMem_decimalDigits rfl
  have noMinus : '-' ∉ decimalDigits n := sign_notMem_decimalDigits rfl
  have read : readSize limit .tooLarge (decimalDigits n) = .ok n := readSize_decimalDigits fits
  have some := decimalDigits_ne_nil n
  unfold readSigned
  split
  · next empty => exact absurd empty some
  · next plus =>
      rw [plus] at noPlus
      simp at noPlus
  · next minus =>
      rw [minus] at noMinus
      simp at noMinus
  · rw [read]
    rfl

@[simp] theorem toList_toText (n : Nat) : (toText n).toList = decimalDigits n := by
  simp only [toText, String.toList_ofList]

end StartupGate.Integer

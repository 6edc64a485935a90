/-
# StartupGate.Json.Number -- the value of a number in JSON text

A number is digits without a zero in front, then optionally a fraction and an exponent,
behind an optional minus.  Digits alone that fit 64 bits are an integer, all else is a
double.

A double is computed in double arithmetic, and is not always the nearest to the decimal:
its digits are those that fit an unsigned 64-bit word (`takeDigits`), and the word is
multiplied or divided by a power of ten (`scaled`).  One beyond the finite doubles has no
value.
-/
import StartupGate.Json.Value

set_option autoImplicit false

namespace StartupGate.Json

/-! ## Values -/

/-- Takes digits onto a number as long as it fits 64 bits; gives the digits that are left. -/
def takeDigits (n : Nat) : List Char → Nat × List Char
  | [] => (n, [])
  | c :: r =>
      let next := n * 10 + Decimal.digitValue c
      if next ≤ Integer.maxUnsigned64 then takeDigits next r else (n, c :: r)

/-- The largest power of ten that is a finite double. -/
def maxPower : Nat := 308

def powerOfTen (k : Nat) : Binary64 := .ofNat (Nat.pow 10 k)

/-- A double times a power of ten, divided in steps for a very negative exponent; nothing if the
result is not finite. -/
def scaled (x : Binary64) (e : Int) : Option Binary64 :=
  if x.isZero then some x
  else if (maxPower : Int) < e then none
  else if 0 ≤ e then
    let product := x.mul (powerOfTen e.toNat)
    if product.isFinite then some product else none
  else if -(maxPower : Int) ≤ e then some (x.div (powerOfTen (-e).toNat))
  else scaled (x.div (powerOfTen maxPower)) (e + maxPower)
termination_by (-e).toNat
decreasing_by simp only [maxPower] at *; omega

/-- The value of a number by its parts, if it has one. -/
def numberValue (negative : Bool) (whole fraction : List Char) (exponent : Option Int) :
    Option Json :=
  let (n, dropped) := takeDigits 0 whole
  let signed : Int := if negative then -(n : Int) else n
  if fraction = [] ∧ exponent = none ∧ dropped = [] ∧ fits64 signed ∧ ¬(negative ∧ n = 0) then
    some (.integer signed)
  else
    let (n, unused) := takeDigits n fraction
    let places : Int := (fraction.length : Int) - unused.length
    let word : Binary64 := .ofQuotient negative (n * Binary64.unitsPerOne) 1
    (scaled word (dropped.length - places + exponent.getD 0)).map .double

/-! ## Reading -/

/-- The digits of a fraction behind a point, if there is a point, and the rest. -/
def readFraction : List Char → Option (List Char × List Char)
  | '.' :: r =>
      let digits := r.takeWhile Char.isDigit
      if digits = [] then none else some (digits, r.dropWhile Char.isDigit)
  | cs => some ([], cs)

/-- The exponent behind an `e`, if there is one, and the rest. -/
def readExponent : List Char → Option (Option Int × List Char)
  | [] => some (none, [])
  | c :: r =>
      if c = 'e' ∨ c = 'E' then
        let (negative, rest) := Decimal.takeSign r
        let digits := rest.takeWhile Char.isDigit
        if digits = [] then none
        else
          let n : Int := Decimal.ofDigits digits
          some (some (if negative then -n else n), rest.dropWhile Char.isDigit)
      else some (none, c :: r)

/-- Reads a number behind its sign; gives its value, if it has one, and the rest. -/
def readNumber (negative : Bool) (cs : List Char) : Option (Option Json × List Char) := do
  let whole := cs.takeWhile Char.isDigit
  let rest := cs.dropWhile Char.isDigit
  guard (whole ≠ [] ∧ (whole.length = 1 ∨ whole.head? ≠ some '0'))
  let (fraction, rest) ← readFraction rest
  let (exponent, rest) ← readExponent rest
  return (numberValue negative whole fraction exponent, rest)

end StartupGate.Json

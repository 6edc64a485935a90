/-
# StartupGate.Number.Decimal -- decimal text as a double

The written form of a number: an optional sign, then `inf`, `infinity` or `nan` in
any case, or digits with at most one point and at least one digit, then optionally
`e` and a whole exponent.  The value is the double nearest to the exact decimal
(`Decimal.toBinary64`), so no digit of a long text is lost before the one rounding.
-/
import StartupGate.Number.Binary64

set_option autoImplicit false

namespace StartupGate

/-- The exact decimal `digits * 10 ^ exponent` with a sign. -/
structure Decimal where
  negative : Bool
  digits : Nat
  exponent : Int
  deriving DecidableEq, Repr

namespace Decimal

/-- The value of a digit; only the ten ASCII digits count. -/
def digitValue (c : Char) : Nat := c.toNat - '0'.toNat

/-- The number written by a list of digits after those that wrote `acc`. -/
def foldDigits (acc : Nat) (cs : List Char) : Nat :=
  cs.foldl (fun n c => n * 10 + digitValue c) acc

def ofDigits (cs : List Char) : Nat := foldDigits 0 cs

/-- A nonzero decimal with a larger exponent lies beyond all finite doubles. -/
def overflowExponent : Int := 400

/-- A decimal whose exponent and binary length add up to less rounds to zero. -/
def underflowExponent : Int := -1100

/-- The nearest double. -/
def toBinary64 (d : Decimal) : Binary64 :=
  if d.digits = 0 then .finite d.negative 0
  else if overflowExponent < d.exponent then .infinite d.negative
  else if d.exponent + (Nat.log2 d.digits : Int) < underflowExponent then .finite d.negative 0
  else if 0 ≤ d.exponent then
    .ofQuotient d.negative (d.digits * Nat.pow 10 d.exponent.toNat * Binary64.unitsPerOne) 1
  else
    .ofQuotient d.negative (d.digits * Binary64.unitsPerOne) (Nat.pow 10 (-d.exponent).toNat)

/-! ## Reading -/

/-- Splits off an optional sign; `true` stands for a minus. -/
def takeSign : List Char → Bool × List Char
  | '+' :: r => (false, r)
  | '-' :: r => (true, r)
  | r => (false, r)

/-- Reads `e` or `E`, an optional sign and at least one digit, up to the end. -/
def readExponent : List Char → Option Int
  | [] => some 0
  | c :: r =>
      if c = 'e' ∨ c = 'E' then
        let (negative, digits) := takeSign r
        if digits ≠ [] ∧ digits.all Char.isDigit then
          let n : Int := ofDigits digits
          some (if negative then -n else n)
        else none
      else none

/-- Reads digits with at most one point, at least one digit, and an optional exponent. -/
def readUnsigned (negative : Bool) (cs : List Char) : Option Decimal :=
  let whole := cs.takeWhile Char.isDigit
  let rest := cs.dropWhile Char.isDigit
  let fraction := match rest with
    | '.' :: r => r.takeWhile Char.isDigit
    | _ => []
  let tail := match rest with
    | '.' :: r => r.dropWhile Char.isDigit
    | r => r
  if whole = [] ∧ fraction = [] then none
  else (readExponent tail).map fun e =>
    { negative, digits := ofDigits (whole ++ fraction), exponent := e - fraction.length }

end Decimal

/-- The double written by a text, or nothing if the text writes no number. -/
def Binary64.read? (cs : List Char) : Option Binary64 :=
  let (negative, rest) := Decimal.takeSign cs
  let word := String.ofList (rest.map Char.toLower)
  if word = "inf" ∨ word = "infinity" then some (.infinite negative)
  else if word = "nan" then some .nan
  else (Decimal.readUnsigned negative rest).map Decimal.toBinary64

end StartupGate

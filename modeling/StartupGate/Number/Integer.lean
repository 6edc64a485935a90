/-
# StartupGate.Number.Integer -- reading and writing whole numbers of bounded size

A number is an optional sign and ASCII digits.  Digits are taken from the left, and
the first thing wrong decides the cause: a character that is no digit, or the digit
at which the value leaves the range.  `readUnsigned` takes no minus; `readSigned`
does.  `decimalDigits` is the writer: the fewest digits, no sign.
-/
import StartupGate.Number.Decimal

set_option autoImplicit false

namespace StartupGate

/-- Why a text is not a whole number of the wanted range. -/
inductive IntegerError where
  | empty
  | invalidDigit
  | tooLarge
  | tooSmall
  deriving DecidableEq, Repr

namespace IntegerError

def message : IntegerError → String
  | .empty => "cannot parse integer from empty string"
  | .invalidDigit => "invalid digit found in string"
  | .tooLarge => "number too large to fit in target type"
  | .tooSmall => "number too small to fit in target type"

end IntegerError

namespace Integer

def maxUnsigned64 : Nat := Nat.pow 2 64 - 1

def maxUnsigned16 : Nat := Nat.pow 2 16 - 1

def maxUnsigned8 : Nat := Nat.pow 2 8 - 1

/-- Reads digits after those that wrote `acc`; `overflow` is the cause once `limit` is passed. -/
def readDigits (limit : Nat) (overflow : IntegerError) : Nat → List Char → Except IntegerError Nat
  | acc, [] => .ok acc
  | acc, c :: r =>
      if c.isDigit then
        let next := acc * 10 + Decimal.digitValue c
        if next ≤ limit then readDigits limit overflow next r else .error overflow
      else .error .invalidDigit

/-- Reads at least one digit. -/
def readSize (limit : Nat) (overflow : IntegerError) (cs : List Char) : Except IntegerError Nat :=
  if cs = [] then .error .invalidDigit else readDigits limit overflow 0 cs

/-- Reads an unsigned number up to `limit`, with an optional plus. -/
def readUnsigned (limit : Nat) : List Char → Except IntegerError Nat
  | [] => .error .empty
  | '+' :: r => readSize limit .tooLarge r
  | cs => readSize limit .tooLarge cs

/-- Reads a number in `-limit - 1 .. limit`, with an optional sign. -/
def readSigned (limit : Nat) : List Char → Except IntegerError Int
  | [] => .error .empty
  | '+' :: r => (readSize limit .tooLarge r).map Int.ofNat
  | '-' :: r => (readSize (limit + 1) .tooSmall r).map fun n => -(n : Int)
  | cs => (readSize limit .tooLarge cs).map Int.ofNat

def digitChar (n : Nat) : Char := Char.ofNat ('0'.toNat + n)

/-- The decimal digits of a number, most significant first. -/
def decimalDigits (n : Nat) : List Char :=
  if n < 10 then [digitChar n] else decimalDigits (n / 10) ++ [digitChar (n % 10)]
termination_by n
decreasing_by omega

def toText (n : Nat) : String := String.ofList (decimalDigits n)

def signedText : Int → String
  | .ofNat n => toText n
  | .negSucc n => "-" ++ toText (n + 1)

end Integer

end StartupGate

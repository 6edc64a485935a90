/-
# StartupGate.CpuQuantity -- amounts of CPU in milli-CPU

An amount is written as a decimal number with a scale suffix (`4`, `850m`, `123456789n`).
`CpuQuantity.millis` reads it into whole milli-CPU, rounding up.  The number is scaled in
double precision; noise below a nano-core is rounded away before the rounding up, so an
exact number of milli-CPU stays what it is.
-/
import StartupGate.Number.Integer
import StartupGate.Text.Blank

set_option autoImplicit false

namespace StartupGate.CpuQuantity

inductive Scale where
  | nano | micro | milli | one | kilo | mega | giga | kibi | mebi | gibi
  deriving DecidableEq, Repr

namespace Scale

/-- The scale written by a suffix; case counts. -/
def read? : List Char → Option Scale
  | ['n'] => some .nano
  | ['u'] => some .micro
  | ['m'] => some .milli
  | [] => some .one
  | ['k'] => some .kilo
  | ['M'] => some .mega
  | ['G'] => some .giga
  | ['K', 'i'] => some .kibi
  | ['M', 'i'] => some .mebi
  | ['G', 'i'] => some .gibi
  | _ => none

def suffix : Scale → String
  | .nano => "n"
  | .micro => "u"
  | .milli => "m"
  | .one => ""
  | .kilo => "k"
  | .mega => "M"
  | .giga => "G"
  | .kibi => "Ki"
  | .mebi => "Mi"
  | .gibi => "Gi"

def powerOfTen (n : Nat) : Binary64 := .ofNat (Nat.pow 10 n)

def kibiFactor : Binary64 := .ofNat 1024

/-- A number in this scale as milli-CPU, one rounding for each factor. -/
def toMillis : Scale → Binary64 → Binary64
  | .nano, v => v.div (powerOfTen 6)
  | .micro, v => v.div (powerOfTen 3)
  | .milli, v => v
  | .one, v => v.mul (powerOfTen 3)
  | .kilo, v => v.mul (powerOfTen 6)
  | .mega, v => v.mul (powerOfTen 9)
  | .giga, v => v.mul (powerOfTen 12)
  | .kibi, v => (v.mul kibiFactor).mul (powerOfTen 3)
  | .mebi, v => ((v.mul kibiFactor).mul kibiFactor).mul (powerOfTen 3)
  | .gibi, v => (((v.mul kibiFactor).mul kibiFactor).mul kibiFactor).mul (powerOfTen 3)

end Scale

/-- The text is no amount of CPU. -/
structure Invalid where
  raw : String
  deriving DecidableEq, Repr

/-- The message shows the text as it was given, blanks included. -/
def Invalid.message (e : Invalid) : String := "Invalid CPU quantity '" ++ e.raw ++ "'"

def isNumberChar (c : Char) : Bool := c.isDigit || c = '.' || c = '+'

/-- The number rounded up to a whole one, after rounding to a millionth. -/
def ceilMillis (millis : Binary64) : Binary64 :=
  ((millis.mul (Scale.powerOfTen 6)).round.div (Scale.powerOfTen 6)).ceil

/-- The exact reading before the conversion to a whole number: the rounded-up milli-CPU. -/
def readMillis? (raw : List Char) : Option Binary64 := do
  let body := Text.trim raw
  let value ← Binary64.read? (body.takeWhile isNumberChar)
  let scale ← Scale.read? (body.dropWhile isNumberChar)
  return ceilMillis (scale.toMillis value)

/-- The milli-CPU of a written amount.  Infinite and negative amounts are refused; one beyond
64 bits counts as the largest 64-bit number. -/
def millis (raw : String) : Except Invalid Nat :=
  match readMillis? raw.toList with
  | none => .error ⟨raw⟩
  | some m =>
      if !m.isFinite || m.isBelowZero then .error ⟨raw⟩
      else .ok (m.toNatSaturating Integer.maxUnsigned64)

end StartupGate.CpuQuantity

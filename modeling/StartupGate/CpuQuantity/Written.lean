/-
# StartupGate.CpuQuantity.Written -- amounts of CPU taken apart

A written amount is an optional plus, the digits before the point, the digits behind it
if there is a point, and a scale.  `Written.text` puts the parts together again, and
`Written.IsNanoCores` says exactly how much is written, in nano-cores and without any
rounding.
-/
import StartupGate.CpuQuantity

set_option autoImplicit false

namespace StartupGate.CpuQuantity

/-- How many nano-cores a unit of a scale is. -/
def Scale.nanoCores : Scale → Nat
  | .nano => 1
  | .micro => Nat.pow 10 3
  | .milli => Nat.pow 10 6
  | .one => Nat.pow 10 9
  | .kilo => Nat.pow 10 12
  | .mega => Nat.pow 10 15
  | .giga => Nat.pow 10 18
  | .kibi => 1024 * Nat.pow 10 9
  | .mebi => Nat.pow 1024 2 * Nat.pow 10 9
  | .gibi => Nat.pow 1024 3 * Nat.pow 10 9

/-- The parts of a written amount; without a point there is no fraction. -/
structure Written where
  plus : Bool
  whole : List Char
  fraction : Option (List Char)
  scale : Scale
  deriving DecidableEq, Repr

namespace Written

/-- The digits before and behind the point. -/
def digits (w : Written) : List Char := w.whole ++ w.fraction.getD []

/-- There is at least one digit, and nothing but digits. -/
def IsNumber (w : Written) : Prop := w.digits ≠ [] ∧ ∀ c ∈ w.digits, c.isDigit = true

def number (w : Written) : List Char :=
  (if w.plus then ['+'] else []) ++ w.whole ++
    match w.fraction with
    | some fraction => '.' :: fraction
    | none => []

def text (w : Written) : List Char := w.number ++ w.scale.suffix.toList

/-- The amount times `10 ^ places`, in nano-cores. -/
def shifted (w : Written) : Nat := Decimal.ofDigits w.digits * w.scale.nanoCores

def places (w : Written) : Nat := (w.fraction.getD []).length

/-- The amount is this whole number of nano-cores. -/
def IsNanoCores (w : Written) (n : Nat) : Prop := w.shifted = n * Nat.pow 10 w.places

/-- Whole nano-cores in milli-CPU, rounded up. -/
def millisOf (nanoCores : Nat) : Nat := (nanoCores + (Nat.pow 10 6 - 1)) / Nat.pow 10 6

end Written

end StartupGate.CpuQuantity

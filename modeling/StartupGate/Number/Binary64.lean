/-
# StartupGate.Number.Binary64 -- double precision as whole multiples of the least unit

Every finite double is a whole number of units of `2 ^ -1074`, so a finite value
is kept here as a sign and a natural number of units.  An operation computes its
exact result as a quotient of natural numbers and rounds once, to the nearest
double, a tie to the even one (`roundUnits`): this is the arithmetic of IEEE 754
with its default rounding, and every step of it is a step on natural numbers.

* `Binary64.mul`, `Binary64.div`, `Binary64.addSizes`: one exact operation, one rounding.
* `Binary64.powi`: repeated squaring, rounding after each product.
* `Binary64.round`, `Binary64.ceil`: to a whole number, a half away from zero, or upward.
* `Binary64.toNatSaturating`: the whole part, clamped into `0 .. limit`.
-/

set_option autoImplicit false

namespace StartupGate

/-- A double: not a number, an infinity, or a sign with a number of units of `2 ^ -1074`. -/
inductive Binary64 where
  | nan
  | infinite (negative : Bool)
  | finite (negative : Bool) (units : Nat)
  deriving DecidableEq, Repr, Inhabited

namespace Binary64

/-! ## Rounding -/

def unitsPerOne : Nat := Nat.pow 2 1074

/-- The first number of units beyond the largest finite double. -/
def unitsOverflow : Nat := Nat.pow 2 2098

/-- The quotient rounded to the nearest whole number, a tie to the even one. -/
def divTiesEven (n d : Nat) : Nat :=
  let q := n / d
  let r := n % d
  if d < 2 * r ∨ (2 * r = d ∧ q % 2 = 1) then q + 1 else q

/-- The distance in units between neighbouring doubles of `q` units and above:
53 significant bits are kept. -/
def spacing (q : Nat) : Nat := Nat.pow 2 (Nat.log2 q - 52)

/-- The double nearest to `n / d` units, a tie to the even one. -/
def roundUnits (n d : Nat) : Nat :=
  let step := spacing (n / d)
  divTiesEven n (d * step) * step

/-- The double for a sign and the exact size `n / d` in units. -/
def ofQuotient (negative : Bool) (n d : Nat) : Binary64 :=
  let u := roundUnits n d
  if u < unitsOverflow then .finite negative u else .infinite negative

/-- The double nearest to a natural number. -/
def ofNat (n : Nat) : Binary64 := ofQuotient false (n * unitsPerOne) 1

def one : Binary64 := .finite false unitsPerOne

/-! ## Arithmetic -/

/-- The product.  Zero times infinity is not a number. -/
def mul : Binary64 → Binary64 → Binary64
  | .nan, _ => .nan
  | _, .nan => .nan
  | .infinite s, .infinite t => .infinite (s != t)
  | .infinite s, .finite t u => if u = 0 then .nan else .infinite (s != t)
  | .finite s u, .infinite t => if u = 0 then .nan else .infinite (s != t)
  | .finite s u, .finite t v => ofQuotient (s != t) (u * v) unitsPerOne

/-- The quotient.  Zero by zero and infinity by infinity are not numbers. -/
def div : Binary64 → Binary64 → Binary64
  | .nan, _ => .nan
  | _, .nan => .nan
  | .infinite _, .infinite _ => .nan
  | .infinite s, .finite t _ => .infinite (s != t)
  | .finite s _, .infinite t => .finite (s != t) 0
  | .finite s u, .finite t v =>
      if v = 0 then (if u = 0 then .nan else .infinite (s != t))
      else ofQuotient (s != t) (u * unitsPerOne) v

/-- The sum of two sizes; the signs of the operands are not looked at. -/
def addSizes : Binary64 → Binary64 → Binary64
  | .nan, _ => .nan
  | _, .nan => .nan
  | .infinite _, _ => .infinite false
  | _, .infinite _ => .infinite false
  | .finite _ u, .finite _ v => ofQuotient false (u + v) 1

/-- The product of `acc` with the `n`-th power of `base`, by repeated squaring. -/
def powLoop (base acc : Binary64) (n : Nat) : Binary64 :=
  let acc := if n % 2 = 1 then acc.mul base else acc
  if n / 2 = 0 then acc else powLoop (base.mul base) acc (n / 2)
termination_by n
decreasing_by omega

/-- A whole power; a negative exponent gives the reciprocal of the positive power. -/
def powi (base : Binary64) (exponent : Int) : Binary64 :=
  let p := powLoop base one exponent.natAbs
  if exponent < 0 then one.div p else p

/-! ## Whole numbers -/

/-- To the nearest whole number, a half away from zero. -/
def round : Binary64 → Binary64
  | .finite s u => .finite s ((2 * u + unitsPerOne) / (2 * unitsPerOne) * unitsPerOne)
  | x => x

def ceil : Binary64 → Binary64
  | .finite false u => .finite false ((u + (unitsPerOne - 1)) / unitsPerOne * unitsPerOne)
  | .finite true u => .finite true (u / unitsPerOne * unitsPerOne)
  | x => x

/-- The whole part clamped into `0 .. limit`; what is not a number counts as zero. -/
def toNatSaturating (limit : Nat) : Binary64 → Nat
  | .nan => 0
  | .infinite negative => if negative then 0 else limit
  | .finite negative u => if negative then 0 else min (u / unitsPerOne) limit

/-! ## Tests -/

def isFinite : Binary64 → Bool
  | .finite _ _ => true
  | _ => false

/-- Either zero. -/
def isZero : Binary64 → Bool
  | .finite _ u => u == 0
  | _ => false

/-- Strictly below zero; a negative zero is not. -/
def isBelowZero : Binary64 → Bool
  | .nan => false
  | .infinite negative => negative
  | .finite negative u => negative && u != 0

def isAboveZero : Binary64 → Bool
  | .nan => false
  | .infinite negative => !negative
  | .finite negative u => !negative && u != 0

end Binary64

end StartupGate

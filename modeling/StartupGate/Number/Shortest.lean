/-
# StartupGate.Number.Shortest -- the fewest decimal digits that read back

A finite double is the only one near enough to many decimals.  `Shortest.digits` finds,
for 1, 2, .. 17 significant digits in turn, whether a decimal with that many digits lies
in the interval that rounds to the double, and takes the nearer of two, or the even one if
they are equally near.  Sizes are compared as exact natural numbers.
-/
import StartupGate.Number.Integer

set_option autoImplicit false

namespace StartupGate.Shortest

structure Digits where
  digits : Nat
  exponent : Int
  deriving DecidableEq, Repr

/-- `10 ^ e` times `n` over one, as a quotient of natural numbers. -/
def scaleTen (n : Nat) (e : Int) : Nat × Nat :=
  if 0 ≤ e then (n * Nat.pow 10 e.toNat, 1) else (n, Nat.pow 10 (-e).toNat)

/-- The largest `p` with `10 ^ p` at most `u` units. -/
def leadingExponent (u : Nat) : Int :=
  let fits (p : Int) : Bool :=
    let (n, d) := scaleTen Binary64.unitsPerOne p
    n ≤ u * d
  match (List.range 640).find? fun (i : Nat) => fits (308 - (i : Int)) with
  | some i => 308 - (i : Int)
  | none => -324

/-- Whether `n / d` units, a decimal, rounds to the double of `u` units. -/
def roundsTo (u n d : Nat) : Bool := Binary64.roundUnits n d == u

/-- The distance of `n / d` units from `u` units, times `d`. -/
def distance (u n d : Nat) : Nat := if n ≤ u * d then u * d - n else n - u * d

/-- The decimal with `count` significant digits that reads back, if there is one. -/
def withDigits? (u : Nat) (lead : Int) (count : Nat) : Option Digits :=
  let e := lead - (count : Int) + 1
  let (unit, d) := scaleTen Binary64.unitsPerOne e
  let below := u * d / unit
  let candidates := [below, below + 1].filter fun n => n != 0 && roundsTo u (n * unit) d
  match candidates with
  | [] => none
  | [n] => some ⟨n, e⟩
  | n :: m :: _ =>
      let toLower := distance u (n * unit) d
      let toUpper := distance u (m * unit) d
      if toUpper < toLower ∨ (toUpper = toLower ∧ n % 2 = 1) then some ⟨m, e⟩ else some ⟨n, e⟩

/-- The decimal without zeros at its end; `fuel` bounds how many are dropped. -/
def dropZeros : (fuel : Nat) → Digits → Digits
  | 0, x => x
  | fuel + 1, x =>
      if x.digits % 10 = 0 ∧ x.digits ≠ 0 then dropZeros fuel ⟨x.digits / 10, x.exponent + 1⟩ else x

/-- The shortest decimal of a positive number of units. -/
def digits (u : Nat) : Digits :=
  let lead := leadingExponent u
  let found := (List.range 17).findSome? fun (i : Nat) => withDigits? u lead (i + 1)
  dropZeros 20 (found.getD ⟨0, 0⟩)

/-- How a format writes a decimal: from which place of the point on, on either side, it uses an
exponent. -/
structure Format where
  /-- The greatest number of places before the point that is written without an exponent. -/
  maxPlaces : Int
  /-- The least number of places before the point (negative for zeros behind it) written so. -/
  minPlaces : Int

/-- The format of numbers in JSON: positional from `1e-5` up to sixteen places, always with a
point, and otherwise one digit before the point and an exponent with its sign. -/
def jsonFormat : Format := ⟨16, -4⟩

def write (f : Format) (x : Digits) : String :=
  let ds := Integer.decimalDigits x.digits
  let places : Int := x.exponent + ds.length
  if 0 ≤ x.exponent ∧ places ≤ f.maxPlaces then
    String.ofList (ds ++ List.replicate x.exponent.toNat '0') ++ ".0"
  else if 0 < places ∧ places ≤ f.maxPlaces then
    String.ofList (ds.take places.toNat ++ '.' :: ds.drop places.toNat)
  else if f.minPlaces ≤ places ∧ places ≤ 0 then
    String.ofList ('0' :: '.' :: List.replicate (-places).toNat '0' ++ ds)
  else
    let mantissa := match ds with
      | [] => []
      | [c] => [c]
      | c :: r => c :: '.' :: r
    String.ofList mantissa ++ (if 0 < places then "e+" else "e") ++ Integer.signedText (places - 1)

/-- The text of a finite double in JSON; infinities and not-a-number have none and give `null`. -/
def jsonText : Binary64 → String
  | .finite negative u =>
      (if negative then "-" else "") ++ (if u = 0 then "0.0" else write jsonFormat (digits u))
  | _ => "null"

end StartupGate.Shortest

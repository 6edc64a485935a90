/-
# StartupGate.NodeLoad -- CPU usage as a percentage of capacity

The percentage is computed in double precision and rounded to the nearest whole one, a
half upward.  A node without capacity counts as loaded beyond every threshold.
-/
import StartupGate.Number.Integer

set_option autoImplicit false

namespace StartupGate.NodeLoad

/-- Usage as a whole percentage of capacity, both in milli-CPU. -/
def percent (used capacity : Nat) : Nat :=
  if capacity = 0 then Integer.maxUnsigned64
  else
    (((Binary64.ofNat used).div (Binary64.ofNat capacity)).mul (Binary64.ofNat 100)).round
      |>.toNatSaturating Integer.maxUnsigned64

/-- The percentage does not exceed the threshold. -/
def within (used capacity threshold : Nat) : Bool := percent used capacity ≤ threshold

end StartupGate.NodeLoad

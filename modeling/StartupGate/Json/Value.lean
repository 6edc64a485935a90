/-
# StartupGate.Json.Value -- JSON values

A number is an integer of 64 bits, signed or unsigned, or a double.  An object keeps its
fields in order; of several fields with one name the last counts (`Json.field?`).
-/
import StartupGate.Number.Integer

set_option autoImplicit false

namespace StartupGate

inductive Json where
  | null
  | bool (value : Bool)
  | integer (value : Int)
  | double (value : Binary64)
  | string (value : String)
  | array (items : List Json)
  | object (fields : List (String × Json))
  deriving Inhabited, Repr

namespace Json

def fields? : Json → Option (List (String × Json))
  | .object fields => some fields
  | _ => none

/-- The last field of a name. -/
def lookup (fields : List (String × Json)) (name : String) : Option Json :=
  fields.reverse.lookup name

def field? (j : Json) (name : String) : Option Json := j.fields?.bind (lookup · name)

def string? : Json → Option String
  | .string s => some s
  | _ => none

def bool? : Json → Option Bool
  | .bool b => some b
  | _ => none

def items? : Json → Option (List Json)
  | .array items => some items
  | _ => none

def int32? : Json → Option Int
  | .integer n => if -(Nat.pow 2 31 : Int) ≤ n ∧ n < Nat.pow 2 31 then some n else none
  | _ => none

def int64? : Json → Option Int
  | .integer n => if -(Nat.pow 2 63 : Int) ≤ n ∧ n < Nat.pow 2 63 then some n else none
  | _ => none

/-- An unsigned number up to `limit`. -/
def natUpTo? (limit : Nat) : Json → Option Nat
  | .integer n => if 0 ≤ n ∧ n ≤ limit then some n.toNat else none
  | _ => none

/-- An integer is kept as one if it fits 64 bits, signed or unsigned. -/
def fits64 (n : Int) : Bool := -(Nat.pow 2 63 : Int) ≤ n && n < Nat.pow 2 64

end Json

end StartupGate

/-
# StartupGate.Cluster.NodeUsage -- the CPU usage in a node's metrics

A metrics object holds `usage`, which holds `cpu`, a quantity.  Either record may be
written as a list of its one field.  What is wrong with an object is reported for the
outermost place at fault (`DecodeError`).
-/
import StartupGate.Cluster.Decode
import StartupGate.CpuQuantity
import StartupGate.Number.Shortest
import StartupGate.Text.Quoted

set_option autoImplicit false

namespace StartupGate.Cluster

/-- A JSON value where another type was expected, by its type and, if it is simple, its value. -/
def unexpectedText : Json → String
  | .null => "null"
  | .bool b => "boolean `" ++ (if b then "true" else "false") ++ "`"
  | .integer n => "integer `" ++ Integer.signedText n ++ "`"
  | .double x => "floating point `" ++ Shortest.jsonText x ++ "`"
  | .string s => "string " ++ Text.quotedText s
  | .array _ => "sequence"
  | .object _ => "map"

inductive DecodeError where
  | missingField (name : String)
  | wrongType (found : Json) (expected : String)
  /-- An empty list stands for a record of one field. -/
  | tooShort (expected : String)
  /-- A list of several values stands for a record of one field. -/
  | tooLong (length : Nat)
  deriving Repr

def DecodeError.message : DecodeError → String
  | .missingField name => "missing field `" ++ name ++ "`"
  | .wrongType found expected =>
      "invalid type: " ++ unexpectedText found ++ ", expected " ++ expected
  | .tooShort expected => "invalid length 0, expected " ++ expected ++ " with 1 element"
  | .tooLong length =>
      "invalid length " ++ Integer.toText length ++ ", expected fewer elements in array"

/-- Reads a record of one field, written as an object or as a list, and the field's value. -/
def readRecord {α : Type} (expected field : String) (read : Json → Except DecodeError α) :
    Json → Except DecodeError α
  | .object fields =>
      match Json.lookup fields field with
      | none => .error (.missingField field)
      | some value => read value
  | .array [] => .error (.tooShort expected)
  | .array [value] => read value
  | .array (value :: rest) =>
      match read value with
      | .error e => .error e
      | .ok _ => .error (.tooLong (rest.length + 1))
  | other => .error (.wrongType other expected)

def readCpu (j : Json) : Except DecodeError String :=
  match readQuantity j with
  | some q => .ok q
  | none => .error (.wrongType j "Quantity")

/-- The written CPU usage in a metrics object. -/
def readUsage : Json → Except DecodeError String :=
  readRecord "struct NodeMetricsData" "usage" (readRecord "struct ResourceUsage" "cpu" readCpu)

end StartupGate.Cluster

/-
# StartupGate.Json.Tree -- JSON text as it is written

A text can be well formed and yet hold parts that are no values: a number beyond the
doubles, or a string with half of a surrogate pair.  A `Tree` keeps such parts where they
stand, so a reader that passes over a part need not care.

`Tree.value?` takes a whole tree as a value, which is strict: every part must have a
value, and arrays and objects may be nested `maxDepth` deep.
-/
import StartupGate.Json.Value

set_option autoImplicit false

namespace StartupGate.Json

/-- What a well-formed text holds.  A leaf is null, a truth value, a number or a string, and has no
value if none stands for what is written; so do the names of fields. -/
inductive Tree where
  | leaf (value : Option Json)
  | array (items : List Tree)
  | object (fields : List (Option String × Tree))
  deriving Inhabited

/-- How deep arrays and objects may be nested. -/
def maxDepth : Nat := 127

namespace Tree

def leaf? : Tree → Option Json
  | .leaf value => value
  | .array _ => none
  | .object _ => none

/-- The fields of an object, if all names have a value. -/
def fields? : Tree → Option (List (String × Tree))
  | .object fields => fields.mapM fun (name, field) => name.map fun name => (name, field)
  | .array _ => none
  | .leaf _ => none

/-- No field has a name more than once. -/
def isUnrepeated (fields : List (String × Tree)) (name : String) : Bool :=
  (fields.filter fun field => field.1 == name).length ≤ 1

mutual

/-- The value of a tree nested at most `depth` deep. -/
def value? : (depth : Nat) → Tree → Option Json
  | _, .leaf value => value
  | 0, .array _ => none
  | 0, .object _ => none
  | depth + 1, .array items => (itemValues? depth items).map .array
  | depth + 1, .object fields => (fieldValues? depth fields).map .object

def itemValues? : (depth : Nat) → List Tree → Option (List Json)
  | _, [] => some []
  | depth, item :: rest => do
      let value ← value? depth item
      let values ← itemValues? depth rest
      return value :: values

def fieldValues? : (depth : Nat) → List (Option String × Tree) → Option (List (String × Json))
  | _, [] => some []
  | depth, (name, field) :: rest => do
      let name ← name
      let value ← value? depth field
      let values ← fieldValues? depth rest
      return (name, value) :: values

end

mutual

/-- The tree of a value; of several fields with one name it has the last. -/
def ofJson : Json → Tree
  | .array items => .array (ofItems items)
  | .object fields => .object (ofFields fields)
  | .null => .leaf (some .null)
  | .bool b => .leaf (some (.bool b))
  | .integer n => .leaf (some (.integer n))
  | .double x => .leaf (some (.double x))
  | .string s => .leaf (some (.string s))

def ofItems : List Json → List Tree
  | [] => []
  | item :: rest => ofJson item :: ofItems rest

def ofFields : List (String × Json) → List (Option String × Tree)
  | [] => []
  | (name, value) :: rest =>
      if rest.any fun field => field.1 == name then ofFields rest
      else (some name, ofJson value) :: ofFields rest

end

end Tree

end StartupGate.Json

/-
# StartupGate.Cluster.Shape -- what the parts of a cluster object must be

A `Shape` says what a JSON value must be to stand for a part of a cluster object, and
`Shape.read` takes a tree as a value of a shape.  A record has known fields: each
occurrence of one must be of its shape, or null, which stands for absence.  Unknown fields
may hold anything, even parts without a value, and are left out.

Whatever `Shape.read` gives is of the shape, so what is looked up in it later has the
type that is expected there.
-/
import StartupGate.Cluster.Timestamp
import StartupGate.Json.Tree

set_option autoImplicit false

namespace StartupGate.Cluster

inductive Scalar where
  | text
  | bool
  | int32
  | int64
  /-- A text or an integer. -/
  | quantity
  /-- A text or a signed 32-bit number. -/
  | intOrText
  /-- A text that writes an instant. -/
  | time
  deriving DecidableEq, Repr

def Scalar.admits : Scalar → Json → Bool
  | .text, .string _ => true
  | .bool, .bool _ => true
  | .int32, j => j.int32?.isSome
  | .int64, j => j.int64?.isSome
  | .quantity, .string _ => true
  | .quantity, .integer _ => true
  | .intOrText, .string _ => true
  | .intOrText, j => j.int32?.isSome
  | .time, .string s => Timestamp.isTimestamp s
  | _, _ => false

/-- What a value must be. -/
inductive Shape where
  | scalar (kind : Scalar)
  /-- One text and nothing else; not even null. -/
  | exactly (word : String)
  | any
  | list (item : Shape)
  /-- An object with any names. -/
  | map (value : Shape)
  | record (fields : List (String × Shape))
  deriving Repr

namespace Shape

/-! ## Abbreviations -/

def text : Shape := .scalar .text
def bool : Shape := .scalar .bool
def int32 : Shape := .scalar .int32
def int64 : Shape := .scalar .int64
def quantity : Shape := .scalar .quantity
def intOrText : Shape := .scalar .intOrText
def time : Shape := .scalar .time
def texts : Shape := .list text
def textMap : Shape := .map text
def quantities : Shape := .map quantity

/-- Several fields of one shape. -/
def each (shape : Shape) (names : List String) : List (String × Shape) :=
  names.map fun name => (name, shape)

def textRecord (names : List String) : Shape := .record (each text names)

/-! ## Reading -/

/-- A field of the shape may be null instead. -/
def isNullable : Shape → Bool
  | .exactly _ => false
  | _ => true

mutual

/-- The value of a tree, nested at most `depth` deep, if it is of a shape. -/
def read : Shape → (depth : Nat) → Json.Tree → Option Json
  | .any, depth, tree => tree.value? depth
  | .scalar kind, _, .leaf (some value) => if kind.admits value then some value else none
  | .exactly word, _, .leaf (some (.string s)) => if s = word then some (.string s) else none
  | .list item, depth + 1, .array items => (readItems item depth items).map .array
  | .map value, depth + 1, .object fields => (readEntries value depth fields).map .object
  | .record known, depth + 1, .object fields => (readFields known depth fields).map .object
  | _, _, _ => none

def readItems : Shape → (depth : Nat) → List Json.Tree → Option (List Json)
  | _, _, [] => some []
  | shape, depth, item :: rest => do
      let value ← read shape depth item
      let values ← readItems shape depth rest
      return value :: values

def readEntries : Shape → (depth : Nat) → List (Option String × Json.Tree) →
    Option (List (String × Json))
  | _, _, [] => some []
  | shape, depth, (name, field) :: rest => do
      let name ← name
      let value ← read shape depth field
      let values ← readEntries shape depth rest
      return (name, value) :: values

def readFields : List (String × Shape) → (depth : Nat) → List (Option String × Json.Tree) →
    Option (List (String × Json))
  | _, _, [] => some []
  | known, depth, (name, field) :: rest => do
      let name ← name
      let values ← readFields known depth rest
      match known.lookup name with
      | none => return values
      | some shape =>
          match field, shape.isNullable with
          | .leaf (some .null), true => return (name, .null) :: values
          | _, _ => do
              let value ← read shape depth field
              return (name, value) :: values

end

end Shape

end StartupGate.Cluster

/-
# StartupGate.Cluster.Decode -- cluster objects from JSON

An object is first read in its shape (`Cluster/Schema`): a known field of the wrong type
makes the whole object undecodable, and so does an `apiVersion` or a `kind` that is not
the wanted one.  What the checks look at is then taken out of it, where a field that is
missing or null is absent.

The fields of a list beside its metadata and its items, and those of a metrics object
beside its metadata, are kept as values, so unlike the unknown fields of an object they
must have values.
-/
import StartupGate.Cluster.Object
import StartupGate.Cluster.Schema.DaemonSet
import StartupGate.Cluster.Schema.Node

set_option autoImplicit false

namespace StartupGate.Cluster

/-! ## Fields -/

abbrev Fields := List (String × Json)

/-- Reads an optional field: nothing if it is absent, and a failure if it is of the wrong type. -/
def optionalField {α : Type} (fields : Fields) (name : String) (read : Json → Option α) :
    Option (Option α) :=
  match Json.lookup fields name with
  | none => some none
  | some .null => some none
  | some value => (read value).map some

/-- Reads a field for which absence means a default. -/
def fieldOr {α : Type} (fields : Fields) (name : String) (absent : α) (read : Json → Option α) :
    Option α :=
  (optionalField fields name read).map fun value => value.getD absent

def readList {α : Type} (read : Json → Option α) (j : Json) : Option (List α) :=
  j.items?.bind fun items => items.mapM read

def readLabels (j : Json) : Option Labels := do
  let fields ← j.fields?
  let pairs ← fields.mapM fun (key, value) => value.string?.map fun v => (key, v)
  return .ofPairs pairs

/-- A quantity: a text, or an integer, which stands for its decimal text. -/
def readQuantity : Json → Option String
  | .string s => some s
  | .integer n => some (Integer.signedText n)
  | _ => none

def readQuantities (j : Json) : Option (List (String × String)) := do
  let fields ← j.fields?
  fields.mapM fun (name, value) => (readQuantity value).map fun q => (name, q)

/-! ## Objects -/

/-- The name, the namespace, the uid and the labels of any object. -/
structure Metadata where
  name : Option String
  namespaceName : Option String
  uid : Option String
  labels : Option Labels
  owners : List String

def Metadata.empty : Metadata := ⟨none, none, none, none, []⟩

/-- The uid of an owner; one without a uid has the empty one. -/
def readOwner (j : Json) : Option String := do
  fieldOr (← j.fields?) "uid" "" Json.string?

def readMetadata (j : Json) : Option Metadata := do
  let fields ← j.fields?
  return {
    name := ← optionalField fields "name" Json.string?
    namespaceName := ← optionalField fields "namespace" Json.string?
    uid := ← optionalField fields "uid" Json.string?
    labels := ← optionalField fields "labels" readLabels
    owners := ← fieldOr fields "ownerReferences" [] (readList readOwner) }

def metadataOf (fields : Fields) : Option Metadata :=
  fieldOr fields "metadata" .empty readMetadata

/-- The written CPU capacity in a node's status. -/
def readCapacity (j : Json) : Option (Option String) := do
  let fields ← j.fields?
  let capacity ← fieldOr fields "capacity" [] readQuantities
  let _ ← fieldOr fields "allocatable" [] readQuantities
  return capacity.reverse.lookup "cpu"

/-- The node in a value of its shape. -/
def Node.ofValue? (j : Json) : Option Node := do
  let fields ← j.fields?
  let metadata ← metadataOf fields
  let cpuCapacity ← fieldOr fields "status" none readCapacity
  return { name := metadata.name, labels := metadata.labels, cpuCapacity }

def readPodSpec (j : Json) : Option PodSpec := do
  let fields ← j.fields?
  return {
    hostNetwork := ← optionalField fields "hostNetwork" Json.bool?
    nodeSelector := ← optionalField fields "nodeSelector" readLabels }

def readTemplate (j : Json) : Option (Option PodSpec) := do
  optionalField (← j.fields?) "spec" readPodSpec

def readDaemonSetSpec (j : Json) : Option DaemonSetSpec := do
  return ⟨← fieldOr (← j.fields?) "template" none readTemplate⟩

def readRollout (j : Json) : Option Rollout := do
  let fields ← j.fields?
  return {
    desired := ← fieldOr fields "desiredNumberScheduled" 0 Json.int32?
    ready := ← fieldOr fields "numberReady" 0 Json.int32? }

def DaemonSet.ofValue? (j : Json) : Option DaemonSet := do
  let fields ← j.fields?
  let metadata ← metadataOf fields
  return {
    name := metadata.name
    namespaceName := metadata.namespaceName
    uid := metadata.uid
    labels := metadata.labels
    spec := ← optionalField fields "spec" readDaemonSetSpec
    rollout := ← optionalField fields "status" readRollout }

def readCondition (j : Json) : Option Condition := do
  let fields ← j.fields?
  return {
    kind := ← fieldOr fields "type" "" Json.string?
    status := ← fieldOr fields "status" "" Json.string? }

def readPodStatus (j : Json) : Option PodStatus := do
  let fields ← j.fields?
  return {
    phase := ← optionalField fields "phase" Json.string?
    conditions := ← fieldOr fields "conditions" [] (readList readCondition) }

def Pod.ofValue? (j : Json) : Option Pod := do
  let fields ← j.fields?
  let metadata ← metadataOf fields
  return {
    name := metadata.name
    namespaceName := metadata.namespaceName
    owners := metadata.owners
    status := ← optionalField fields "status" readPodStatus }

/-! ## Texts -/

/-- Reads a node nested at most `depth` deep. -/
def Node.ofTree? (depth : Nat) (tree : Json.Tree) : Option Node :=
  (Schema.node.read depth tree).bind Node.ofValue?

def DaemonSet.ofTree? (depth : Nat) (tree : Json.Tree) : Option DaemonSet :=
  (Schema.daemonSet.read depth tree).bind DaemonSet.ofValue?

def Pod.ofTree? (depth : Nat) (tree : Json.Tree) : Option Pod :=
  (Schema.pod.read depth tree).bind Pod.ofValue?

/-- The node that a value writes. -/
def Node.ofJson? (j : Json) : Option Node := Node.ofTree? Json.maxDepth (.ofJson j)

def DaemonSet.ofJson? (j : Json) : Option DaemonSet := DaemonSet.ofTree? Json.maxDepth (.ofJson j)

def Pod.ofJson? (j : Json) : Option Pod := Pod.ofTree? Json.maxDepth (.ofJson j)

/-- The fields of an object as values, its metadata in their shape and not repeated. -/
def readEnvelope (metadata : Shape) (depth : Nat) (fields : List (String × Json.Tree)) :
    Option Fields := do
  guard (Json.Tree.isUnrepeated fields "metadata")
  fields.mapM fun (name, field) =>
    let value := if name = "metadata" then metadata.read depth field else field.value? depth
    value.map fun value => (name, value)

/-- Reads the items of a list object.  The field must be there, and once; null is the empty list. -/
def readListObject {α : Type} (item : (depth : Nat) → Json.Tree → Option α) (depth : Nat)
    (tree : Json.Tree) : Option (List α) := do
  let fields ← tree.fields?
  let _ ← readEnvelope Schema.listMeta (depth - 1) (fields.filter fun field => field.1 != "items")
  guard (Json.Tree.isUnrepeated fields "items")
  match ← fields.lookup "items" with
  | .leaf (some .null) => return []
  | .array items => items.mapM (item (depth - 2))
  | _ => none

def readMetricsObject (depth : Nat) (tree : Json.Tree) : Option Json := do
  let fields ← readEnvelope Schema.objectMeta (depth - 1) (← tree.fields?)
  return .object fields

end StartupGate.Cluster

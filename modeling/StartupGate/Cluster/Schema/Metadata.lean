/-
# StartupGate.Cluster.Schema.Metadata -- the metadata of objects and lists

Every object carries `objectMeta` and every list `listMeta`.  Label selectors and
references to other objects are used throughout.
-/
import StartupGate.Cluster.Shape

set_option autoImplicit false

namespace StartupGate.Cluster.Schema

open Shape (each textRecord)

def managedFields : Shape :=
  .record (each .text ["apiVersion", "fieldsType", "manager", "operation", "subresource"] ++
    [("fieldsV1", .any), ("time", .time)])

def ownerReference : Shape :=
  .record (each .text ["apiVersion", "kind", "name", "uid"] ++
    each .bool ["blockOwnerDeletion", "controller"])

def objectMeta : Shape :=
  .record (
    each .text ["generateName", "name", "namespace", "resourceVersion", "selfLink", "uid"] ++
    each .textMap ["annotations", "labels"] ++
    each .time ["creationTimestamp", "deletionTimestamp"] ++
    each .int64 ["deletionGracePeriodSeconds", "generation"] ++
    [("finalizers", .texts), ("managedFields", .list managedFields),
      ("ownerReferences", .list ownerReference)])

def listMeta : Shape :=
  .record (each .text ["continue", "resourceVersion", "selfLink"] ++
    [("remainingItemCount", .int64)])

def labelSelector : Shape :=
  .record [
    ("matchExpressions", .list (.record (each .text ["key", "operator"] ++ [("values", .texts)]))),
    ("matchLabels", .textMap)]

/-- The name of an object in the same namespace. -/
def localReference : Shape := textRecord ["name"]

def condition : Shape :=
  .record (each .text ["message", "reason", "status", "type"] ++ [("lastTransitionTime", .time)])

end StartupGate.Cluster.Schema

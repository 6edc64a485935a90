/-
# StartupGate.Cluster.Error -- why a read of the cluster fails

A request to the cluster's API fails for one of four causes (`ApiFailure`), and every
request is tried several times.  What was read may in turn lack a field, hold no valid
quantity, or not be what was expected; that is not tried again.
-/
import StartupGate.Cluster.NodeUsage
import StartupGate.Retry.Run

set_option autoImplicit false

namespace StartupGate.Cluster

structure ApiStatus where
  status : String
  code : Nat
  reason : String
  message : String
  deriving DecidableEq, Repr

inductive ApiFailure where
  /-- An answer with an error status. -/
  | refused (status : ApiStatus)
  /-- An answer that cannot be decoded. -/
  | undecodable
  | unreachable (reason : String)
  /-- The request cannot be written. -/
  | badRequest
  deriving DecidableEq, Repr

inductive Error where
  | api (failure : Retry.Failure ApiFailure)
  /-- There was no delay to wait for between two requests. -/
  | noDelay (cause : Retry.DelayError)
  /-- The API never answers and nothing ends the wait. -/
  | endless
  | missingField (name : String)
  | quantity (cause : CpuQuantity.Invalid)
  | decode (cause : DecodeError)
  | zeroCapacity (node : String)

def ApiFailure.message : ApiFailure → String
  | .refused status => "ApiError: " ++ status.message
  | .undecodable => "Error deserializing response"
  | .unreachable reason => "ServiceError: " ++ reason
  | .badRequest => "Failed to build request"

def Error.message : Error → String
  | .api failure => "Kubernetes API error: " ++ failure.message ApiFailure.message
  | .noDelay cause => cause.message
  | .endless => "no answer"
  | .missingField name => "Missing required field: " ++ name
  | .quantity cause => cause.message
  | .decode cause => "Failed to decode node metrics: " ++ cause.message
  | .zeroCapacity node => "Node " ++ node ++ " reports zero CPU capacity"

/-! ## What is made of an object -/

/-- The CPU capacity of a node in milli-CPU; a node without any is refused. -/
def Node.capacity (n : Node) : Except Error Nat :=
  match n.cpuCapacity with
  | none => .error (.missingField "status.capacity.cpu")
  | some q =>
      match CpuQuantity.millis q with
      | .error cause => .error (.quantity cause)
      | .ok 0 => .error (.zeroCapacity (n.name.getD ""))
      | .ok millis => .ok millis

/-- The CPU usage in a metrics object in milli-CPU. -/
def usageMillis (metrics : Json) : Except Error Nat :=
  match readUsage metrics with
  | .error cause => .error (.decode cause)
  | .ok q =>
      match CpuQuantity.millis q with
      | .error cause => .error (.quantity cause)
      | .ok millis => .ok millis

end StartupGate.Cluster

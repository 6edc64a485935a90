/-
# StartupGate.Cluster.Object -- the parts of cluster objects that are looked at

Nodes, DaemonSets and pods, cut down to the fields the health checks read.  A field that
an object may leave out is an `Option`; where leaving it out means the same as an empty
value, the empty value stands for both.
-/
import StartupGate.Labels

set_option autoImplicit false

namespace StartupGate.Cluster

structure Node where
  name : Option String
  labels : Option Labels
  cpuCapacity : Option String

/-! ## DaemonSets -/

/-- What the pods of a DaemonSet ask for. -/
structure PodSpec where
  hostNetwork : Option Bool
  nodeSelector : Option Labels

/-- The desired state of a DaemonSet; its template may say nothing about pods. -/
structure DaemonSetSpec where
  podSpec : Option PodSpec

structure Rollout where
  desired : Int
  ready : Int
  deriving DecidableEq, Repr

structure DaemonSet where
  name : Option String
  namespaceName : Option String
  uid : Option String
  labels : Option Labels
  spec : Option DaemonSetSpec
  rollout : Option Rollout

/-! ## Pods -/

structure Condition where
  kind : String
  status : String
  deriving DecidableEq, Repr

structure PodStatus where
  phase : Option String
  conditions : List Condition
  deriving DecidableEq, Repr

/-- A pod; `owners` are the uids of the objects that own it. -/
structure Pod where
  name : Option String
  namespaceName : Option String
  owners : List String
  status : Option PodStatus
  deriving DecidableEq, Repr

end StartupGate.Cluster

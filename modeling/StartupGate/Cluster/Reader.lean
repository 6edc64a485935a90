/-
# StartupGate.Cluster.Reader -- the reads the health checks need

The checks see the cluster through four reads.  `Reads` gives what each read answers;
`Read` names a read, so that a check can say which it made.
-/
import StartupGate.Cluster.Error

set_option autoImplicit false

namespace StartupGate.Cluster

inductive Read where
  | node (name : String)
  | nodeUsage (name : String)
  | daemonSets (namespaceName : Option String)
  | nodePods (node : String)
  deriving DecidableEq, Repr

/-- The short form of a read for a log. -/
def Read.text : Read → String
  | .node name => "node " ++ name
  | .nodeUsage name => "usage " ++ name
  | .daemonSets none => "daemonsets"
  | .daemonSets (some ns) => "daemonsets in " ++ ns
  | .nodePods name => "pods on " ++ name

/-- What a check finds out, and the reads it made, in order. -/
structure Finding where
  healthy : Bool
  reads : List Read
  deriving DecidableEq, Repr

end StartupGate.Cluster

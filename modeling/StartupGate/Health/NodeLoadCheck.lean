/-
# StartupGate.Health.NodeLoadCheck -- whether a node has CPU to spare

The capacity is taken once from the node; a node without capacity gives no check.  A run
reads the usage and passes if the load is within the threshold; a read that fails makes
the node unhealthy.
-/
import StartupGate.Cluster.Reader
import StartupGate.NodeLoad

set_option autoImplicit false

namespace StartupGate

open Cluster

structure NodeLoadCheck where
  nodeName : String
  capacity : Nat
  threshold : Nat
  deriving DecidableEq, Repr

namespace NodeLoadCheck

def name : String := "nodeload"

def new (nodeName : String) (node : Node) (threshold : Nat) : Except Cluster.Error NodeLoadCheck :=
  match node.capacity with
  | .error e => .error e
  | .ok capacity => .ok ⟨nodeName, capacity, threshold⟩

def run {ε : Type} (c : NodeLoadCheck) (usage : Except ε Nat) : Finding :=
  let reads := [Read.nodeUsage c.nodeName]
  match usage with
  | .error _ => ⟨false, reads⟩
  | .ok used => ⟨NodeLoad.within used c.capacity c.threshold, reads⟩

end NodeLoadCheck

end StartupGate

/-
# StartupGate.Health.DaemonSetCheck -- whether a node's DaemonSets are available to it

A DaemonSet counts for a node if no label excludes it, every label to include is there,
it uses the host network if that is asked for, and its pods may run on the node
(`DaemonSetFilter.skip?`).  A node is healthy if every DaemonSet that counts is rolled
out everywhere or has a ready pod on the node.  The pods are read only if some DaemonSet
that counts is not rolled out, and a read that fails makes the node unhealthy.
-/
import StartupGate.Cluster.Reader

set_option autoImplicit false

namespace StartupGate

open Cluster

/-- Why a DaemonSet does not count for a node. -/
inductive SkipReason where
  | excludeLabels | includeLabels | notHostNetwork | nodeSelector
  deriving DecidableEq, Repr

def SkipReason.message : SkipReason → String
  | .excludeLabels => "matches exclude labels"
  | .includeLabels => "does not match include labels"
  | .notHostNetwork => "not on host network"
  | .nodeSelector => "not eligible for scheduling on node"

structure DaemonSetFilter where
  includes : Labels
  excludes : Labels
  hostNetworkOnly : Bool

/-! ## One DaemonSet -/

namespace Cluster.DaemonSet

/-- What the pods of the DaemonSet ask for, if it says so. -/
def podSpec? (ds : DaemonSet) : Option PodSpec := ds.spec.bind DaemonSetSpec.podSpec

/-- The labels; none if there is no such field. -/
def labelSet (ds : DaemonSet) : Labels := ds.labels.getD .empty

/-- The pods use the host network; they do not unless they say so. -/
def usesHostNetwork (ds : DaemonSet) : Bool := (ds.podSpec?.bind PodSpec.hostNetwork).getD false

/-- The labels a node needs for the pods to run on it. -/
def selector (ds : DaemonSet) : Labels := (ds.podSpec?.bind PodSpec.nodeSelector).getD .empty

/-- Every desired pod is ready, anywhere in the cluster; without a status none is desired. -/
def isRolledOut (ds : DaemonSet) : Bool :=
  match ds.rollout with
  | none => true
  | some r => r.desired == r.ready

end Cluster.DaemonSet

/-- The first reason for which a DaemonSet does not count for a node with these labels. -/
def DaemonSetFilter.skip? (f : DaemonSetFilter) (ds : DaemonSet) (node : Labels) :
    Option SkipReason :=
  if !f.excludes.isEmpty && ds.labelSet.holdsAny f.excludes then some .excludeLabels
  else if !f.includes.isEmpty && !ds.labelSet.holdsAll f.includes then some .includeLabels
  else if f.hostNetworkOnly && !ds.usesHostNetwork then some .notHostNetwork
  else if !node.satisfies ds.selector then some .nodeSelector
  else none

def DaemonSetFilter.applies (f : DaemonSetFilter) (node : Labels) (ds : DaemonSet) : Bool :=
  (f.skip? ds node).isNone

/-! ## Its pods -/

/-- The pod names the DaemonSet as an owner; a DaemonSet without a uid owns nothing. -/
def Cluster.Pod.isOwnedBy (pod : Pod) (ds : DaemonSet) : Bool :=
  match ds.uid with
  | none => false
  | some uid => pod.owners.any (· == uid)

def Cluster.Condition.isReady (c : Condition) : Bool := c.kind == "Ready" && c.status == "True"

/-- The pod is running and some condition says that it is ready. -/
def Cluster.Pod.isReady (pod : Pod) : Bool :=
  match pod.status with
  | none => false
  | some status => status.phase == some "Running" && status.conditions.any Condition.isReady

/-- The first pod of the DaemonSet is ready. -/
def Cluster.DaemonSet.hasReadyPod (ds : DaemonSet) (pods : List Pod) : Bool :=
  match pods.find? (·.isOwnedBy ds) with
  | none => false
  | some pod => pod.isReady

/-! ## The check -/

structure DaemonSetCheck where
  filter : DaemonSetFilter
  namespaceName : Option String
  nodeName : String
  nodeLabels : Labels

namespace DaemonSetCheck

def name : String := "daemonsets"

/-- The DaemonSets that count and are not rolled out. -/
def pending (c : DaemonSetCheck) (sets : List DaemonSet) : List DaemonSet :=
  (sets.filter (c.filter.applies c.nodeLabels)).filter fun ds => !ds.isRolledOut

def run {ε : Type} (c : DaemonSetCheck) (sets : Except ε (List DaemonSet))
    (pods : Except ε (List Pod)) : Finding :=
  let listing := Read.daemonSets c.namespaceName
  match sets with
  | .error _ => ⟨false, [listing]⟩
  | .ok sets =>
      let pending := c.pending sets
      if pending.isEmpty then ⟨true, [listing]⟩
      else
        let reads := [listing, .nodePods c.nodeName]
        match pods with
        | .error _ => ⟨false, reads⟩
        | .ok pods => ⟨pending.all (·.hasReadyPod pods), reads⟩

end DaemonSetCheck

end StartupGate

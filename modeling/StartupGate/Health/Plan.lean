/-
# StartupGate.Health.Plan -- which checks a configuration turns on

A plan has three places, for the endpoints, the DaemonSets and the node's load, and holds
a check with its periods in each place that the configuration turns on.  The checks of
the cluster need the node's name, and the node is read once when the plan is built; if
that fails, or the node has no usable capacity for the check of its load, there is no plan.

`HealthPlan.signals` and `HealthPlan.loops` keep the three places in order, so a loop
publishes to the signal of its own place.
-/
import StartupGate.Cluster.Api
import StartupGate.Health.DaemonSetCheck
import StartupGate.Health.EndpointCheck
import StartupGate.Health.Evaluator
import StartupGate.Health.NodeLoadCheck
import StartupGate.Settings.Command

set_option autoImplicit false

namespace StartupGate

open Cluster
open StartupGate.Settings (CheckSettings)

inductive PlanError where
  | noNodeName
  /-- Nothing says where the cluster's API is. -/
  | noCluster
  | unreadableNode (name : String) (cause : Cluster.Error)
  | nodeLoad (cause : Cluster.Error)

def PlanError.message : PlanError → String
  | .noNodeName => "NODE_NAME is required for cluster checks"
  | .noCluster => "no configuration for the cluster was found"
  | .unreadableNode name _ => "failed to read node " ++ name
  | .nodeLoad cause => cause.message

structure Planned (α : Type) where
  check : α
  periods : Periods

/-- The checks that are turned on. -/
structure HealthPlan where
  endpoints : Option (Planned EndpointCheck)
  daemonSets : Option (Planned DaemonSetCheck)
  nodeLoad : Option (Planned NodeLoadCheck)

namespace HealthPlan

/-! ## Building a plan -/

def planEndpoints (c : CheckSettings) : Option (Planned EndpointCheck) :=
  if c.endpointCheckEnabled then
    some ⟨⟨c.endpoints, .ofSeconds c.endpointTimeout⟩, c.endpointPeriods⟩
  else none

/-- The labels and the host network that a configuration asks of DaemonSets. -/
def daemonSetFilter (c : CheckSettings) : DaemonSetFilter :=
  ⟨c.includeLabels, c.excludeLabels, c.daemonSetHostNetwork⟩

def planDaemonSets (c : CheckSettings) (nodeName : String) (node : Node) :
    Option (Planned DaemonSetCheck) :=
  if c.daemonSetCheck then
    some ⟨⟨daemonSetFilter c, c.effectiveNamespace?, nodeName, node.labels.getD .empty⟩,
      c.daemonSetPeriods⟩
  else none

/-- The check of a node's load; a node without usable capacity fails it. -/
def planNodeLoad (c : CheckSettings) (nodeName : String) (node : Node) :
    Except Cluster.Error (Option (Planned NodeLoadCheck)) :=
  if c.nodeLoadCheck then
    match NodeLoadCheck.new nodeName node c.nodeLoadThreshold with
    | .error cause => .error cause
    | .ok check => .ok (some ⟨check, c.nodeLoadPeriods⟩)
  else .ok none

/-- The plan with the checks of the cluster for a node that has been read. -/
def ofNode (c : CheckSettings) (nodeName : String) (node : Node) : Except PlanError HealthPlan :=
  match planNodeLoad c nodeName node with
  | .error cause => .error (.nodeLoad cause)
  | .ok nodeLoad => .ok ⟨planEndpoints c, planDaemonSets c nodeName node, nodeLoad⟩

/-- The way to the cluster's API: how requests are made, and what the API does with those of each
read. -/
structure Access where
  client : Api.Client
  answers : Read → Api.Answers

/-- A plan, or why there is none, and the requests sent for it. -/
structure Building where
  result : Except PlanError HealthPlan
  sent : List Api.Sent

def build (cluster : Option Access) (c : CheckSettings) : Building :=
  if c.clusterChecksEnabled then
    match c.effectiveNodeName?, cluster with
    | none, _ => ⟨.error .noNodeName, []⟩
    | some _, none => ⟨.error .noCluster, []⟩
    | some nodeName, some access =>
        let exchange := Api.node access.client nodeName (access.answers (.node nodeName))
        match exchange.result with
        | .error cause => ⟨.error (.unreadableNode nodeName cause), exchange.sent⟩
        | .ok node => ⟨ofNode c nodeName node, exchange.sent⟩
  else ⟨.ok ⟨planEndpoints c, none, none⟩, []⟩

/-! ## Carrying a plan out -/

structure Behaviours where
  endpoints : Behaviour
  daemonSets : Behaviour
  nodeLoad : Behaviour

/-- The loop of a place; a place without a check has a loop that is switched off. -/
def loopOf {α : Type} (name : String) (place : Option (Planned α)) (b : Behaviour) : Evaluator :=
  match place with
  | some planned => .new name planned.periods b
  | none => .disabled name

def loops (p : HealthPlan) (b : Behaviours) : List Evaluator :=
  [loopOf EndpointCheck.name p.endpoints b.endpoints,
    loopOf DaemonSetCheck.name p.daemonSets b.daemonSets,
    loopOf NodeLoadCheck.name p.nodeLoad b.nodeLoad]

def start (p : HealthPlan) (b : Behaviours) : Evaluators := .new (p.loops b)

/-- The signal of a place before any check has run. -/
def signalOf {α : Type} (name : String) (place : Option (Planned α)) : Signal :=
  if place.isSome then .new name else .disabled name

def signals (p : HealthPlan) : List Signal :=
  [signalOf EndpointCheck.name p.endpoints,
    signalOf DaemonSetCheck.name p.daemonSets,
    signalOf NodeLoadCheck.name p.nodeLoad]

/-! ## What the checks find -/

def endpointVerdict (net : Network) (c : EndpointCheck) : Bool := (c.run net).1

def daemonSetVerdict (access : Access) (c : DaemonSetCheck) : Bool :=
  let sets := Api.daemonSets access.client c.namespaceName (access.answers (.daemonSets c.namespaceName))
  let pods := Api.nodePods access.client c.nodeName (access.answers (.nodePods c.nodeName))
  (c.run sets.result pods.result).healthy

def nodeLoadVerdict (access : Access) (c : NodeLoadCheck) : Bool :=
  let usage := Api.nodeUsage access.client c.nodeName (access.answers (.nodeUsage c.nodeName))
  (c.run usage.result).healthy

/-- The check of a place as a behaviour: every run takes no time and ends with the same verdict. -/
def steady {α : Type} (verdict : α → Bool) (place : Option (Planned α)) : Behaviour :=
  fun _ => ⟨place.any fun planned => verdict planned.check, 0⟩

/-- The behaviours on a network and a cluster that stay as they are. -/
def behaviours (p : HealthPlan) (net : Network) (cluster : Option Access) : Behaviours where
  endpoints := steady (endpointVerdict net) p.endpoints
  daemonSets := steady (fun c => cluster.any fun a => daemonSetVerdict a c) p.daemonSets
  nodeLoad := steady (fun c => cluster.any fun a => nodeLoadVerdict a c) p.nodeLoad

end HealthPlan

end StartupGate

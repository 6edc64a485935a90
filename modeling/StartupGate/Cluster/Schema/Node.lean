/-
# StartupGate.Cluster.Schema.Node -- nodes

A node's status says what the node is, what it has and how it does.
-/
import StartupGate.Cluster.Schema.Metadata

set_option autoImplicit false

namespace StartupGate.Cluster.Schema

open Shape (each textRecord)

/-- Where a node has its settings from. -/
def configSource : Shape :=
  .record [("configMap",
    textRecord ["kubeletConfigKey", "name", "namespace", "resourceVersion", "uid"])]

def nodeSpec : Shape :=
  .record (each .text ["externalID", "podCIDR", "providerID"] ++
    [("configSource", configSource), ("podCIDRs", .texts),
      ("taints", .list (.record (each .text ["effect", "key", "value"] ++ [("timeAdded", .time)]))),
      ("unschedulable", .bool)])

def nodeCondition : Shape :=
  .record (each .text ["message", "reason", "status", "type"] ++
    each .time ["lastHeartbeatTime", "lastTransitionTime"])

def nodeInfo : Shape :=
  textRecord ["architecture", "bootID", "containerRuntimeVersion", "kernelVersion",
    "kubeProxyVersion", "kubeletVersion", "machineID", "operatingSystem", "osImage", "systemUUID"]

/-- What a way of running containers can do. -/
def runtimeHandler : Shape :=
  .record [("features", .record [("recursiveReadOnlyMounts", .bool)]), ("name", .text)]

def nodeStatus : Shape :=
  .record (each .quantities ["allocatable", "capacity"] ++
    [("addresses", .list (textRecord ["address", "type"])), ("conditions", .list nodeCondition),
      ("config", .record (each configSource ["active", "assigned", "lastKnownGood"] ++
        [("error", .text)])),
      ("daemonEndpoints", .record [("kubeletEndpoint", .record [("Port", .int32)])]),
      ("images", .list (.record [("names", .texts), ("sizeBytes", .int64)])),
      ("nodeInfo", nodeInfo), ("phase", .text), ("runtimeHandlers", .list runtimeHandler),
      ("volumesAttached", .list (textRecord ["devicePath", "name"])), ("volumesInUse", .texts)])

def node : Shape :=
  .record [("apiVersion", .exactly "v1"), ("kind", .exactly "Node"), ("metadata", objectMeta),
    ("spec", nodeSpec), ("status", nodeStatus)]

end StartupGate.Cluster.Schema

/-
# StartupGate.Cluster.Schema.DaemonSet -- DaemonSets

A DaemonSet holds the template of its pods and counts how far they are rolled out.
-/
import StartupGate.Cluster.Schema.Pod

set_option autoImplicit false

namespace StartupGate.Cluster.Schema

open Shape (each)

def updateStrategy : Shape :=
  .record [("rollingUpdate", .record (each .intOrText ["maxSurge", "maxUnavailable"])),
    ("type", .text)]

def daemonSetSpec : Shape :=
  .record (each .int32 ["minReadySeconds", "revisionHistoryLimit"] ++
    [("selector", labelSelector),
      ("template", .record [("metadata", objectMeta), ("spec", podSpec)]),
      ("updateStrategy", updateStrategy)])

def daemonSetStatus : Shape :=
  .record (
    each .int32 ["collisionCount", "currentNumberScheduled", "desiredNumberScheduled",
      "numberAvailable", "numberMisscheduled", "numberReady", "numberUnavailable",
      "updatedNumberScheduled"] ++
    [("conditions", .list condition), ("observedGeneration", .int64)])

def daemonSet : Shape :=
  .record [("apiVersion", .exactly "apps/v1"), ("kind", .exactly "DaemonSet"),
    ("metadata", objectMeta), ("spec", daemonSetSpec), ("status", daemonSetStatus)]

end StartupGate.Cluster.Schema

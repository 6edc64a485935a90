/-
# StartupGate.Cluster.Schema.Pod -- pods

`podSpec` is what a pod asks for and `podStatus` what became of it.
-/
import StartupGate.Cluster.Schema.Container

set_option autoImplicit false

namespace StartupGate.Cluster.Schema

open Shape (each textRecord)

/-! ## Placement -/

def nodeConditions : Shape :=
  .list (.record (each .text ["key", "operator"] ++ [("values", .texts)]))

def nodeSelectorTerm : Shape := .record (each nodeConditions ["matchExpressions", "matchFields"])

def podAffinityTerm : Shape :=
  .record (each labelSelector ["labelSelector", "namespaceSelector"] ++
    each .texts ["matchLabelKeys", "mismatchLabelKeys", "namespaces"] ++ [("topologyKey", .text)])

/-- Terms that a placement should meet, by weight, and such that it has to meet. -/
def affinityTerms (term : String) (preferred required : Shape) : Shape :=
  .record [
    ("preferredDuringSchedulingIgnoredDuringExecution",
      .list (.record [(term, preferred), ("weight", .int32)])),
    ("requiredDuringSchedulingIgnoredDuringExecution", required)]

def affinity : Shape :=
  .record (
    [("nodeAffinity", affinityTerms "preference" nodeSelectorTerm
      (.record [("nodeSelectorTerms", .list nodeSelectorTerm)]))] ++
    each (affinityTerms "podAffinityTerm" podAffinityTerm (.list podAffinityTerm))
      ["podAffinity", "podAntiAffinity"])

def toleration : Shape :=
  .record (each .text ["effect", "key", "operator", "value"] ++ [("tolerationSeconds", .int64)])

def topologySpread : Shape :=
  .record (
    each .text ["nodeAffinityPolicy", "nodeTaintsPolicy", "topologyKey", "whenUnsatisfiable"] ++
    each .int32 ["maxSkew", "minDomains"] ++
    [("labelSelector", labelSelector), ("matchLabelKeys", .texts)])

/-! ## Pods -/

def podSecurity : Shape :=
  .record (sharedPermissions ++
    [("fsGroup", .int64), ("fsGroupChangePolicy", .text), ("supplementalGroups", .list .int64),
      ("sysctls", .list (textRecord ["name", "value"]))])

def dnsConfig : Shape :=
  .record (each .texts ["nameservers", "searches"] ++
    [("options", .list (textRecord ["name", "value"]))])

def resourceClaim : Shape :=
  .record [("name", .text),
    ("source", textRecord ["resourceClaimName", "resourceClaimTemplateName"])]

def podSpec : Shape :=
  .record (
    each .text ["dnsPolicy", "hostname", "nodeName", "preemptionPolicy", "priorityClassName",
      "restartPolicy", "runtimeClassName", "schedulerName", "serviceAccount", "serviceAccountName",
      "subdomain"] ++
    each .bool ["automountServiceAccountToken", "enableServiceLinks", "hostIPC", "hostNetwork",
      "hostPID", "hostUsers", "setHostnameAsFQDN", "shareProcessNamespace"] ++
    each .int64 ["activeDeadlineSeconds", "terminationGracePeriodSeconds"] ++
    each (.list container) ["containers", "initContainers"] ++
    [("affinity", affinity), ("dnsConfig", dnsConfig),
      ("ephemeralContainers", .list ephemeralContainer),
      ("hostAliases", .list (.record [("hostnames", .texts), ("ip", .text)])),
      ("imagePullSecrets", .list localReference), ("nodeSelector", .textMap),
      ("os", textRecord ["name"]), ("overhead", .quantities), ("priority", .int32),
      ("readinessGates", .list (textRecord ["conditionType"])),
      ("resourceClaims", .list resourceClaim),
      ("schedulingGates", .list (textRecord ["name"])), ("securityContext", podSecurity),
      ("tolerations", .list toleration), ("topologySpreadConstraints", .list topologySpread),
      ("volumes", .list volume)])

def podCondition : Shape :=
  .record (each .text ["message", "reason", "status", "type"] ++
    each .time ["lastProbeTime", "lastTransitionTime"])

def podStatus : Shape :=
  .record (
    each .text ["hostIP", "message", "nominatedNodeName", "phase", "podIP", "qosClass", "reason",
      "resize"] ++
    each (.list containerStatus) ["containerStatuses", "ephemeralContainerStatuses",
      "initContainerStatuses"] ++
    each (.list (textRecord ["ip"])) ["hostIPs", "podIPs"] ++
    [("conditions", .list podCondition),
      ("resourceClaimStatuses", .list (textRecord ["name", "resourceClaimName"])),
      ("startTime", .time)])

def pod : Shape :=
  .record [("apiVersion", .exactly "v1"), ("kind", .exactly "Pod"), ("metadata", objectMeta),
    ("spec", podSpec), ("status", podStatus)]

end StartupGate.Cluster.Schema

/-
# StartupGate.Cluster.Schema.Container -- the containers of a pod

What runs in a container, how it is probed, what it may do, and what became of it.
-/
import StartupGate.Cluster.Schema.Volume

set_option autoImplicit false

namespace StartupGate.Cluster.Schema

open Shape (each textRecord)

/-! ## Environment -/

/-- A key of a map that may be missing. -/
def keySelector : Shape := .record (each .text ["key", "name"] ++ [("optional", .bool)])

/-- A map that may be missing. -/
def optionalSource : Shape := .record [("name", .text), ("optional", .bool)]

def envVar : Shape :=
  .record (each .text ["name", "value"] ++
    [("valueFrom", .record [("configMapKeyRef", keySelector), ("fieldRef", fieldRef),
      ("resourceFieldRef", resourceFieldRef), ("secretKeyRef", keySelector)])])

def envSource : Shape :=
  .record [("configMapRef", optionalSource), ("prefix", .text), ("secretRef", optionalSource)]

/-! ## Probes and hooks -/

def execAction : Shape := .record [("command", .texts)]

def httpGetAction : Shape :=
  .record (each .text ["host", "path", "scheme"] ++
    [("httpHeaders", .list (textRecord ["name", "value"])), ("port", .intOrText)])

def tcpSocketAction : Shape := .record [("host", .text), ("port", .intOrText)]

/-- What is done at a point in the life of a container. -/
def lifecycleHandler : Shape :=
  .record [("exec", execAction), ("httpGet", httpGetAction),
    ("sleep", .record [("seconds", .int64)]), ("tcpSocket", tcpSocketAction)]

def probe : Shape :=
  .record (
    each .int32 ["failureThreshold", "initialDelaySeconds", "periodSeconds", "successThreshold",
      "timeoutSeconds"] ++
    [("exec", execAction), ("grpc", .record [("port", .int32), ("service", .text)]),
      ("httpGet", httpGetAction), ("tcpSocket", tcpSocketAction),
      ("terminationGracePeriodSeconds", .int64)])

/-! ## Permissions -/

/-- A profile of the host, or one of the standard ones. -/
def localProfile : Shape := textRecord ["localhostProfile", "type"]

def seLinuxOptions : Shape := textRecord ["level", "role", "type", "user"]

def windowsOptions : Shape :=
  .record (each .text ["gmsaCredentialSpec", "gmsaCredentialSpecName", "runAsUserName"] ++
    [("hostProcess", .bool)])

/-- The permissions that a pod and a container can set. -/
def sharedPermissions : List (String × Shape) :=
  [("appArmorProfile", localProfile), ("runAsGroup", .int64), ("runAsNonRoot", .bool),
    ("runAsUser", .int64), ("seLinuxOptions", seLinuxOptions), ("seccompProfile", localProfile),
    ("windowsOptions", windowsOptions)]

def containerSecurity : Shape :=
  .record (sharedPermissions ++
    each .bool ["allowPrivilegeEscalation", "privileged", "readOnlyRootFilesystem"] ++
    [("capabilities", .record (each .texts ["add", "drop"])), ("procMount", .text)])

/-! ## Containers -/

def resources : Shape :=
  .record [("claims", .list (textRecord ["name"])), ("limits", .quantities),
    ("requests", .quantities)]

def containerPort : Shape :=
  .record (each .int32 ["containerPort", "hostPort"] ++ each .text ["hostIP", "name", "protocol"])

def volumeMount : Shape :=
  .record (each .text ["mountPath", "mountPropagation", "name", "recursiveReadOnly", "subPath",
    "subPathExpr"] ++ [("readOnly", .bool)])

def containerFields : List (String × Shape) :=
  each .text ["image", "imagePullPolicy", "name", "restartPolicy", "terminationMessagePath",
    "terminationMessagePolicy", "workingDir"] ++
  each .texts ["args", "command"] ++
  each .bool ["stdin", "stdinOnce", "tty"] ++
  each probe ["livenessProbe", "readinessProbe", "startupProbe"] ++
  [("env", .list envVar), ("envFrom", .list envSource),
    ("lifecycle", .record (each lifecycleHandler ["postStart", "preStop"])),
    ("ports", .list containerPort),
    ("resizePolicy", .list (textRecord ["resourceName", "restartPolicy"])),
    ("resources", resources), ("securityContext", containerSecurity),
    ("volumeDevices", .list (textRecord ["devicePath", "name"])),
    ("volumeMounts", .list volumeMount)]

def container : Shape := .record containerFields

/-- A container that is put into a running pod. -/
def ephemeralContainer : Shape := .record (containerFields ++ [("targetContainerName", .text)])

/-! ## States -/

/-- What a container does now or did last. -/
def containerState : Shape :=
  .record [
    ("running", .record [("startedAt", .time)]),
    ("terminated", .record (each .text ["containerID", "message", "reason"] ++
      each .int32 ["exitCode", "signal"] ++ each .time ["finishedAt", "startedAt"])),
    ("waiting", textRecord ["message", "reason"])]

def containerStatus : Shape :=
  .record (
    each .text ["containerID", "image", "imageID", "name"] ++
    each .bool ["ready", "started"] ++
    each containerState ["lastState", "state"] ++
    [("allocatedResources", .quantities), ("resources", resources), ("restartCount", .int32),
      ("volumeMounts", .list (.record (each .text ["mountPath", "name", "recursiveReadOnly"] ++
        [("readOnly", .bool)])))])

end StartupGate.Cluster.Schema

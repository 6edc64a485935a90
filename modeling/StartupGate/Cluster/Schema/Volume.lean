/-
# StartupGate.Cluster.Schema.Volume -- the volumes of a pod

A volume names exactly one source; the sources differ in their fields.
-/
import StartupGate.Cluster.Schema.Metadata

set_option autoImplicit false

namespace StartupGate.Cluster.Schema

open Shape (each textRecord)

/-! ## Parts of sources -/

/-- A field of the pod itself. -/
def fieldRef : Shape := textRecord ["apiVersion", "fieldPath"]

def resourceFieldRef : Shape :=
  .record (each .text ["containerName", "resource"] ++ [("divisor", .quantity)])

/-- Keys of a map as files. -/
def keysToPaths : Shape := .list (.record (each .text ["key", "path"] ++ [("mode", .int32)]))

/-- Fields of the pod as files. -/
def downwardFiles : Shape :=
  .list (.record [("fieldRef", fieldRef), ("mode", .int32), ("path", .text),
    ("resourceFieldRef", resourceFieldRef)])

/-- Keys of a map that may be missing, as files. -/
def projectedMap : Shape :=
  .record [("items", keysToPaths), ("name", .text), ("optional", .bool)]

/-- A source among several of one volume. -/
def projection : Shape :=
  .record [
    ("clusterTrustBundle", .record (each .text ["name", "path", "signerName"] ++
      [("labelSelector", labelSelector), ("optional", .bool)])),
    ("configMap", projectedMap),
    ("downwardAPI", .record [("items", downwardFiles)]),
    ("secret", projectedMap),
    ("serviceAccountToken", .record (each .text ["audience", "path"] ++
      [("expirationSeconds", .int64)]))]

def volumeClaimSpec : Shape :=
  .record (
    each .text ["storageClassName", "volumeAttributesClassName", "volumeMode", "volumeName"] ++
    [("accessModes", .texts),
      ("dataSource", textRecord ["apiGroup", "kind", "name"]),
      ("dataSourceRef", textRecord ["apiGroup", "kind", "name", "namespace"]),
      ("resources", .record (each .quantities ["limits", "requests"])),
      ("selector", labelSelector)])

/-- A source with texts, a flag for reading only, and further fields. -/
def mounted (texts : List String) (others : List (String × Shape)) : Shape :=
  .record (each .text texts ++ [("readOnly", .bool)] ++ others)

/-! ## Sources -/

/-- The sources that hold data of the cluster or of the node. -/
def localSources : List (String × Shape) :=
  [("configMap", .record [("defaultMode", .int32), ("items", keysToPaths), ("name", .text),
      ("optional", .bool)]),
    ("downwardAPI", .record [("defaultMode", .int32), ("items", downwardFiles)]),
    ("emptyDir", .record [("medium", .text), ("sizeLimit", .quantity)]),
    ("ephemeral", .record [("volumeClaimTemplate",
      .record [("metadata", objectMeta), ("spec", volumeClaimSpec)])]),
    ("gitRepo", textRecord ["directory", "repository", "revision"]),
    ("hostPath", textRecord ["path", "type"]),
    ("persistentVolumeClaim", mounted ["claimName"] []),
    ("projected", .record [("defaultMode", .int32), ("sources", .list projection)]),
    ("secret", .record [("defaultMode", .int32), ("items", keysToPaths), ("optional", .bool),
      ("secretName", .text)])]

/-- The sources that reach a storage system. -/
def remoteSources : List (String × Shape) :=
  [("awsElasticBlockStore", mounted ["fsType", "volumeID"] [("partition", .int32)]),
    ("azureDisk", mounted ["cachingMode", "diskName", "diskURI", "fsType", "kind"] []),
    ("azureFile", mounted ["secretName", "shareName"] []),
    ("cephfs", mounted ["path", "secretFile", "user"]
      [("monitors", .texts), ("secretRef", localReference)]),
    ("cinder", mounted ["fsType", "volumeID"] [("secretRef", localReference)]),
    ("csi", mounted ["driver", "fsType"]
      [("nodePublishSecretRef", localReference), ("volumeAttributes", .textMap)]),
    ("fc", mounted ["fsType"] [("lun", .int32), ("targetWWNs", .texts), ("wwids", .texts)]),
    ("flexVolume", mounted ["driver", "fsType"]
      [("options", .textMap), ("secretRef", localReference)]),
    ("flocker", textRecord ["datasetName", "datasetUUID"]),
    ("gcePersistentDisk", mounted ["fsType", "pdName"] [("partition", .int32)]),
    ("glusterfs", mounted ["endpoints", "path"] []),
    ("iscsi", mounted ["fsType", "initiatorName", "iqn", "iscsiInterface", "targetPortal"]
      (each .bool ["chapAuthDiscovery", "chapAuthSession"] ++
        [("lun", .int32), ("portals", .texts), ("secretRef", localReference)])),
    ("nfs", mounted ["path", "server"] []),
    ("photonPersistentDisk", textRecord ["fsType", "pdID"]),
    ("portworxVolume", mounted ["fsType", "volumeID"] []),
    ("quobyte", mounted ["group", "registry", "tenant", "user", "volume"] []),
    ("rbd", mounted ["fsType", "image", "keyring", "pool", "user"]
      [("monitors", .texts), ("secretRef", localReference)]),
    ("scaleIO", mounted ["fsType", "gateway", "protectionDomain", "storageMode", "storagePool",
      "system", "volumeName"] [("secretRef", localReference), ("sslEnabled", .bool)]),
    ("storageos", mounted ["fsType", "volumeName", "volumeNamespace"]
      [("secretRef", localReference)]),
    ("vsphereVolume", textRecord ["fsType", "storagePolicyID", "storagePolicyName", "volumePath"])]

def volume : Shape := .record ([("name", .text)] ++ localSources ++ remoteSources)

end StartupGate.Cluster.Schema

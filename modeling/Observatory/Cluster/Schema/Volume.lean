import Observatory.Cluster.Schema.Metadata

/-! # Shapes of volumes

The places that the files of a pod come from. A volume has one member for each kind of place.
-/

namespace Observatory.Cluster.Schema

open Document Document.Shape

def objectField : Shape :=
  .record (fields .text ["apiVersion", "fieldPath"])

def resourceField : Shape :=
  .record (fields .text ["containerName", "divisor", "resource"])

/-! ## Claims -/

def claimSpec : Shape :=
  .record (
    fields .text ["storageClassName", "volumeAttributesClassName", "volumeMode", "volumeName"] ++
    [("accessModes", .list .text),
      ("dataSource", .record (fields .text ["apiGroup", "kind", "name"])),
      ("dataSourceRef", .record (fields .text ["apiGroup", "kind", "name", "namespace"])),
      ("resources", .record (fields quantities ["limits", "requests"])),
      ("selector", labelSelector)])

def claimStatus : Shape :=
  .record (
    fields .text ["currentVolumeAttributesClassName", "phase"] ++
    fields quantities ["allocatedResources", "capacity"] ++
    [("accessModes", .list .text),
      ("allocatedResourceStatuses", .map .text),
      ("conditions", .list (condition ["lastProbeTime", "lastTransitionTime"])),
      ("modifyVolumeStatus", .record (fields .text ["status", "targetVolumeAttributesClassName"]))])

def claim : Shape :=
  object "v1" "PersistentVolumeClaim" [("spec", claimSpec), ("status", claimStatus)]

/-! ## Places -/

def keyToPath : Shape :=
  .record (("mode", .int32) :: fields .text ["key", "path"])

def downwardItem : Shape :=
  .record
    [("fieldRef", objectField), ("mode", .int32), ("path", .text), ("resourceFieldRef", resourceField)]

/-- Some keys of a named object, which may not be there. -/
def projectedKeys : List (String × Shape) :=
  [("items", .list keyToPath), ("name", .text), ("optional", .bool)]

def projection : Shape :=
  .record
    [("clusterTrustBundle", .record
        (("labelSelector", labelSelector) :: ("optional", .bool) ::
          fields .text ["name", "path", "signerName"])),
      ("configMap", .record projectedKeys),
      ("downwardAPI", .record [("items", .list downwardItem)]),
      ("secret", .record projectedKeys),
      ("serviceAccountToken", .record
        (("expirationSeconds", .int64) :: fields .text ["audience", "path"]))]

/-- A place that can be read-only and is otherwise described by texts. -/
def readable (texts : List String) : List (String × Shape) :=
  ("readOnly", .bool) :: fields .text texts

/-- Such a place that takes a secret. -/
def guarded (texts : List String) : List (String × Shape) :=
  ("secretRef", nameOnly) :: readable texts

def volume : Shape :=
  .record
    [("awsElasticBlockStore", .record (("partition", .int32) :: readable ["fsType", "volumeID"])),
      ("azureDisk", .record (readable ["cachingMode", "diskName", "diskURI", "fsType", "kind"])),
      ("azureFile", .record (readable ["secretName", "shareName"])),
      ("cephfs", .record (("monitors", .list .text) :: guarded ["path", "secretFile", "user"])),
      ("cinder", .record (guarded ["fsType", "volumeID"])),
      ("configMap", .record (("defaultMode", .int32) :: projectedKeys)),
      ("csi", .record
        (("nodePublishSecretRef", nameOnly) :: ("volumeAttributes", .map .text) ::
          readable ["driver", "fsType"])),
      ("downwardAPI", .record [("defaultMode", .int32), ("items", .list downwardItem)]),
      ("emptyDir", .record (fields .text ["medium", "sizeLimit"])),
      ("ephemeral", .record
        [("volumeClaimTemplate", .record [("metadata", metadata), ("spec", claimSpec)])]),
      ("fc", .record
        (("lun", .int32) :: readable ["fsType"] ++ fields (.list .text) ["targetWWNs", "wwids"])),
      ("flexVolume", .record (("options", .map .text) :: guarded ["driver", "fsType"])),
      ("flocker", .record (fields .text ["datasetName", "datasetUUID"])),
      ("gcePersistentDisk", .record (("partition", .int32) :: readable ["fsType", "pdName"])),
      ("gitRepo", .record (fields .text ["directory", "repository", "revision"])),
      ("glusterfs", .record (readable ["endpoints", "path"])),
      ("hostPath", .record (fields .text ["path", "type"])),
      ("image", .record (fields .text ["pullPolicy", "reference"])),
      ("iscsi", .record
        (("lun", .int32) :: ("portals", .list .text) ::
          fields .bool ["chapAuthDiscovery", "chapAuthSession"] ++
          guarded ["fsType", "initiatorName", "iqn", "iscsiInterface", "targetPortal"])),
      ("name", .text),
      ("nfs", .record (readable ["path", "server"])),
      ("persistentVolumeClaim", .record (readable ["claimName"])),
      ("photonPersistentDisk", .record (fields .text ["fsType", "pdID"])),
      ("portworxVolume", .record (readable ["fsType", "volumeID"])),
      ("projected", .record [("defaultMode", .int32), ("sources", .list projection)]),
      ("quobyte", .record (readable ["group", "registry", "tenant", "user", "volume"])),
      ("rbd", .record
        (("monitors", .list .text) :: guarded ["fsType", "image", "keyring", "pool", "user"])),
      ("scaleIO", .record
        (("sslEnabled", .bool) ::
          guarded ["fsType", "gateway", "protectionDomain", "storageMode", "storagePool", "system",
            "volumeName"])),
      ("secret", .record
        [("defaultMode", .int32), ("items", .list keyToPath), ("optional", .bool),
          ("secretName", .text)]),
      ("storageos", .record (guarded ["fsType", "volumeName", "volumeNamespace"])),
      ("vsphereVolume", .record
        (fields .text ["fsType", "storagePolicyID", "storagePolicyName", "volumePath"]))]

end Observatory.Cluster.Schema

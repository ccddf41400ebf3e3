import ReadyPin.Cluster.VolumeClaim

/-!
# Volumes

A volume of a pod has one of many sources. Two of them matter, because a storage driver can serve them: an inline volume
and a claim. All others are read for their types only, because a volume with a mistyped source is no volume.

In the program: `Volume` of `k8s_openapi`, with the features of `v1_29`.
-/

namespace ReadyPin

/-- A volume of a pod. Of its sources only the two that a storage driver can serve matter. -/
structure Volume where
  /-- The driver of an inline volume. -/
  inlineDriver : Option String := none
  /-- The claim that the volume is bound by. -/
  claim : Option String := none
  deriving Repr, DecidableEq, Inhabited

namespace Volume

variable {m : Type → Type} [Source m]

open Cluster (localReference)

/-! ## 1. Files -/

/-- A field of the pod. -/
def podField : m Unit := Source.shape "ObjectFieldSelector" (Field.each Source.text ["apiVersion", "fieldPath"])

/-- A resource of a container. -/
def containerResource : m Unit :=
  Source.shape "ResourceFieldSelector" (Field.each Source.text ["containerName", "divisor", "resource"])

/-- Keys projected to paths. -/
def keyPaths : m (List Unit) :=
  Source.list (Source.shape "KeyToPath"
    [ .typed "key" Source.text, .typed "mode" Source.int32, .typed "path" Source.text ])

/-- Files with fields of the pod and resources of its containers. -/
def podFiles : m (List Unit) :=
  Source.list (Source.shape "DownwardAPIVolumeFile"
    [ .typed "fieldRef" podField, .typed "mode" Source.int32, .typed "path" Source.text,
      .typed "resourceFieldRef" containerResource ])

/-- Files with the entries of an object, whose name stands under the given key. -/
def entries (name key : String) (others : List (Field m Unit)) : m Unit :=
  Source.shape name ([ .typed "items" keyPaths, .typed key Source.text, .typed "optional" Source.flag ] ++ others)

/-- The mode that files have if none is given for them. -/
def defaultMode : Field m Unit := .typed "defaultMode" Source.int32

/-- One of the sources that are projected into a volume. -/
def projection : m Unit :=
  Source.shape "VolumeProjection"
    [ .typed "clusterTrustBundle" (Source.shape "ClusterTrustBundleProjection"
        ([ .typed "labelSelector" Cluster.labelSelector, .typed "optional" Source.flag ]
          ++ Field.each Source.text ["name", "path", "signerName"])),
      .typed "configMap" (entries "ConfigMapProjection" "name" []),
      .typed "downwardAPI" (Source.shape "DownwardAPIProjection" [ .typed "items" podFiles ]),
      .typed "secret" (entries "SecretProjection" "name" []),
      .typed "serviceAccountToken" (Source.shape "ServiceAccountTokenProjection"
        [ .typed "audience" Source.text, .typed "expirationSeconds" Source.int64, .typed "path" Source.text ]) ]

/-! ## 2. Sources -/

/-- The driver of an inline volume. -/
def inline : m String :=
  Source.record "CSIVolumeSource" ""
    [ .optional "driver" Source.text fun _ v => v.getD "",
      .typed "fsType" Source.text,
      .typed "nodePublishSecretRef" localReference,
      .typed "readOnly" Source.flag,
      .typed "volumeAttributes" Source.textMap ]

/-- The name of a claim. -/
def claimName : m String :=
  Source.record "PersistentVolumeClaimVolumeSource" ""
    [ .optional "claimName" Source.text fun _ v => v.getD "",
      .typed "readOnly" Source.flag ]

/-- What a claim that is made for one pod asks for. Six brackets are open around its metadata where the pod is a whole
text. -/
def claimTemplate : m Unit :=
  Source.shape "PersistentVolumeClaimTemplate"
    [ .typed "metadata" (Metadata.read 6), .typed "spec" VolumeClaim.specification ]

/-- A storage device or service: strings under the given keys, a flag that the volume is read-only, and members that not
all of them have. -/
def device (name : String) (texts : List String) (others : List (Field m Unit)) : m Unit :=
  Source.shape name (.typed "readOnly" Source.flag :: Field.each Source.text texts ++ others)

/-- A reference to the secret that a service asks for. -/
def secretReference : Field m Unit := .typed "secretRef" localReference

/-- The sources beside those that matter. -/
def otherSources : List (Field m Volume) :=
  [ .typed "awsElasticBlockStore" (device "AWSElasticBlockStoreVolumeSource" ["fsType", "volumeID"]
      [ .typed "partition" Source.int32 ]),
    .typed "azureDisk" (device "AzureDiskVolumeSource" ["cachingMode", "diskName", "diskURI", "fsType", "kind"] []),
    .typed "azureFile" (device "AzureFileVolumeSource" ["secretName", "shareName"] []),
    .typed "cephfs" (device "CephFSVolumeSource" ["path", "secretFile", "user"]
      [ .typed "monitors" (Source.list Source.text), secretReference ]),
    .typed "cinder" (device "CinderVolumeSource" ["fsType", "volumeID"] [ secretReference ]),
    .typed "configMap" (entries "ConfigMapVolumeSource" "name" [ defaultMode ]),
    .typed "downwardAPI" (Source.shape "DownwardAPIVolumeSource" [ defaultMode, .typed "items" podFiles ]),
    .typed "emptyDir" (Source.shape "EmptyDirVolumeSource" (Field.each Source.text ["medium", "sizeLimit"])),
    .typed "ephemeral" (Source.shape "EphemeralVolumeSource" [ .typed "volumeClaimTemplate" claimTemplate ]),
    .typed "fc" (device "FCVolumeSource" ["fsType"]
      (.typed "lun" Source.int32 :: Field.each (Source.list Source.text) ["targetWWNs", "wwids"])),
    .typed "flexVolume" (device "FlexVolumeSource" ["driver", "fsType"]
      [ .typed "options" Source.textMap, secretReference ]),
    .typed "flocker" (Source.shape "FlockerVolumeSource" (Field.each Source.text ["datasetName", "datasetUUID"])),
    .typed "gcePersistentDisk" (device "GCEPersistentDiskVolumeSource" ["fsType", "pdName"]
      [ .typed "partition" Source.int32 ]),
    .typed "gitRepo" (Source.shape "GitRepoVolumeSource"
      (Field.each Source.text ["directory", "repository", "revision"])),
    .typed "glusterfs" (device "GlusterfsVolumeSource" ["endpoints", "path"] []),
    .typed "hostPath" (Source.shape "HostPathVolumeSource" (Field.each Source.text ["path", "type"])),
    .typed "iscsi" (device "ISCSIVolumeSource" ["fsType", "initiatorName", "iqn", "iscsiInterface", "targetPortal"]
      (Field.each Source.flag ["chapAuthDiscovery", "chapAuthSession"]
        ++ [ .typed "lun" Source.int32, .typed "portals" (Source.list Source.text), secretReference ])),
    .typed "nfs" (device "NFSVolumeSource" ["path", "server"] []),
    .typed "photonPersistentDisk" (Source.shape "PhotonPersistentDiskVolumeSource"
      (Field.each Source.text ["fsType", "pdID"])),
    .typed "portworxVolume" (device "PortworxVolumeSource" ["fsType", "volumeID"] []),
    .typed "projected" (Source.shape "ProjectedVolumeSource"
      [ defaultMode, .typed "sources" (Source.list projection) ]),
    .typed "quobyte" (device "QuobyteVolumeSource" ["group", "registry", "tenant", "user", "volume"] []),
    .typed "rbd" (device "RBDVolumeSource" ["fsType", "image", "keyring", "pool", "user"]
      [ .typed "monitors" (Source.list Source.text), secretReference ]),
    .typed "scaleIO" (device "ScaleIOVolumeSource"
      ["fsType", "gateway", "protectionDomain", "storageMode", "storagePool", "system", "volumeName"]
      [ secretReference, .typed "sslEnabled" Source.flag ]),
    .typed "secret" (entries "SecretVolumeSource" "secretName" [ defaultMode ]),
    .typed "storageos" (device "StorageOSVolumeSource" ["fsType", "volumeName", "volumeNamespace"]
      [ secretReference ]),
    .typed "vsphereVolume" (Source.shape "VsphereVirtualDiskVolumeSource"
      (Field.each Source.text ["fsType", "storagePolicyID", "storagePolicyName", "volumePath"])) ]

/-- A volume. -/
def read : m Volume :=
  Source.record "Volume" {}
    ([ .optional "csi" inline fun self v => { self with inlineDriver := v },
       .typed "name" Source.text,
       .optional "persistentVolumeClaim" claimName fun self v => { self with claim := v } ] ++ otherSources)

end Volume

end ReadyPin

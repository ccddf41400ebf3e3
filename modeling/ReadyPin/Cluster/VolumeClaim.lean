import ReadyPin.Cluster.Metadata
import ReadyPin.Cluster.Parts

/-!
# Persistent volume claims

Of a claim only the storage class that it asks for matters. It may ask for none, and then the default class counts.

In the program: `PersistentVolumeClaim` of `k8s_openapi`, with the features of `v1_29`.
-/

namespace ReadyPin

/-- A persistent volume claim. -/
structure VolumeClaim where
  /-- The storage class that the claim names. -/
  storageClass : Option String := none
  deriving Repr, DecidableEq, Inhabited

namespace VolumeClaim

variable {m : Type → Type} [Source m]

/-- A reference to an object of the given kind of reference, with names under the given keys. -/
def reference (name : String) (keys : List String) : m Unit := Source.shape name (Field.each Source.text keys)

/-- Amounts of storage, asked for or allowed. -/
def resources : m Unit :=
  Source.shape "VolumeResourceRequirements" (Field.each Cluster.quantities ["limits", "requests"])

/-- The class that the specification of a claim names. -/
def specification : m (Option String) :=
  Source.record "PersistentVolumeClaimSpec" none
    [ .typed "accessModes" (Source.list Source.text),
      .typed "dataSource" (reference "TypedLocalObjectReference" ["apiGroup", "kind", "name"]),
      .typed "dataSourceRef" (reference "TypedObjectReference" ["apiGroup", "kind", "name", "namespace"]),
      .typed "resources" resources,
      .typed "selector" Cluster.labelSelector,
      .optional "storageClassName" Source.text fun _ v => v,
      .typed "volumeAttributesClassName" Source.text,
      .typed "volumeMode" Source.text,
      .typed "volumeName" Source.text ]

/-- The state that a claim is in. -/
def status : m Unit :=
  Source.shape "PersistentVolumeClaimStatus"
    [ .typed "accessModes" (Source.list Source.text),
      .typed "allocatedResourceStatuses" Source.textMap,
      .typed "allocatedResources" Cluster.quantities,
      .typed "capacity" Cluster.quantities,
      .typed "conditions" (Source.list (Cluster.condition "PersistentVolumeClaimCondition")),
      .typed "currentVolumeAttributesClassName" Source.text,
      .typed "modifyVolumeStatus"
        (Source.shape "ModifyVolumeStatus" (Field.each Source.text ["status", "targetVolumeAttributesClassName"])),
      .typed "phase" Source.text ]

/-- A persistent volume claim, which is a whole text. -/
def read : m VolumeClaim :=
  Source.record "PersistentVolumeClaim" {}
    [ .constant "apiVersion" "v1",
      .constant "kind" "PersistentVolumeClaim",
      .typed "metadata" (Metadata.read 1),
      .optional "spec" specification fun _ v => { storageClass := v.join },
      .typed "status" status ]

end VolumeClaim

end ReadyPin

import ReadyPin.Cluster.Metadata

/-!
# Storage classes

A storage class names the driver that makes its volumes, the provisioner. One class of the cluster can be marked by an
annotation as the default, for claims that ask for none.

In the program: `StorageClass` of `k8s_openapi`, and `is_default_class`.
-/

namespace ReadyPin

/-- A storage class. -/
structure StorageClass where
  metadata : Metadata := {}
  /-- The driver that makes the volumes of this class. -/
  provisioner : String := ""
  deriving Repr, DecidableEq, Inhabited

namespace StorageClass

/-- The annotation that marks a default class. -/
def defaultAnnotation : String := "storageclass.kubernetes.io/is-default-class"

/-- Whether the class is marked as a default: the annotation must be exactly `true`. -/
def isDefault (self : StorageClass) : Bool := self.metadata.annotation? defaultAnnotation == some "true"

variable {m : Type → Type} [Source m]

/-- Labels that nodes can have for the class to be allowed there. -/
def topologyTerm : m Unit :=
  Source.shape "TopologySelectorTerm"
    [ .typed "matchLabelExpressions" (Source.list (Source.shape "TopologySelectorLabelRequirement"
        [ .typed "key" Source.text, .typed "values" (Source.list Source.text) ])) ]

/-- A storage class; `outside` is the number of brackets that are open around it. -/
def read (outside : Nat := 0) : m StorageClass :=
  Source.record "StorageClass" {}
    [ .typed "allowVolumeExpansion" Source.flag,
      .typed "allowedTopologies" (Source.list topologyTerm),
      .constant "apiVersion" "storage.k8s.io/v1",
      .constant "kind" "StorageClass",
      .optional "metadata" (Metadata.read (outside + 1)) fun self v => { self with metadata := v.getD {} },
      .typed "mountOptions" (Source.list Source.text),
      .typed "parameters" Source.textMap,
      .optional "provisioner" Source.text fun self v => { self with provisioner := v.getD "" },
      .typed "reclaimPolicy" Source.text,
      .typed "volumeBindingMode" Source.text ]

end StorageClass

end ReadyPin

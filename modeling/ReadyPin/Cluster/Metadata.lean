import ReadyPin.Json.Source

/-!
# Object metadata

What every object of the cluster says about itself, as far as it matters here: the name, the namespace, the version
and the annotations. The other known members are read for their types only.

In the program: `ObjectMeta` and `ListMeta` of `k8s_openapi`.
-/

namespace ReadyPin

/-- The metadata of an object. -/
structure Metadata where
  name : Option String := none
  inNamespace : Option String := none
  /-- The version of the object that a watch goes on from. -/
  resourceVersion : Option String := none
  annotations : List (String × String) := []
  deriving Repr, DecidableEq, Inhabited

namespace Metadata

variable {m : Type → Type} [Source m]

/-- The value of an annotation. -/
def annotation? (self : Metadata) (key : String) : Option String := Json.lookup self.annotations key

/-- A reference to the object that owns another one. -/
def ownerReference : m Unit :=
  Source.shape "OwnerReference"
    [ .typed "apiVersion" Source.text, .typed "blockOwnerDeletion" Source.flag, .typed "controller" Source.flag,
      .typed "kind" Source.text, .typed "name" Source.text, .typed "uid" Source.text ]

/-- What one manager has set of an object; `outside` as in `read`. -/
def managerEntry (outside : Nat) : m Unit :=
  Source.shape "ManagedFieldsEntry"
    [ .typed "apiVersion" Source.text, .typed "fieldsType" Source.text, .typed "fieldsV1" (Source.kept (outside + 1)),
      .typed "manager" Source.text, .typed "operation" Source.text, .typed "subresource" Source.text,
      .typed "time" Source.timestamp ]

/-- The metadata of an object; `outside` is the number of brackets that are open around it. -/
def read (outside : Nat) : m Metadata :=
  Source.record "ObjectMeta" {}
    [ .optional "annotations" Source.textMap fun self v => { self with annotations := v.getD [] },
      .typed "creationTimestamp" Source.timestamp,
      .typed "deletionGracePeriodSeconds" Source.int64,
      .typed "deletionTimestamp" Source.timestamp,
      .typed "finalizers" (Source.list Source.text),
      .typed "generateName" Source.text,
      .typed "generation" Source.int64,
      .typed "labels" Source.textMap,
      .typed "managedFields" (Source.list (managerEntry (outside + 2))),
      .optional "name" Source.text fun self v => { self with name := v },
      .optional "namespace" Source.text fun self v => { self with inNamespace := v },
      .typed "ownerReferences" (Source.list ownerReference),
      .optional "resourceVersion" Source.text fun self v => { self with resourceVersion := v },
      .typed "selfLink" Source.text,
      .typed "uid" Source.text ]

end Metadata

/-- The metadata of a list of objects. -/
structure ListMetadata where
  /-- Where the list goes on, if it has further pages. -/
  continueAt : Option String := none
  resourceVersion : Option String := none
  deriving Repr, DecidableEq, Inhabited

/-- The metadata of a list of objects. -/
def ListMetadata.read {m : Type → Type} [Source m] : m ListMetadata :=
  Source.record "ListMeta" {}
    [ .optional "continue" Source.text fun self v => { self with continueAt := v },
      .typed "remainingItemCount" Source.int64,
      .optional "resourceVersion" Source.text fun self v => { self with resourceVersion := v },
      .typed "selfLink" Source.text ]

end ReadyPin

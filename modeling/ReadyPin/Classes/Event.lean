import ReadyPin.Classes.ClassSet
import ReadyPin.Cluster.StorageClass

/-!
# Storage class events

The class set follows the events of a watch on the storage classes. A class of the driver is added when it is seen and
removed when it is deleted; classes of other drivers, and those without a name, change nothing. Only a deletion
removes a name: a class that is moved to another driver stays, and a new listing evicts none.

In the program: `ClassProjection::apply`, with `on_apply`, `on_delete` and `is_driver_backed`.
-/

namespace ReadyPin

/-! ## 1. Events -/

/-- What a watch on the storage classes reports. -/
inductive ClassEvent where
  /-- A class was made or changed. -/
  | applied (storageClass : StorageClass)
  | deleted (storageClass : StorageClass)
  /-- The watch starts again with all classes there are. -/
  | restarted (storageClasses : List StorageClass)
  deriving Repr, DecidableEq

/-- The label under which an event is counted. -/
def ClassEvent.kind : ClassEvent → String
  | .applied _ => "applied"
  | .deleted _ => "deleted"
  | .restarted _ => "restarted"

/-- The label under which an error of the watch is counted. -/
def ClassEvent.errorKind : String := "error"

/-! ## 2. The set after an event -/

namespace ClassSet

/-- The set after a class of the cluster was seen. -/
def onApplied (driver : String) (self : ClassSet) (c : StorageClass) : ClassSet :=
  match c.metadata.name with
  | none => self
  | some name =>
    if c.provisioner ≠ driver then self
    else
      let self := self.insert name ()
      if c.isDefault then self.insert defaultClass () else self

/-- The set after a class of the cluster was deleted. -/
def onDeleted (driver : String) (self : ClassSet) (c : StorageClass) : ClassSet :=
  match c.metadata.name with
  | none => self
  | some name =>
    if c.provisioner ≠ driver then self
    else
      let self := self.erase name
      if c.isDefault then self.erase defaultClass else self

/-- The set after an event. -/
def after (driver : String) (self : ClassSet) : ClassEvent → ClassSet
  | .applied c => self.onApplied driver c
  | .deleted c => self.onDeleted driver c
  | .restarted cs => cs.foldl (onApplied driver) self

end ClassSet

end ReadyPin

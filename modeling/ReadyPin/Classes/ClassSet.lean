import ReadyPin.Text.ByteOrder

/-!
# The class set

The names of the storage classes that the driver serves. One name is reserved: the empty one says that the default
class of the cluster is among them.

In the program: `DriverClassSet`, with `DEFAULT_CLASS_SENTINEL` for the reserved name.
-/

namespace ReadyPin

/-- A set of class names. -/
abbrev ClassSet := OrderedMap Unit

namespace ClassSet

/-- The reserved name that stands for the default class. -/
def defaultClass : String := ""

/-- The names in the order of their bytes. -/
def names (self : ClassSet) : List String := self.keys

/-- Whether there are no names. -/
def isEmpty (self : ClassSet) : Bool := self.entries.isEmpty

/-- The set with a name, and whether it is new. -/
def add (self : ClassSet) (name : String) : Bool × ClassSet := (!self.contains name, self.insert name ())

/-- The set without a name, and whether it was there. -/
def remove (self : ClassSet) (name : String) : Bool × ClassSet := (self.contains name, self.erase name)

/-- The set of some names. -/
def ofList (names : List String) : ClassSet := names.foldl (fun set name => set.insert name ()) {}

end ClassSet

end ReadyPin

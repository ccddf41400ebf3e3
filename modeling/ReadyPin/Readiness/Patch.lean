import ReadyPin.Json.Printer
import ReadyPin.Readiness.Base64
import ReadyPin.Readiness.Pointer
import ReadyPin.Text.Utf8

/-!
# The readiness patch

A driver marks the nodes on which it is ready with a label of its own. The patch adds that label to the node selector
of a pod, so that the pod is placed on such a node. It is the same for every pod and is made once for a driver.

In the program: `ReadinessPatch::new` and `driver_ready_label`.
-/

namespace ReadyPin

namespace Readiness

/-- The value of the label on nodes where the driver is ready. -/
def readyValue : String := "true"

/-- The label of a driver. -/
def label (driver : String) : String := driver ++ "/driver-ready"

/-- Where the label stands in a pod. -/
def target (driver : String) : String := Pointer.ofKeys ["spec", "nodeSelector", label driver]

/-- The patch as a list of one operation, which adds the label to the node selector. -/
def document (driver : String) : Json :=
  .array [.object [("op", .string "add"), ("path", .string (target driver)), ("value", .string readyValue)]]

end Readiness

/-- The patch of a driver. -/
structure ReadinessPatch where
  label : String
  /-- The document in base64, the form in which a response carries it. -/
  encoded : String
  deriving Repr, DecidableEq

namespace ReadinessPatch

/-- The patch of a driver. -/
def ofDriver (driver : String) : ReadinessPatch where
  label := Readiness.label driver
  encoded := String.ofList (Base64.encode (Utf8.encode (Readiness.document driver).print))

end ReadinessPatch

end ReadyPin

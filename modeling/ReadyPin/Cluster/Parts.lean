import ReadyPin.Json.Source

/-!
# Parts of objects

What objects of several kinds are made of. Only its types matter.

In the program: types of `k8s_openapi` that others share, such as `LabelSelector`.
-/

namespace ReadyPin.Cluster

variable {m : Type → Type} [Source m]

/-- A reference to an object of the same namespace. -/
def localReference : m Unit := Source.shape "LocalObjectReference" (Field.each Source.text ["name"])

/-- Amounts by the names of what there is an amount of. -/
def quantities : m (List (String × String)) := Source.textMap

/-- One requirement on the labels of an object. -/
def labelRequirement : m Unit :=
  Source.shape "LabelSelectorRequirement"
    [ .typed "key" Source.text, .typed "operator" Source.text, .typed "values" (Source.list Source.text) ]

/-- A selector of objects by their labels. -/
def labelSelector : m Unit :=
  Source.shape "LabelSelector"
    [ .typed "matchExpressions" (Source.list labelRequirement), .typed "matchLabels" Source.textMap ]

/-- A condition that an object is in or not. -/
def condition (name : String) : m Unit :=
  Source.shape name
    (Field.each Source.timestamp ["lastProbeTime", "lastTransitionTime"]
      ++ Field.each Source.text ["message", "reason", "status", "type"])

end ReadyPin.Cluster

import ReadyPin.Cluster.Pod

/-!
# The ready preference

A pod prefers ready nodes already if it mentions the readiness label: as a key of its node selector, or in a
requirement on the labels of nodes, required or preferred. What is asked of the label's value does not matter.

In the program: `has_ready_preference` and `term_references`.
-/

namespace ReadyPin

/-- Whether a requirement on labels in the term is about the given label. -/
def NodeTerm.mentions (self : NodeTerm) (label : String) : Bool := self.onLabels.any (·.key == label)

/-- Whether a term of the affinity is about the given label. -/
def NodeAffinity.mentions (self : NodeAffinity) (label : String) : Bool :=
  self.required.any (·.mentions label) || self.preferred.any (·.mentions label)

/-- Whether the node selector or the node affinity is about the given label. -/
def PodSpec.mentions (self : PodSpec) (label : String) : Bool :=
  self.nodeSelector.any (·.1 == label) || self.nodeAffinity.any (·.mentions label)

/-- Whether the pod asks for nodes by the given label. -/
def Pod.prefers (self : Pod) (label : String) : Bool := self.spec.any (·.mentions label)

end ReadyPin

import ReadyPin.Classes.ClassSet
import ReadyPin.Policy.Preference
import ReadyPin.Readiness.Patch

/-!
# Decisions

Whether a pod is pinned to nodes where the driver is ready. A pod with a ready preference is left alone. Otherwise it is
pinned if it uses the driver: by an inline volume, or by a claim whose storage class is in the class set. A claim
that names no class counts as one for the default class, and a claim that cannot be looked up counts as not using
the driver.

Inline volumes need no lookup and come first; claims are looked up in their order until one uses the driver.

In the program: `DecisionEngine::decide`, with `uses_driver` and `is_inline_driver_volume`, over a `ClaimResolver`.
-/

namespace ReadyPin

/-- What is done with a pod. -/
inductive Decision where
  /-- The pod has a ready preference. -/
  | alreadyPreferred
  /-- The pod uses the driver and is given the patch. -/
  | mutate
  /-- No volume of the pod uses the driver. -/
  | notUsingDriver
  deriving Repr, DecidableEq

/-- Whether the patch is given with a decision. -/
def Decision.patches : Decision → Bool
  | .mutate => true
  | _ => false

/-- Looks up a claim by its namespace and name: the storage class that it names, if it names one. -/
abbrev ClaimLookup (ε : Type) := String → String → Except ε (Option String)

/-- A decision with what was done to reach it. -/
structure Verdict where
  decision : Decision
  /-- The claims that were looked up, by namespace and name, in order. -/
  lookups : List (String × String) := []
  /-- How many of the lookups failed. -/
  failures : Nat := 0
  deriving Repr, DecidableEq

namespace Verdict

/-- The verdict with one more lookup before the others. -/
def afterLookup (self : Verdict) (pair : String × String) (failed : Bool) : Verdict :=
  { self with lookups := pair :: self.lookups, failures := if failed then self.failures + 1 else self.failures }

end Verdict

variable {ε : Type}

/-- The class that a claim counts for: the one it names, or the default class. -/
def ClassSet.effective (named : Option String) : String := named.getD ClassSet.defaultClass

/-- The namespace of a pod; the empty one if it has none. -/
def Pod.inNamespace (self : Pod) : String := self.metadata.inNamespace.getD ""

/-- The volumes of a pod. -/
def Pod.volumes (self : Pod) : List Volume := (self.spec.map PodSpec.volumes).getD []

namespace Policy

/-- Looks up claims in their order until one has a class of the set. -/
def lookUpClaims (classes : ClassSet) (lookup : ClaimLookup ε) (inNamespace : String) : List String → Verdict
  | [] => { decision := .notUsingDriver }
  | claim :: claims =>
    match lookup inNamespace claim with
    | .ok named =>
      if classes.contains (ClassSet.effective named) then
        { decision := .mutate, lookups := [(inNamespace, claim)] }
      else (lookUpClaims classes lookup inNamespace claims).afterLookup (inNamespace, claim) false
    | .error _ => (lookUpClaims classes lookup inNamespace claims).afterLookup (inNamespace, claim) true

/-- Decides on a pod. -/
def decide (driver : String) (classes : ClassSet) (lookup : ClaimLookup ε) (pod : Pod) : Verdict :=
  if pod.prefers (Readiness.label driver) then { decision := .alreadyPreferred }
  else if pod.volumes.any (·.inlineDriver == some driver) then { decision := .mutate }
  else lookUpClaims classes lookup pod.inNamespace (pod.volumes.filterMap Volume.claim)

end Policy

end ReadyPin

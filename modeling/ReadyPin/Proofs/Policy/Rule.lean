import Mathlib.Data.List.Forall2
import ReadyPin.Policy.Decision

/-!
# The rule behind a decision

A decision is reached in steps: the preference, then the inline volumes, then one claim after the other until one
counts. What comes of it can be said without any order. A pod that asks for ready nodes is left alone; any other pod is
given the patch exactly if one of its volumes brings the driver in, by itself or by the class of its claim
(`decision_is_the_rule`).

So it does not matter in which order the volumes of a pod stand, or the terms of its affinity and the requirements in
them (`Pod.Reordered`), and a volume whose claim cannot be looked up could as well not be there.
-/

namespace ReadyPin

variable {ε : Type}

/-! ## 1. Pods that ask for nodes by a label -/

/-- A requirement of one of the terms is about the label. -/
def NodeTerm.OneAsksFor (label : String) (terms : List NodeTerm) : Prop :=
  ∃ term ∈ terms, ∃ requirement ∈ term.onLabels, requirement.key = label

/-- The pod asks for nodes by a label: as a key of its node selector, or in a term of its node affinity. -/
def Pod.AsksFor (label : String) (self : Pod) : Prop :=
  ∃ spec, self.spec = some spec ∧ ((∃ value, (label, value) ∈ spec.nodeSelector)
    ∨ ∃ affinity, spec.nodeAffinity = some affinity
      ∧ (NodeTerm.OneAsksFor label affinity.required ∨ NodeTerm.OneAsksFor label affinity.preferred))

theorem NodeTerm.any_mentions_iff (label : String) (terms : List NodeTerm) :
    terms.any (·.mentions label) = true ↔ OneAsksFor label terms := by
  simp only [List.any_eq_true, mentions, beq_iff_eq, OneAsksFor]

theorem Pod.prefers_iff_asksFor (pod : Pod) (label : String) : pod.prefers label = true ↔ pod.AsksFor label := by
  have hselector : ∀ spec : PodSpec,
      spec.nodeSelector.any (·.1 == label) = true ↔ ∃ value, (label, value) ∈ spec.nodeSelector := by
    intro spec
    simp only [List.any_eq_true, beq_iff_eq, Prod.exists]
    constructor
    · rintro ⟨key, value, hmem, rfl⟩
      exact ⟨value, hmem⟩
    · rintro ⟨value, hmem⟩
      exact ⟨label, value, hmem, rfl⟩
  simp only [prefers, Option.any_eq_true, PodSpec.mentions, Bool.or_eq_true, hselector, NodeAffinity.mentions,
    NodeTerm.any_mentions_iff, AsksFor]

/-! ## 2. Volumes that bring the driver in -/

namespace Policy

variable (driver : String) (classes : ClassSet) (lookup : ClaimLookup ε) (inNamespace : String)

/-- A claim counts if it can be looked up and its class is in the set. -/
def counts (claim : String) : Bool :=
  match lookup inNamespace claim with
  | .ok named => classes.contains (ClassSet.effective named)
  | .error _ => false

/-- Whether a volume is one of the driver, an inline one or one by a claim that counts. -/
def brings (volume : Volume) : Bool :=
  volume.inlineDriver == some driver || volume.claim.any (counts classes lookup inNamespace)

variable {classes lookup inNamespace} in
theorem counts_iff {claim : String} : counts classes lookup inNamespace claim = true ↔
    ∃ named, lookup inNamespace claim = .ok named ∧ classes.contains (named.getD ClassSet.defaultClass) = true := by
  unfold counts
  cases lookup inNamespace claim with
  | error fault => simp
  | ok named => simp [ClassSet.effective]

theorem brings_iff (volume : Volume) : brings driver classes lookup inNamespace volume = true ↔
    volume.inlineDriver = some driver
    ∨ ∃ claim named, volume.claim = some claim ∧ lookup inNamespace claim = .ok named
      ∧ classes.contains (named.getD ClassSet.defaultClass) = true := by
  simp only [brings, Bool.or_eq_true, beq_iff_eq, Option.any_eq_true, counts_iff, exists_and_left]

/-! ## 3. Decisions -/

/-- Looking claims up one after the other finds out whether there is one that counts, wherever it stands. -/
theorem lookUpClaims_decision (claims : List String) :
    (lookUpClaims classes lookup inNamespace claims).decision
      = if claims.any (counts classes lookup inNamespace) then .mutate else .notUsingDriver := by
  induction claims with
  | nil => rfl
  | cons claim claims ih =>
    rw [lookUpClaims, List.any_cons, counts]
    cases lookup inNamespace claim with
    | error fault => exact ih
    | ok named =>
      cases hclass : classes.contains (ClassSet.effective named) with
      | true => simp only [hclass, if_true, Bool.true_or]
      | false =>
        simp only [hclass, Bool.false_eq_true, if_false, Bool.false_or]
        exact ih

/-- The decision, without any order. -/
theorem decide_decision (pod : Pod) :
    (decide driver classes lookup pod).decision
      = if pod.prefers (Readiness.label driver) then .alreadyPreferred
        else if pod.volumes.any (brings driver classes lookup pod.inNamespace) then .mutate
        else .notUsingDriver := by
  have hclaims : (pod.volumes.filterMap Volume.claim).any (counts classes lookup pod.inNamespace)
      = pod.volumes.any fun volume => volume.claim.any (counts classes lookup pod.inNamespace) := by
    rw [List.any_filterMap]
    rfl
  have hvolumes : pod.volumes.any (brings driver classes lookup pod.inNamespace)
      = (pod.volumes.any (·.inlineDriver == some driver)
        || (pod.volumes.filterMap Volume.claim).any (counts classes lookup pod.inNamespace)) := by
    rw [hclaims, Bool.eq_iff_iff]
    simp only [Bool.or_eq_true, List.any_eq_true, brings, and_or_left, exists_or]
  rw [hvolumes, decide]
  split
  · rfl
  cases pod.volumes.any (·.inlineDriver == some driver) with
  | true => rfl
  | false =>
    rw [Bool.false_or]
    exact lookUpClaims_decision classes lookup pod.inNamespace _

end Policy

/-! ## 4. What does not matter -/

/-- The same terms in another order, each with the same requirements on labels in another order. -/
def NodeTerm.Reordered (terms others : List NodeTerm) : Prop :=
  ∃ middle, terms.Perm middle ∧ List.Forall₂ (fun one other => one.onLabels.Perm other.onLabels) middle others

/-- The same terms in another order, required and preferred. -/
structure NodeAffinity.Reordered (one other : NodeAffinity) : Prop where
  required : NodeTerm.Reordered one.required other.required
  preferred : NodeTerm.Reordered one.preferred other.preferred

/-- The same spec, with everything in it in another order. -/
structure PodSpec.Reordered (one other : PodSpec) : Prop where
  nodeSelector : one.nodeSelector.Perm other.nodeSelector
  nodeAffinity : Option.Rel NodeAffinity.Reordered one.nodeAffinity other.nodeAffinity
  volumes : one.volumes.Perm other.volumes

/-- The same pod of the same namespace, with everything in its spec in another order. -/
structure Pod.Reordered (one other : Pod) : Prop where
  inNamespace : one.metadata.inNamespace = other.metadata.inNamespace
  spec : Option.Rel PodSpec.Reordered one.spec other.spec

theorem NodeTerm.Reordered.any_mentions {terms others : List NodeTerm} (h : Reordered terms others) (label : String) :
    terms.any (·.mentions label) = others.any (·.mentions label) := by
  obtain ⟨middle, hperm, hsame⟩ := h
  rw [hperm.any_eq]
  clear hperm
  induction hsame with
  | nil => rfl
  | cons hterm _ ih => rw [List.any_cons, List.any_cons, ih, mentions, mentions, hterm.any_eq]

theorem Pod.Reordered.prefers {one other : Pod} (h : one.Reordered other) (label : String) :
    one.prefers label = other.prefers label := by
  have hspec := h.spec
  unfold Pod.prefers
  generalize one.spec = spec, other.spec = otherSpec at hspec
  cases hspec with
  | none => rfl
  | some hspec =>
    have haffinity := hspec.nodeAffinity
    rw [Option.any_some, Option.any_some, PodSpec.mentions, PodSpec.mentions, hspec.nodeSelector.any_eq]
    revert haffinity
    generalize PodSpec.nodeAffinity _ = affinity, PodSpec.nodeAffinity _ = otherAffinity
    intro haffinity
    cases haffinity with
    | none => rfl
    | some haffinity =>
      rw [Option.any_some, Option.any_some, NodeAffinity.mentions, NodeAffinity.mentions,
        haffinity.required.any_mentions, haffinity.preferred.any_mentions]

theorem Pod.Reordered.volumes {one other : Pod} (h : one.Reordered other) : one.volumes.Perm other.volumes := by
  have hspec := h.spec
  unfold Pod.volumes
  generalize one.spec = spec, other.spec = otherSpec at hspec
  cases hspec with
  | none => exact .nil
  | some hspec => exact hspec.volumes

/-- The pod with other volumes, if it has a spec at all. -/
def Pod.withVolumes (volumes : List Volume) (self : Pod) : Pod :=
  { self with spec := self.spec.map fun spec => { spec with volumes } }

theorem Pod.prefers_withVolumes (pod : Pod) (volumes : List Volume) (label : String) :
    (pod.withVolumes volumes).prefers label = pod.prefers label := by
  unfold prefers withVolumes
  cases pod.spec <;> rfl

theorem Pod.volumes_withVolumes {pod : Pod} (volumes : List Volume) (h : pod.volumes ≠ []) :
    (pod.withVolumes volumes).volumes = volumes := by
  unfold Pod.volumes withVolumes at *
  cases hspec : pod.spec with
  | none => simp [hspec] at h
  | some spec => rfl

namespace Policy

variable (driver : String) (classes : ClassSet) (lookup : ClaimLookup ε)

/-- Pods that differ in order only are decided on alike. -/
theorem decision_of_reordered {one other : Pod} (h : one.Reordered other) :
    (decide driver classes lookup one).decision = (decide driver classes lookup other).decision := by
  have hplace : one.inNamespace = other.inNamespace := congrArg (Option.getD · "") h.inNamespace
  rw [decide_decision, decide_decision, h.prefers, hplace, h.volumes.any_eq]

/-- A volume that does not bring the driver in can be left out. -/
theorem decision_without {pod : Pod} {before after : List Volume} {volume : Volume}
    (hvolumes : pod.volumes = before ++ volume :: after)
    (hvolume : brings driver classes lookup pod.inNamespace volume = false) :
    (decide driver classes lookup pod).decision
      = (decide driver classes lookup (pod.withVolumes (before ++ after))).decision := by
  have hrest : (pod.withVolumes (before ++ after)).volumes = before ++ after :=
    Pod.volumes_withVolumes _ (by rw [hvolumes]; simp)
  have hplace : (pod.withVolumes (before ++ after)).inNamespace = pod.inNamespace := rfl
  rw [decide_decision, decide_decision, Pod.prefers_withVolumes, hrest, hplace, hvolumes, List.any_append,
    List.any_append, List.any_cons, hvolume, Bool.false_or]

/-! ## 5. The rule -/

/-- **The rule.** Whatever the driver, the class set, the claims and the pod are, the decision is

* to leave the pod alone exactly if it asks for nodes by the label of the driver;
* to give it the patch exactly if it does not, and one of its volumes is an inline one of the driver or one by a claim
  that is looked up, in the namespace of the pod, with a class in the set;
* that the driver is not used exactly in the remaining case.

It is the same for a pod with its volumes, terms and requirements in another order, and for a pod without a volume whose
claim cannot be looked up. -/
theorem decision_is_the_rule (driver : String) (classes : ClassSet) (lookup : ClaimLookup ε) (pod : Pod) :
    let decision := (decide driver classes lookup pod).decision
    let asks := pod.AsksFor (driver ++ "/driver-ready")
    let uses := ∃ volume ∈ pod.volumes, volume.inlineDriver = some driver
      ∨ ∃ claim named, volume.claim = some claim ∧ lookup (pod.metadata.inNamespace.getD "") claim = .ok named
        ∧ classes.contains (named.getD ClassSet.defaultClass) = true
    (decision = .alreadyPreferred ↔ asks)
    ∧ (decision = .mutate ↔ ¬ asks ∧ uses)
    ∧ (decision = .notUsingDriver ↔ ¬ asks ∧ ¬ uses)
    ∧ (∀ other : Pod, pod.Reordered other → (decide driver classes lookup other).decision = decision)
    ∧ ∀ before volume after, pod.volumes = before ++ volume :: after → volume.inlineDriver ≠ some driver →
      (∀ claim, volume.claim = some claim →
        ∃ fault, lookup (pod.metadata.inNamespace.getD "") claim = .error fault) →
      (decide driver classes lookup (pod.withVolumes (before ++ after))).decision = decision := by
  intro decision asks uses
  have hasks : pod.prefers (Readiness.label driver) = true ↔ asks := pod.prefers_iff_asksFor _
  have huses : pod.volumes.any (brings driver classes lookup pod.inNamespace) = true ↔ uses := by
    simp only [List.any_eq_true, brings_iff]
    rfl
  have hcases : asks ∧ decision = .alreadyPreferred ∨ ¬ asks ∧ uses ∧ decision = .mutate
      ∨ ¬ asks ∧ ¬ uses ∧ decision = .notUsingDriver := by
    have hdecision := decide_decision driver classes lookup pod
    by_cases ha : asks
    · exact .inl ⟨ha, hdecision.trans (if_pos (hasks.mpr ha))⟩
    · rw [if_neg (hasks.not.mpr ha)] at hdecision
      by_cases hu : uses
      · exact .inr (.inl ⟨ha, hu, hdecision.trans (if_pos (huses.mpr hu))⟩)
      · exact .inr (.inr ⟨ha, hu, hdecision.trans (if_neg (huses.not.mpr hu))⟩)
  refine ⟨?_, ?_, ?_, fun other h => (decision_of_reordered driver classes lookup h).symm, ?_⟩
  · obtain ⟨ha, hd⟩ | ⟨ha, -, hd⟩ | ⟨ha, -, hd⟩ := hcases <;> simp [ha, hd]
  · obtain ⟨ha, hd⟩ | ⟨ha, hu, hd⟩ | ⟨ha, hu, hd⟩ := hcases <;> simp [*]
  · obtain ⟨ha, hd⟩ | ⟨ha, hu, hd⟩ | ⟨ha, hu, hd⟩ := hcases <;> simp [*]
  · intro before volume after hvolumes hinline hclaim
    refine (decision_without driver classes lookup hvolumes ?_).symm
    rw [Bool.eq_false_iff, ne_eq, brings_iff]
    rintro (hdriver | ⟨claim, named, hnamed, hfound, -⟩)
    · exact hinline hdriver
    · obtain ⟨fault, hfault⟩ := hclaim claim hnamed
      exact absurd (hfound.symm.trans hfault) nofun

end Policy

end ReadyPin

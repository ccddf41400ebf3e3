import ReadyPin.Proofs.Admission.KeptObject
import ReadyPin.Proofs.Admission.Rejections

/-!
# What an admission depends on

Much of an admission request has no part in what is done with its pod. What has is the namespace of the request, the
keys that the pod asks for nodes by, and the sources of its volumes. Two pods that have these in common are `Alike`,
and a decision cannot tell them apart (`Policy.decide_of_alike`).

The namespace that the object gives itself is not among them. A review puts the pod into the namespace of its request,
and no claim of another namespace is asked for (`Admission.depends_on_relevance`).
-/

namespace ReadyPin

/-! ## 1. The relevant parts of a pod -/

namespace NodeTerm

/-- The keys of the requirements on labels in some terms, in their order. -/
def labelKeys (terms : List NodeTerm) : List String := terms.flatMap fun term => term.onLabels.map (·.key)

theorem any_mentions (terms : List NodeTerm) (label : String) :
    terms.any (·.mentions label) = true ↔ label ∈ labelKeys terms := by
  simp only [List.any_eq_true, mentions, beq_iff_eq, labelKeys, List.mem_flatMap, List.mem_map]

end NodeTerm

namespace Pod

/-- The keys of the node selector. -/
def selectorKeys (self : Pod) : List String := (self.spec.map fun spec => spec.nodeSelector.map (·.1)).getD []

/-- The terms of the node affinity that `part` picks, required or preferred. -/
def affinityTerms (part : NodeAffinity → List NodeTerm) (self : Pod) : List NodeTerm :=
  ((self.spec.bind PodSpec.nodeAffinity).map part).getD []

/-- For each volume, the driver of an inline volume and the claim. -/
def volumeSources (self : Pod) : List (Option String × Option String) :=
  self.volumes.map fun volume => (volume.inlineDriver, volume.claim)

/-- Two pods that no decision can tell apart in one namespace. The keys of a node selector are a set; those of the
node affinity count in their order, across its terms, and so do the volumes. -/
structure Alike (one other : Pod) : Prop where
  selector : ∀ key, key ∈ one.selectorKeys ↔ key ∈ other.selectorKeys
  required : NodeTerm.labelKeys (one.affinityTerms (·.required)) = NodeTerm.labelKeys (other.affinityTerms (·.required))
  preferred :
    NodeTerm.labelKeys (one.affinityTerms (·.preferred)) = NodeTerm.labelKeys (other.affinityTerms (·.preferred))
  volumes : one.volumeSources = other.volumeSources

/-- A pod prefers ready nodes if one of its keys is the label. -/
theorem prefers_iff (pod : Pod) (label : String) : pod.prefers label = true ↔
    label ∈ pod.selectorKeys ∨ label ∈ NodeTerm.labelKeys (pod.affinityTerms (·.required))
      ∨ label ∈ NodeTerm.labelKeys (pod.affinityTerms (·.preferred)) := by
  unfold prefers selectorKeys affinityTerms
  cases pod.spec with
  | none => simp [NodeTerm.labelKeys]
  | some spec =>
    have hselector : spec.nodeSelector.any (·.1 == label) = true ↔ label ∈ spec.nodeSelector.map (·.1) := by
      simp only [List.any_eq_true, beq_iff_eq, List.mem_map]
    cases haffinity : spec.nodeAffinity with
    | none => simp [PodSpec.mentions, haffinity, hselector, NodeTerm.labelKeys]
    | some affinity =>
      simp only [Option.any_some, PodSpec.mentions, haffinity, NodeAffinity.mentions, Bool.or_eq_true, hselector,
        NodeTerm.any_mentions, Option.map_some, Option.bind_some, Option.getD_some]

theorem inline_iff (pod : Pod) (driver : String) : pod.volumes.any (·.inlineDriver == some driver) = true ↔
    some driver ∈ pod.volumeSources.map (·.1) := by
  simp only [List.any_eq_true, beq_iff_eq, volumeSources, List.map_map, List.mem_map, Function.comp_def]

theorem claims_eq (pod : Pod) : pod.volumes.filterMap Volume.claim = pod.volumeSources.filterMap (·.2) := by
  rw [volumeSources, List.filterMap_map]
  rfl

variable {one other : Pod}

theorem Alike.prefers_eq (h : Alike one other) (label : String) : one.prefers label = other.prefers label := by
  rw [Bool.eq_iff_iff, prefers_iff, prefers_iff, h.selector, h.required, h.preferred]

theorem Alike.inline_eq (h : Alike one other) (driver : String) :
    one.volumes.any (·.inlineDriver == some driver) = other.volumes.any (·.inlineDriver == some driver) := by
  rw [Bool.eq_iff_iff, inline_iff, inline_iff, h.volumes]

/-- The namespaces that pods are put into do not make them any less alike. -/
theorem Alike.placed (h : Alike one other) (request request' : AdmissionRequest AnyObject) :
    Alike (Admission.placed request one) (Admission.placed request' other) :=
  ⟨h.selector, h.required, h.preferred, h.volumes⟩

end Pod

/-! ## 2. Decisions -/

namespace Policy

variable {ε : Type} (driver : String) (classes : ClassSet) (lookup : ClaimLookup ε)

/-- Pods that are alike are decided on alike in one namespace. -/
theorem decide_of_alike {one other : Pod} (h : one.Alike other) (hplace : one.inNamespace = other.inNamespace) :
    decide driver classes lookup one = decide driver classes lookup other := by
  unfold decide
  rw [h.prefers_eq, h.inline_eq, Pod.claims_eq one, Pod.claims_eq other, h.volumes, hplace]

theorem lookUpClaims_in_place (inNamespace : String) (claims : List String) :
    ∀ pair ∈ (lookUpClaims classes lookup inNamespace claims).lookups, pair.1 = inNamespace := by
  induction claims with
  | nil =>
    intro pair h
    rw [lookUpClaims] at h
    cases h
  | cons claim claims ih =>
    have hafter : ∀ failed, ∀ pair ∈ ((lookUpClaims classes lookup inNamespace claims).afterLookup
        (inNamespace, claim) failed).lookups, pair.1 = inNamespace :=
      fun failed => List.forall_mem_cons.mpr ⟨rfl, ih⟩
    rw [lookUpClaims]
    cases lookup inNamespace claim with
    | error fault => exact hafter true
    | ok named =>
      cases hclass : classes.contains (ClassSet.effective named) with
      | true =>
        simp only [hclass, if_true]
        exact List.forall_mem_singleton.mpr rfl
      | false =>
        simp only [hclass, Bool.false_eq_true, if_false]
        exact hafter false

/-- A pod's claims are looked up in its namespace. -/
theorem decide_in_place (pod : Pod) :
    ∀ pair ∈ (decide driver classes lookup pod).lookups, pair.1 = pod.inNamespace := by
  unfold decide
  split
  · exact nofun
  split
  · exact nofun
  · exact lookUpClaims_in_place classes lookup _ _

end Policy

/-! ## 3. Reviews -/

/-- A review that is answered has a pod, which has been decided on in the namespace of its request. -/
theorem State.exists_podOf {ε : Type} {driver : String} {lookup : ClaimLookup ε} {state : State} {body : List UInt8}
    {answered : Admission.Answered} (h : (state.review driver lookup body).1 = .ok answered) :
    ∃ types request pod, Admission.podOf body = .ok (types, request, pod)
      ∧ Admission.review driver state.classes lookup body = .ok answered
      ∧ answered.verdict = Policy.decide driver state.classes lookup (Admission.placed request pod)
      ∧ (state.review driver lookup body).2 = state.recordVerdict answered.verdict := by
  cases hpod : Admission.podOf body with
  | error rejection =>
    rw [review_of_podOf_error driver lookup state hpod] at h
    cases h
  | ok parts =>
    obtain ⟨types, request, pod⟩ := parts
    obtain ⟨answered', hok, hreview⟩ := review_of_podOf driver lookup state hpod
    rw [hreview] at h
    obtain rfl : answered' = answered := Except.ok.inj h
    obtain ⟨types', request', pod', hpod', hverdict, -⟩ := Admission.review_eq_ok.mp hok
    cases hpod.symm.trans hpod'
    exact ⟨types, request, pod, rfl, hok, hverdict, by rw [hreview]⟩

namespace Admission

variable {ε : Type} (driver : String) (classes : ClassSet) (lookup : ClaimLookup ε)

/-- The claims that are asked for to review a body. -/
def asked (body : List UInt8) : List (String × String) := (reviewBy driver classes lookup.noting body []).2

theorem asked_eq (body : List UInt8) :
    asked driver classes lookup body = lookupsOf (review driver classes lookup body) := by
  rw [asked, reviewBy_noting, List.nil_append]

/-- A review asks for claims in the namespace of its request. -/
theorem asked_in_place {body : List UInt8} {types : TypeNames} {request : AdmissionRequest AnyObject}
    (hparse : AdmissionReview.parse body = .ok ⟨types, some request⟩) :
    ∀ pair ∈ asked driver classes lookup body, pair.1 = request.inNamespace.getD "" := by
  rw [asked_eq]
  cases hreview : review driver classes lookup body with
  | error rejection => exact nofun
  | ok answered =>
    obtain ⟨types', request', pod, hpodOf, hverdict, -⟩ := review_eq_ok.mp hreview
    obtain ⟨any, hparse', -⟩ := podOf_eq_ok.mp hpodOf
    cases hparse.symm.trans hparse'
    rw [lookupsOf, hverdict]
    exact Policy.decide_in_place driver classes lookup (placed request pod)

/-- Another object in the place of that of a body changes nothing about the request around it. -/
theorem parse_around {body body' text : List UInt8} {object : Json} {self : AnyObject} {types : TypeNames}
    {request : AdmissionRequest AnyObject} (hparse : AdmissionReview.parse body = .ok ⟨types, some request⟩)
    (hbody : withObject body text = some body') (htext : Json.Spells text object)
    (hself : AnyObject.read text = .ok (self, [])) :
    AdmissionReview.parse body' = .ok ⟨types, some (request.replaceObject self)⟩ := by
  obtain ⟨f, hf⟩ : ∃ f, Reader.Means (Metadata.read AnyObject.outside) f := Reader.Faithful.means
  obtain ⟨site, hsite, -⟩ := Option.bind_eq_some_iff.mp hbody
  have hjson : AnyObject.ofJson f object = some self := ((AnyObject.read_means hf).eq htext.kept_eq hself).1
  exact parse_withObject hf hsite hbody htext hjson hparse

/-- **Relevance.** A body that is answered has its pod decided on in the namespace of its request, and the claims that
the verdict tells of are those that have been asked for.

When two bodies are answered in one state, and their requests are about the same namespace or both about none and their
pods are alike, then the decisions are the same, the same claims have been asked for in the same order, as many of the
lookups have failed, and the state is the same afterwards.

Every claim that is asked for is one of the request's namespace, the empty one if it has none; and that is so still
with any other object in the place of that of the body, whatever namespace it gives itself. -/
theorem depends_on_relevance {state : State} {body body' : List UInt8} {answered answered' : Answered}
    (h : (state.review driver lookup body).1 = .ok answered)
    (h' : (state.review driver lookup body').1 = .ok answered') :
    ∃ types request pod types' request' pod',
      podOf body = .ok (types, request, pod) ∧ podOf body' = .ok (types', request', pod')
      ∧ answered.verdict = Policy.decide driver state.classes lookup (placed request pod)
      ∧ asked driver state.classes lookup body = answered.verdict.lookups
      ∧ (request.inNamespace = request'.inNamespace → pod.Alike pod' →
        answered.verdict.decision = answered'.verdict.decision
        ∧ asked driver state.classes lookup body = asked driver state.classes lookup body'
        ∧ answered.verdict.failures = answered'.verdict.failures
        ∧ (state.review driver lookup body).2 = (state.review driver lookup body').2)
      ∧ (∀ pair ∈ asked driver state.classes lookup body, pair.1 = request.inNamespace.getD "")
      ∧ ∀ text object self body'', Json.Spells text object → AnyObject.read text = .ok (self, []) →
        withObject body text = some body'' →
          ∀ pair ∈ asked driver state.classes lookup body'', pair.1 = request.inNamespace.getD "" := by
  obtain ⟨types, request, pod, hpodOf, hok, hverdict, hafter⟩ := State.exists_podOf h
  obtain ⟨types', request', pod', hpodOf', hok', hverdict', hafter'⟩ := State.exists_podOf h'
  obtain ⟨any, hparse, -⟩ := podOf_eq_ok.mp hpodOf
  have hasked : asked driver state.classes lookup body = answered.verdict.lookups := by
    rw [asked_eq, hok, lookupsOf]
  have hasked' : asked driver state.classes lookup body' = answered'.verdict.lookups := by
    rw [asked_eq, hok', lookupsOf]
  refine ⟨types, request, pod, types', request', pod', hpodOf, hpodOf', hverdict, hasked, fun hplace halike => ?_,
    asked_in_place driver state.classes lookup hparse, fun text object self body'' htext hself hbody => ?_⟩
  · have hplaced : (placed request pod).Alike (placed request' pod') := halike.placed request request'
    have hsame : answered.verdict = answered'.verdict := by
      rw [hverdict, hverdict']
      exact Policy.decide_of_alike driver state.classes lookup hplaced (congrArg (Option.getD · "") hplace)
    rw [hasked, hasked', hafter, hafter', hsame]
    exact ⟨rfl, rfl, rfl, rfl⟩
  · have hother := asked_in_place driver state.classes lookup (parse_around hparse hbody htext hself)
    exact hother

/-- A request of the namespace `team-a` to create a pod with a claim; the rest of it is of no relevance. -/
def claiming (uid : String) (dryRun : Bool) (metadata : List (String × Json)) (zone operator : String) : List UInt8 :=
  let volume : Json := .object
    [("name", .string "data"), ("persistentVolumeClaim", .object [("claimName", .string "scratch")])]
  let term : Json := .object
    [("matchExpressions", .array [.object [("key", .string "arch"), ("operator", .string operator)]])]
  let required : Json := .object [("nodeSelectorTerms", .array [term])]
  let affinity : Json := .object
    [("nodeAffinity", .object [("requiredDuringSchedulingIgnoredDuringExecution", required)])]
  let spec : Json := .object
    [("volumes", .array [volume]), ("nodeSelector", .object [("zone", .string zone)]), ("affinity", affinity)]
  let pod : Json := .object
    [("apiVersion", .string "v1"), ("kind", .string "Pod"), ("metadata", .object metadata), ("spec", spec)]
  let request : Json := .object
    [("uid", .string uid),
      ("kind", .object [("group", .string ""), ("version", .string "v1"), ("kind", .string "Pod")]),
      ("resource", .object [("group", .string ""), ("version", .string "v1"), ("resource", .string "pods")]),
      ("namespace", .string "team-a"), ("operation", .string "CREATE"), ("userInfo", .object []), ("object", pod),
      ("dryRun", .bool dryRun)]
  Utf8.encode (Json.print (.object
    [("apiVersion", .string "admission.k8s.io/v1"), ("kind", .string "AdmissionReview"), ("request", request)]))

/-- A request for a pod that says of itself to be of another namespace. -/
def astray : List UInt8 :=
  claiming "1" true [("name", .string "web"), ("namespace", .string "team-b")] "a" "Exists"

/-- A request for a pod that says of itself to be of no namespace. -/
def unplaced : List UInt8 := claiming "2" false [("labels", .object [("app", .string "db")])] "b" "DoesNotExist"

/-- Only `team-a` has claims, and they are of the class `fast`. -/
def claimsOfTeam : ClaimLookup Unit :=
  fun inNamespace _ => if inNamespace = "team-a" then .ok (some "fast") else .error ()

/-- One class is the driver's. -/
def fastOnly : State := { classes := ClassSet.ofList ["fast"] }

/-- What is relevant in a request and its pod. -/
structure Relevant where
  inNamespace : Option String
  selector : List String
  required : List String
  preferred : List String
  volumes : List (Option String × Option String)
  deriving DecidableEq

def relevant (request : AdmissionRequest AnyObject) (pod : Pod) : Relevant where
  inNamespace := request.inNamespace
  selector := pod.selectorKeys
  required := NodeTerm.labelKeys (pod.affinityTerms (·.required))
  preferred := NodeTerm.labelKeys (pod.affinityTerms (·.preferred))
  volumes := pod.volumeSources

theorem alike_of_relevant {request request' : AdmissionRequest AnyObject} {pod pod' : Pod}
    (h : relevant request pod = relevant request' pod') :
    request.inNamespace = request'.inNamespace ∧ pod.Alike pod' := by
  obtain ⟨hplace, hselector, hrequired, hpreferred, hvolumes⟩ := Relevant.mk.inj h
  exact ⟨hplace, fun key => by rw [hselector], hrequired, hpreferred, hvolumes⟩

/-- The namespace that the object of a body gives itself, and what is relevant in the body. -/
def inspect (body : List UInt8) : Option (Option String × Relevant) :=
  (podOf body).toOption.map fun (_, request, pod) => (pod.metadata.inNamespace, relevant request pod)

theorem exists_podOf_of_inspect {body : List UInt8} {own : Option String} {shown : Relevant}
    (h : inspect body = some (own, shown)) : ∃ types request pod, podOf body = .ok (types, request, pod)
      ∧ pod.metadata.inNamespace = own ∧ relevant request pod = shown := by
  unfold inspect at h
  cases hpod : podOf body with
  | error rejection =>
    rw [hpod] at h
    cases h
  | ok parts =>
    rw [hpod] at h
    obtain ⟨types, request, pod⟩ := parts
    obtain ⟨hown, hshown⟩ := Prod.mk.inj (Option.some.inj h)
    exact ⟨types, request, pod, rfl, hown, hshown⟩

/-- The pods of both requests are pinned for the claim in the namespace that they are both put into. -/
theorem astray_like_unplaced : ∃ answered answered' types request pod types' request' pod',
    (fastOnly.review "gcs.csi.ofek.dev" claimsOfTeam astray).1 = .ok answered
      ∧ (fastOnly.review "gcs.csi.ofek.dev" claimsOfTeam unplaced).1 = .ok answered'
      ∧ podOf astray = .ok (types, request, pod) ∧ podOf unplaced = .ok (types', request', pod')
      ∧ request.inNamespace = request'.inNamespace ∧ pod.Alike pod'
      ∧ pod.metadata.inNamespace = some "team-b" ∧ pod'.metadata.inNamespace = none
      ∧ answered.verdict = { decision := .mutate, lookups := [("team-a", "scratch")] }
      ∧ answered'.verdict.decision = .mutate
      ∧ asked "gcs.csi.ofek.dev" fastOnly.classes claimsOfTeam unplaced = [("team-a", "scratch")] := by
  let shown : Relevant := ⟨some "team-a", ["zone"], ["arch"], [], [(none, some "scratch")]⟩
  have hastray : inspect astray = some (some "team-b", shown) := by
    decide +kernel
  have hunplaced : inspect unplaced = some (none, shown) := by
    decide +kernel
  have hdecided : (fastOnly.review "gcs.csi.ofek.dev" claimsOfTeam astray).1.toOption.any
      (fun answered => answered.verdict = { decision := .mutate, lookups := [("team-a", "scratch")] }) = true := by
    decide +kernel
  obtain ⟨types, request, pod, hpod, hown, hshown⟩ := exists_podOf_of_inspect hastray
  obtain ⟨types', request', pod', hpod', hown', hshown'⟩ := exists_podOf_of_inspect hunplaced
  obtain ⟨hplace, halike⟩ := alike_of_relevant (hshown.trans hshown'.symm)
  obtain ⟨answered, -, hreview⟩ := State.review_of_podOf "gcs.csi.ofek.dev" claimsOfTeam fastOnly hpod
  obtain ⟨answered', -, hreview'⟩ := State.review_of_podOf "gcs.csi.ofek.dev" claimsOfTeam fastOnly hpod'
  rw [hreview] at hdecided
  have hverdict : answered.verdict = { decision := .mutate, lookups := [("team-a", "scratch")] } :=
    of_decide_eq_true hdecided
  have h := congrArg Prod.fst hreview
  have h' := congrArg Prod.fst hreview'
  obtain ⟨_, _, _, _, _, _, hsame, hsame', -, hlookups, hrelevance, -⟩ :=
    depends_on_relevance "gcs.csi.ofek.dev" claimsOfTeam h h'
  cases hpod.symm.trans hsame
  cases hpod'.symm.trans hsame'
  obtain ⟨hdecision, hasked, -⟩ := hrelevance hplace halike
  refine ⟨answered, answered', types, request, pod, types', request', pod', h, h', hpod, hpod', hplace, halike, hown,
    hown', hverdict, ?_, ?_⟩
  · rw [← hdecision, hverdict]
  · rw [← hasked, hlookups, hverdict]

end Admission

end ReadyPin

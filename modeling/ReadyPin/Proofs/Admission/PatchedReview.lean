import ReadyPin.Proofs.Admission.Answers
import ReadyPin.Proofs.Admission.KeptObject

/-!
# Patched pods

What becomes of a pod that is given the patch. The patch goes through the node selector, so it can be applied to the
pods that have one, and only to those (`patch_applies_iff`). Where it can be applied, the label is in the node
selector afterwards and everything else is as before; and a review of the patched pod leaves it alone, whatever the
classes and the claims are by then (`patched_pod_is_left_alone`).
-/

namespace ReadyPin

open Json Readiness

/-! ## 1. What a patch does to an object -/

/-- Two objects have the same members, except under one key. -/
def Json.AgreeBut (key : String) (old new : Json) : Prop := ∀ k, k ≠ key → new.member? k = old.member? k

/-- `new` is `old` with a label in the node selector of its spec that says that the driver is ready. -/
def Readiness.Selects (label : String) (old new : Json) : Prop :=
  ∃ spec selector spec' selector',
    old.member? "spec" = some spec ∧ spec.member? "nodeSelector" = some (.object selector)
    ∧ new.member? "spec" = some spec' ∧ spec'.member? "nodeSelector" = some (.object selector')
    ∧ lookup selector' label = some (.string readyValue) ∧ AgreeBut label (.object selector) (.object selector')
    ∧ AgreeBut "nodeSelector" spec spec' ∧ AgreeBut "spec" old new

theorem agreeBut_put (members : List (String × Json)) (key : String) (v : Json) :
    AgreeBut key (.object members) (.object (put members key v)) := by
  intro k hk
  show lookup (put members key v) k = lookup members k
  rw [lookup_put, if_neg hk]

theorem selects_pinned {members spec selector : List (String × Json)}
    (hspec : lookup members "spec" = some (.object spec))
    (hselector : lookup spec "nodeSelector" = some (.object selector)) (label : String) :
    Selects label (.object members) (.object (pinned label members spec selector)) := by
  have hput : ∀ (ms : List (String × Json)) key v, lookup (put ms key v) key = some v := by
    intro ms key v
    rw [lookup_put, if_pos rfl]
  exact ⟨.object spec, selector, _, _, hspec, hselector, hput _ _ _, hput _ _ _, hput _ _ _, agreeBut_put _ _ _,
    agreeBut_put _ _ _, agreeBut_put _ _ _⟩

namespace Admission

/-- The object of a body after the patch of an answer has been applied to it. -/
def patchedObject? (body : List UInt8) (answer : List Char) : Option Json := do
  JsonPatch.apply (← carriedPatch answer) (← object? body)

/-! ## 2. Pods that are given the patch -/

variable {ε : Type} {driver : String} {classes : ClassSet} {lookup : ClaimLookup ε} {body : List UInt8}
  {answered : Answered}

/-- What there is to know about a review that gives the patch. -/
theorem mutated_eq_ok (h : review driver classes lookup body = .ok answered)
    (hmutate : answered.verdict.decision = .mutate) : ∃ types request any pod podSpec,
      AdmissionReview.parse body = .ok ⟨types, some request⟩ ∧ request.operation = .create ∧ request.object = some any
      ∧ any.toPod = .ok pod ∧ pod.spec = some podSpec ∧ carriedPatch answered.body = some (document driver) := by
  obtain ⟨types, request, pod, hpodOf, hverdict, hbody⟩ := review_eq_ok.mp h
  obtain ⟨any, hreview, hcreate, hobject, hpod⟩ := podOf_eq_ok.mp hpodOf
  rw [hverdict] at hmutate
  obtain ⟨podSpec, hspec⟩ := Policy.exists_spec_of_mutate hmutate
  refine ⟨types, request, any, pod, podSpec, hreview, hcreate, hobject, hpod, hspec, ?_⟩
  rw [hbody, hverdict, hmutate]
  exact carriedPatch_answer driver

theorem patchedObject?_eq (h : carriedPatch answered.body = some (document driver)) :
    patchedObject? body answered.body = (object? body).bind (JsonPatch.apply (document driver)) := by
  rw [patchedObject?, h]
  rfl

/-- The object that has been reviewed is the one that the value of its text says. -/
theorem exists_site {object : Json} (hobject : object? body = some object) {types : TypeNames}
    {request : AdmissionRequest AnyObject} {any : AnyObject}
    (hreview : AdmissionReview.parse body = .ok ⟨types, some request⟩) (hany : request.object = some any) :
    ∃ site f members, objectSite? body = some site ∧ Reader.Means (Metadata.read AnyObject.outside) f
      ∧ object = .object members ∧ AnyObject.ofJson f (.object members) = some any := by
  obtain ⟨site, hsite, rfl⟩ := exists_objectSite hreview hany
  obtain ⟨f, hf⟩ : ∃ f, Reader.Means (Metadata.read AnyObject.outside) f := Reader.Faithful.means
  have hself := ofJson_object? hf hsite hobject
  cases object with
  | object members => exact ⟨site, f, members, hsite, hf, rfl, hself⟩
  | _ => cases hself

/-! ## 3. Pods that the patch can be applied to -/

/-- The patch can be applied to the pods that have a node selector, and only to those. -/
theorem patch_applies_iff (h : review driver classes lookup body = .ok answered)
    (hmutate : answered.verdict.decision = .mutate) :
    (patchedObject? body answered.body).isSome = true ↔ ∃ object spec selector, object? body = some object
      ∧ object.member? "spec" = some spec ∧ spec.member? "nodeSelector" = some selector ∧ selector ≠ .null := by
  obtain ⟨types, request, any, pod, podSpec, hreview, -, hany, hpod, hpodSpec, hcarried⟩ := mutated_eq_ok h hmutate
  rw [patchedObject?_eq hcarried, Option.isSome_iff_exists]
  constructor
  · intro h
    obtain ⟨patched, hpatched⟩ := h
    obtain ⟨object, hobject, hpatched⟩ := Option.bind_eq_some_iff.mp hpatched
    obtain ⟨members, spec, selector, rfl, hspec, hselector, -⟩ := apply_document.mp hpatched
    exact ⟨.object members, .object spec, .object selector, hobject, hspec, hselector, nofun⟩
  · intro h
    obtain ⟨object, spec, selector, hobject, hspec, hselector, hne⟩ := h
    obtain ⟨site, f, members, -, -, rfl, hself⟩ := exists_site hobject hreview hany
    have hlookup := AnyObject.lookup_ofJson AnyObject.keeps_spec hself
    obtain ⟨spec', hspec', hread⟩ := AnyObject.exists_spec hpod hpodSpec
    obtain rfl : spec = .object spec' := Option.some.inj (hspec.symm.trans (hlookup.symm.trans hspec'))
    obtain ⟨selector', rfl⟩ := PodSpec.exists_selector hread hselector hne
    have hpatched : JsonPatch.apply (document driver) (.object members)
        = some (.object (pinned (label driver) members spec' selector')) :=
      apply_document.mpr ⟨members, spec', selector', rfl, hspec, hselector, rfl⟩
    exact ⟨_, Option.bind_eq_some_iff.mpr ⟨_, hobject, hpatched⟩⟩

/-- A request to create a pod with a volume of the driver; its spec has the given other members. -/
def creation (others : List (String × Json)) : List UInt8 :=
  let volume : Json := .object [("name", .string "data"), ("csi", .object [("driver", .string "gcs.csi.ofek.dev")])]
  let pod : Json := .object
    [("apiVersion", .string "v1"), ("kind", .string "Pod"), ("spec", .object (("volumes", .array [volume]) :: others))]
  let request : Json := .object
    [("uid", .string "1"),
      ("kind", .object [("group", .string ""), ("version", .string "v1"), ("kind", .string "Pod")]),
      ("resource", .object [("group", .string ""), ("version", .string "v1"), ("resource", .string "pods")]),
      ("operation", .string "CREATE"), ("userInfo", .object []), ("object", pod)]
  Utf8.encode (Json.print (.object
    [("apiVersion", .string "admission.k8s.io/v1"), ("kind", .string "AdmissionReview"), ("request", request)]))

/-- A pod that asks for a zone. -/
def selecting : List UInt8 := creation [("nodeSelector", .object [("zone", .string "a")])]

/-- No claim can be looked up. -/
def noClaims : ClaimLookup Unit := fun _ _ => .error ()

/-- Whether a review gives the patch. -/
def mutates (driver : String) (body : List UInt8) : Bool :=
  (review driver {} noClaims body).toOption.any fun answered => answered.verdict.decision = .mutate

theorem exists_mutated (h : mutates driver body = true) :
    ∃ answered, review driver {} noClaims body = .ok answered ∧ answered.verdict.decision = .mutate := by
  unfold mutates at h
  cases hreview : review driver {} noClaims body with
  | error fault =>
    rw [hreview] at h
    cases h
  | ok answered =>
    rw [hreview] at h
    exact ⟨answered, rfl, of_decide_eq_true h⟩

theorem mutates_selecting : mutates "gcs.csi.ofek.dev" selecting = true := by
  decide +kernel

theorem patch_applies_to_selecting : ∃ answered, review "gcs.csi.ofek.dev" {} noClaims selecting = .ok answered
    ∧ answered.verdict.decision = .mutate ∧ (patchedObject? selecting answered.body).isSome = true := by
  obtain ⟨answered, h, hmutate⟩ := exists_mutated mutates_selecting
  have hselector : (do
      let spec ← (← object? selecting).member? "spec"
      let selector ← spec.member? "nodeSelector"
      some (Kind.ofJson selector)) = some .object := by
    decide +kernel
  simp only [Option.bind_eq_bind, Option.bind_eq_some_iff] at hselector
  obtain ⟨object, hobject, spec, hspec, selector, hselector, hkind⟩ := hselector
  have hne : selector ≠ .null := by
    rintro rfl
    cases hkind
  exact ⟨answered, h, hmutate,
    (patch_applies_iff h hmutate).mpr ⟨object, spec, selector, hobject, hspec, hselector, hne⟩⟩

/-- A pod that asks for no particular nodes is given the patch, but the patch cannot be applied to it. -/
theorem patch_fails_without_selector : ∃ answered object,
    review "gcs.csi.ofek.dev" {} noClaims (creation []) = .ok answered ∧ answered.verdict.decision = .mutate
      ∧ carriedPatch answered.body = some (document "gcs.csi.ofek.dev") ∧ object? (creation []) = some object
      ∧ patchedObject? (creation []) answered.body = none := by
  have hmutates : mutates "gcs.csi.ofek.dev" (creation []) = true := by
    decide +kernel
  obtain ⟨answered, h, hmutate⟩ := exists_mutated hmutates
  obtain ⟨-, -, -, -, -, -, -, -, -, -, hcarried⟩ := mutated_eq_ok h hmutate
  have hfails : (object? (creation [])).any (fun object =>
      (JsonPatch.apply (document "gcs.csi.ofek.dev") object).isNone) = true := by
    decide +kernel
  obtain ⟨object, hobject, hnone⟩ := (Option.any_eq_true _ _).mp hfails
  refine ⟨answered, object, h, hmutate, hcarried, hobject, ?_⟩
  rw [patchedObject?_eq hcarried, hobject]
  exact Option.isNone_iff_eq_none.mp hnone

/-! ## 4. Pods that have been patched -/

/-- A pod that has been patched differs from what it was in its label alone, and a review of it leaves it alone. -/
theorem patched_pod_is_left_alone (h : review driver classes lookup body = .ok answered)
    (hmutate : answered.verdict.decision = .mutate) {patched : Json}
    (hpatched : patchedObject? body answered.body = some patched) :
    (∃ object, object? body = some object ∧ Selects (label driver) object patched)
      ∧ ∀ text, Json.Spells text patched → ∃ body', withObject body text = some body'
        ∧ ∀ (ε' : Type) (classes' : ClassSet) (lookup' : ClaimLookup ε'), ∃ again response,
          review driver classes' lookup' body' = .ok again
            ∧ again.verdict = { decision := .alreadyPreferred, lookups := [], failures := 0 }
            ∧ response? again.body = some response ∧ response.member? "patch" = none
            ∧ response.member? "patchType" = none := by
  obtain ⟨types, request, any, pod, podSpec, hreview, hcreate, hany, hpod, hpodSpec, hcarried⟩ :=
    mutated_eq_ok h hmutate
  rw [patchedObject?_eq hcarried] at hpatched
  obtain ⟨object, hobject, hpatched⟩ := Option.bind_eq_some_iff.mp hpatched
  obtain ⟨members, spec, selector, rfl, hspec, hselector, rfl⟩ := apply_document.mp hpatched
  obtain ⟨site, f, members', hsite, hf, hmembers, hself⟩ := exists_site hobject hreview hany
  cases hmembers
  refine ⟨⟨_, hobject, selects_pinned hspec hselector _⟩, fun text htext => ?_⟩
  obtain ⟨body', hbody'⟩ : ∃ body', withObject body text = some body' := by
    simp [withObject, hsite]
  refine ⟨body', hbody', fun ε' classes' lookup' => ?_⟩
  have hlookup := AnyObject.lookup_ofJson AnyObject.keeps_spec hself
  have hself' := AnyObject.ofJson_pinned hself hspec hselector (label driver)
  have hreview' := parse_withObject hf hsite hbody' htext hself' hreview
  have hpod' := AnyObject.toPod_pinned hpod (hlookup.trans hspec) hselector (label driver)
  have hany' := congrArg (Option.map fun _ => ({ any with members := pinned (label driver) any.members spec selector } :
    AnyObject)) hany
  have hpodOf := podOf_eq_ok.mpr ⟨_, hreview', hcreate, hany', hpod'⟩
  have hprefers : ∀ request : AdmissionRequest AnyObject,
      (placed request { pod with spec := pod.spec.map (·.pin (label driver)) }).prefers (label driver) = true := by
    intro request
    rw [hpodSpec]
    exact PodSpec.mentions_pin podSpec (label driver)
  refine ⟨⟨{ decision := .alreadyPreferred }, (answer types request.uid none).print⟩, response request.uid none,
    ?_, rfl, response?_answer none, response_unpatched request.uid⟩
  refine review_eq_ok.mpr ⟨_, _, _, hpodOf, ?_, rfl⟩
  exact (Policy.decide_of_prefers (hprefers _)).symm

theorem selecting_is_left_alone : ∃ answered patched text body' again,
    review "gcs.csi.ofek.dev" {} noClaims selecting = .ok answered ∧ answered.verdict.decision = .mutate
      ∧ patchedObject? selecting answered.body = some patched
      ∧ (∃ object, object? selecting = some object ∧ Selects (label "gcs.csi.ofek.dev") object patched)
      ∧ Json.Spells text patched ∧ withObject selecting text = some body'
      ∧ review "gcs.csi.ofek.dev" {} noClaims body' = .ok again ∧ again.verdict.decision = .alreadyPreferred := by
  obtain ⟨answered, h, hmutate⟩ := exists_mutated mutates_selecting
  obtain ⟨-, -, -, -, -, -, -, -, -, -, hcarried⟩ := mutated_eq_ok h hmutate
  have hprinted : ((object? selecting).bind (JsonPatch.apply (document "gcs.csi.ofek.dev"))).any
      (fun patched => patched.numberFree && decide (patched.depth ≤ Reader.maxDepth)) = true := by
    decide +kernel
  obtain ⟨patched, hpatched, hprinted⟩ := (Option.any_eq_true _ _).mp hprinted
  obtain ⟨hfree, hdepth⟩ := Bool.and_eq_true_iff.mp hprinted
  have hp : patchedObject? selecting answered.body = some patched := (patchedObject?_eq hcarried).trans hpatched
  have hspells : Json.Spells (Utf8.encode patched.print) patched := by
    obtain ⟨object, -, hobject⟩ := Option.bind_eq_some_iff.mp hpatched
    obtain ⟨members, spec, selector, -, -, -, rfl⟩ := apply_document.mp hobject
    exact Json.spells_print hfree (of_decide_eq_true hdepth)
  obtain ⟨hselects, hagain⟩ := patched_pod_is_left_alone h hmutate hp
  obtain ⟨body', hbody', hreview⟩ := hagain _ hspells
  obtain ⟨again, -, hok, hverdict, -⟩ := hreview Unit {} noClaims
  exact ⟨answered, patched, _, body', again, h, hmutate, hp, hselects, hspells, hbody', hok, by rw [hverdict]⟩

end Admission

end ReadyPin

import ReadyPin.Admission.Review
import ReadyPin.Proofs.Json.PrintedText
import ReadyPin.Proofs.Readiness.JsonPatch

/-!
# What an answer carries

An answer is a text. What the other side takes out of it is read back here: `response?` is the response in the text,
and `carriedPatch` the patch in that, out of its base64. Both are what was put in (`response?_answer`,
`carriedPatch_answer`), whatever characters are in the uid and in the name of the driver.

`answer` is the answer as it should be, with the patch in its place from the beginning. The patch is attached to an
answer made without it, which comes to the same (`attachPatch_unpatched`) and cannot fail (`conclude_eq_ok`).
`review_eq_ok` says what an answer is made of, for the proofs about whole reviews.
-/

namespace ReadyPin

namespace Admission

/-! ## 1. Answers -/

/-- The response to a request; its members are in the order of their keys. -/
def response (uid : String) (patch : Option ReadinessPatch) : Json :=
  .object <|
    [("allowed", .bool true)]
    ++ (patch.map fun p => [("patch", .string p.encoded), ("patchType", .string patchType)]).getD []
    ++ [("status", .object []), ("uid", .string uid)]

/-- The review that answers another one of the same type. -/
def answer (types : TypeNames) (uid : String) (patch : Option ReadinessPatch) : Json :=
  .object (types.members ++ [("response", response uid patch)])

/-- There is a response to put the patch into. -/
theorem attachPatch_unpatched (types : TypeNames) (uid : String) (patch : ReadinessPatch) :
    attachPatch patch.encoded (unpatched types uid) = .ok (answer types uid (some patch)) := by
  have hresponse : Json.lookup (types.members ++ [("response", allowing uid)]) "response"
      = some (.object [("allowed", .bool true), ("status", .object []), ("uid", .string uid)]) := rfl
  simp only [attachPatch, unpatched, hresponse]
  simp +decide [OrderedMap.place, TypeNames.members, answer, response]

theorem conclude_eq_ok (driver : String) (types : TypeNames) (uid : String) (verdict : Verdict) :
    conclude driver types uid verdict = .ok
      { verdict
        body := (answer types uid (if verdict.decision.patches then some (.ofDriver driver) else none)).print } := by
  rw [conclude]
  split
  · rw [attachPatch_unpatched]
    rfl
  · rfl

/-! ## 2. Taking an answer apart -/

/-- The response in the text of an answer. -/
def response? (answer : List Char) : Option Json := do
  let review ← (Json.parse (Utf8.encode answer)).toOption
  review.member? "response"

/-- The patch in the text of an answer. -/
def carriedPatch (answer : List Char) : Option Json := do
  let response ← response? answer
  match response.member? "patch" with
  | some (.string encoded) => do
    let document ← Base64.decode encoded.toList
    (Json.parse document).toOption
  | _ => none

variable {types : TypeNames} {uid : String}

theorem response?_answer (patch : Option ReadinessPatch) :
    response? (answer types uid patch).print = some (response uid patch) := by
  have hfree : (answer types uid patch).numberFree = true := by
    cases patch <;> rfl
  have hdepth : (answer types uid patch).depth ≤ Reader.maxDepth := by
    cases patch <;> exact Nat.le_of_ble_eq_true rfl
  rw [response?, Json.parse_print hfree hdepth]
  rfl

theorem carriedPatch_answer (driver : String) :
    carriedPatch (answer types uid (some (.ofDriver driver))).print = some (Readiness.document driver) := by
  have hpatch : (response uid (some (.ofDriver driver))).member? "patch"
      = some (.string (ReadinessPatch.ofDriver driver).encoded) := rfl
  simp only [carriedPatch, response?_answer, Option.bind_eq_bind, Option.bind_some, hpatch,
    ReadinessPatch.decode_encoded, Readiness.parse_document, Except.toOption]

/-- Without a patch nothing is said about its type either. -/
theorem response_unpatched (uid : String) :
    (response uid none).member? "patch" = none ∧ (response uid none).member? "patchType" = none := ⟨rfl, rfl⟩

/-! ## 3. Reviews that are answered -/

theorem podOf_eq_ok {body : List UInt8} {request : AdmissionRequest AnyObject} {pod : Pod} :
    podOf body = .ok (types, request, pod) ↔ ∃ object, AdmissionReview.parse body = .ok ⟨types, some request⟩
      ∧ request.operation = .create ∧ request.object = some object ∧ object.toPod = .ok pod := by
  unfold podOf
  constructor
  · intro h
    split at h
    · cases h
    rename_i review hreview
    split at h
    · cases h
    rename_i request' hrequest
    split at h
    · cases h
    rename_i hcreate
    split at h
    · cases h
    rename_i object hobject
    split at h
    · cases h
    rename_i pod' hpod
    cases h
    refine ⟨object, ?_, Decidable.not_not.mp hcreate, hobject, hpod⟩
    rw [hreview, ← hrequest]
  · intro h
    obtain ⟨object, hreview, hcreate, hobject, hpod⟩ := h
    simp only [hreview, hobject, hpod, hcreate, ne_eq, not_true_eq_false, if_false]

variable {ε : Type} {driver : String} {classes : ClassSet} {lookup : ClaimLookup ε} {body : List UInt8}

/-- A pod that has been found is decided on, and the answer is made. -/
theorem review_of_podOf {request : AdmissionRequest AnyObject} {pod : Pod}
    (h : podOf body = .ok (types, request, pod)) : review driver classes lookup body
      = conclude driver types request.uid (Policy.decide driver classes lookup (placed request pod)) := by
  rw [review, h]
  rfl

theorem review_of_podOf_error {rejection : Rejection} (h : podOf body = .error rejection) :
    review driver classes lookup body = .error rejection := by
  rw [review, h]
  rfl

theorem review_eq_ok {answered : Answered} :
    review driver classes lookup body = .ok answered ↔ ∃ types request pod, podOf body = .ok (types, request, pod)
      ∧ answered.verdict = Policy.decide driver classes lookup (placed request pod)
      ∧ answered.body = (answer types request.uid
          (if answered.verdict.decision.patches then some (.ofDriver driver) else none)).print := by
  constructor
  · intro h
    cases hpod : podOf body with
    | error rejection =>
      rw [review_of_podOf_error hpod] at h
      cases h
    | ok parts =>
      obtain ⟨types, request, pod⟩ := parts
      rw [review_of_podOf hpod, conclude_eq_ok] at h
      cases h
      exact ⟨types, request, pod, rfl, rfl, rfl⟩
  · intro h
    obtain ⟨types, request, pod, hpod, hverdict, hbody⟩ := h
    obtain ⟨verdict, text⟩ := answered
    obtain rfl : verdict = _ := hverdict
    dsimp only at hbody
    rw [hbody, review_of_podOf hpod, conclude_eq_ok]

end Admission

/-! ## 4. Decisions -/

namespace Policy

variable {ε : Type} {driver : String} {classes : ClassSet} {lookup : ClaimLookup ε} {pod : Pod}

/-- A pod with a ready preference is left alone, and nothing is looked up for it. -/
theorem decide_of_prefers (h : pod.prefers (Readiness.label driver) = true) :
    decide driver classes lookup pod = { decision := .alreadyPreferred } := by
  rw [decide, if_pos h]

/-- Only a pod with a spec can be given the patch. -/
theorem exists_spec_of_mutate (h : (decide driver classes lookup pod).decision = .mutate) :
    ∃ spec, pod.spec = some spec := by
  cases hspec : pod.spec with
  | some spec => exact ⟨spec, rfl⟩
  | none =>
    have hvolumes : pod.volumes = [] := by
      rw [Pod.volumes, hspec]
      rfl
    have hprefers : pod.prefers (Readiness.label driver) = false := by
      rw [Pod.prefers, hspec]
      rfl
    simp [decide, hvolumes, hprefers, lookUpClaims] at h

end Policy

end ReadyPin

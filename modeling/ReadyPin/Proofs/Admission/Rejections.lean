import ReadyPin.Error
import ReadyPin.Proofs.Policy.Lookups
import ReadyPin.Service.State

/-!
# Rejections

What keeps a body from being answered, `Admission.podOf_cases` lists it: the body is no review or has no request, the
request is not about a creation, or what it is about is no pod. The checks are made in this order and the first
one that fails decides. After the last of them nothing can fail any more, as there always is a response to put the
patch into. So a body that is rejected has had no effect (`rejections_are_ordered`).
-/

namespace ReadyPin

namespace Admission

/-! ## 1. The checks -/

/-- All that can come of a body. -/
theorem podOf_cases (body : List UInt8) :
    (∃ fault, AdmissionReview.parse body = .error fault ∧ podOf body = .error (.undecodable fault))
    ∨ (∃ types, AdmissionReview.parse body = .ok ⟨types, none⟩ ∧ podOf body = .error .noRequest)
    ∨ ∃ types request, AdmissionReview.parse body = .ok ⟨types, some request⟩
      ∧ (request.operation ≠ .create ∧ podOf body = .error .unsupportedOperation
        ∨ request.operation = .create ∧ request.object = none ∧ podOf body = .error .noObject
        ∨ request.operation = .create ∧ ∃ object, request.object = some object
          ∧ ((∃ cause, object.toPod = .error cause ∧ podOf body = .error (.notPod cause))
            ∨ ∃ pod, object.toPod = .ok pod ∧ podOf body = .ok (types, request, pod))) := by
  unfold podOf
  cases hparse : AdmissionReview.parse body with
  | error fault => exact .inl ⟨fault, rfl, rfl⟩
  | ok review =>
    obtain ⟨types, request⟩ := review
    refine .inr ?_
    cases request with
    | none => exact .inl ⟨types, rfl, rfl⟩
    | some request =>
      refine .inr ⟨types, request, rfl, ?_⟩
      by_cases hcreate : request.operation = .create
      · refine .inr ?_
        simp only [hcreate, ne_eq, not_true_eq_false, if_false, true_and]
        cases hobject : request.object with
        | none => exact .inl ⟨rfl, rfl⟩
        | some object =>
          refine .inr ⟨object, rfl, ?_⟩
          cases hpod : object.toPod with
          | error cause => exact .inl ⟨cause, rfl, by simp only [hpod]⟩
          | ok pod => exact .inr ⟨pod, rfl, by simp only [hpod]⟩
      · exact .inl ⟨hcreate, by simp only [ne_eq, hcreate, not_false_eq_true, if_true]⟩

/-- What a body is rejected for is the fault of the request. -/
theorem error_of_podOf {body : List UInt8} {rejection : Rejection} (h : podOf body = .error rejection) :
    (∃ detail, rejection.error = .undecodableReview detail) ∨ rejection.error = .unsupportedOperation
      ∨ ∃ detail, rejection.error = .notPod detail := by
  rcases podOf_cases body with ⟨fault, -, hpod⟩ | ⟨types, -, hpod⟩ | ⟨types, request, -, hrequest⟩
  · cases hpod.symm.trans h
    exact .inl ⟨_, rfl⟩
  · cases hpod.symm.trans h
    exact .inl ⟨_, rfl⟩
  rcases hrequest with ⟨-, hpod⟩ | ⟨-, -, hpod⟩ | ⟨-, object, -, ⟨cause, -, hpod⟩ | ⟨pod, -, hpod⟩⟩
  · cases hpod.symm.trans h
    exact .inr (.inl rfl)
  · cases hpod.symm.trans h
    exact .inr (.inr ⟨_, rfl⟩)
  · cases hpod.symm.trans h
    exact .inr (.inr ⟨_, rfl⟩)
  · cases hpod.symm.trans h

/-! ## 2. Reviews in a state -/

/-- The error that a review is reported as, if it fails. -/
def failure? : Except Rejection Answered → Option Error
  | .ok _ => none
  | .error rejection => some rejection.error

end Admission

namespace State

open Admission

variable {ε : Type} (driver : String) (lookup : ClaimLookup ε) (state : State)

theorem review_of_podOf_error {body : List UInt8} {rejection : Rejection} (h : podOf body = .error rejection) :
    state.review driver lookup body = (.error rejection, state) := by
  rw [review, h]

/-- Once there is a pod, its review is answered. -/
theorem review_of_podOf {body : List UInt8} {types : TypeNames} {request : AdmissionRequest AnyObject} {pod : Pod}
    (h : podOf body = .ok (types, request, pod)) :
    ∃ answered, Admission.review driver state.classes lookup body = .ok answered
      ∧ state.review driver lookup body = (.ok answered, state.recordVerdict answered.verdict) := by
  refine ⟨_, (Admission.review_of_podOf h).trans (conclude_eq_ok ..), ?_⟩
  rw [review, h]
  simp only [decide, conclude_eq_ok]

/-- A review fails only where there is no pod. -/
theorem podOf_of_review_error {body : List UInt8} {rejection : Rejection}
    (h : (state.review driver lookup body).1 = .error rejection) : podOf body = .error rejection := by
  cases hpod : podOf body with
  | error rejection' =>
    rw [review_of_podOf_error driver lookup state hpod] at h
    rw [Except.error.inj h]
  | ok parts =>
    obtain ⟨types, request, pod⟩ := parts
    obtain ⟨answered, -, hreview⟩ := review_of_podOf driver lookup state hpod
    rw [hreview] at h
    cases h

end State

namespace Admission

variable {ε : Type} (driver : String) (lookup : ClaimLookup ε) (state : State)

/-- A rejection is the fault of the request. It changes nothing, and nothing has been asked of the cluster for it. -/
theorem rejected_without_effect {body : List UInt8} {e : Error}
    (h : failure? (state.review driver lookup body).1 = some e) :
    ((∃ detail, e = .undecodableReview detail) ∨ e = .unsupportedOperation ∨ ∃ detail, e = .notPod detail)
      ∧ e.status = 400 ∧ (state.review driver lookup body).2 = state
      ∧ ∀ asked, (reviewBy driver state.classes lookup.noting body asked).2 = asked := by
  cases hreview : (state.review driver lookup body).1 with
  | ok answered =>
    rw [hreview] at h
    cases h
  | error rejection =>
    have hpod := State.podOf_of_review_error driver lookup state hreview
    rw [hreview] at h
    obtain rfl : rejection.error = e := Option.some.inj h
    have herror := error_of_podOf hpod
    refine ⟨herror, ?_, by rw [State.review_of_podOf_error driver lookup state hpod], fun asked => ?_⟩
    · rcases herror with ⟨detail, h⟩ | h | ⟨detail, h⟩ <;> rw [h] <;> rfl
    · rw [reviewBy_noting, review_of_podOf_error hpod, lookupsOf, List.append_nil]

/-! ## 3. The order of the rejections -/

/-- **Rejections.** A review of a body, in any state, reports

* that the body cannot be decoded exactly if it is no review or one without a request;
* that the operation is not supported exactly if it has a request for anything but a creation, whatever is said of
  the object;
* that the object is no pod exactly if it has a request for a creation, without an object or with one that is no pod;
* nothing exactly in the remaining case, and then it is answered.

No other error is reported, as the patch can be put into every answer that is made. What is reported has status 400,
leaves the state as it was, and no claim has been looked up for it. -/
theorem rejections_are_ordered (driver : String) (lookup : ClaimLookup ε) (state : State) (body : List UInt8) :
    let reported := failure? (state.review driver lookup body).1
    ((∃ detail, reported = some (.undecodableReview detail)) ↔
      ¬ ∃ types request, AdmissionReview.parse body = .ok ⟨types, some request⟩)
    ∧ (reported = some .unsupportedOperation ↔
      ∃ types request, AdmissionReview.parse body = .ok ⟨types, some request⟩ ∧ request.operation ≠ .create)
    ∧ ((∃ detail, reported = some (.notPod detail)) ↔
      ∃ types request, AdmissionReview.parse body = .ok ⟨types, some request⟩ ∧ request.operation = .create
        ∧ ¬ ∃ object pod, request.object = some object ∧ object.toPod = .ok pod)
    ∧ (reported = none ↔
      ∃ types request, AdmissionReview.parse body = .ok ⟨types, some request⟩ ∧ request.operation = .create
        ∧ ∃ object pod, request.object = some object ∧ object.toPod = .ok pod)
    ∧ (∀ types uid, ∃ patched, attachPatch (ReadinessPatch.ofDriver driver).encoded (unpatched types uid) = .ok patched)
    ∧ ∀ e, reported = some e →
      ((∃ detail, e = .undecodableReview detail) ∨ e = .unsupportedOperation ∨ ∃ detail, e = .notPod detail)
        ∧ e.status = 400 ∧ (state.review driver lookup body).2 = state
        ∧ ∀ asked, (reviewBy driver state.classes lookup.noting body asked).2 = asked := by
  intro reported
  have hrejected : ∀ rejection, podOf body = .error rejection → reported = some rejection.error := by
    intro rejection hpod
    simp only [reported, State.review_of_podOf_error driver lookup state hpod, failure?]
  have hanswered : ∀ parts, podOf body = .ok parts → reported = none := by
    intro parts hpod
    obtain ⟨answered, -, hreview⟩ := State.review_of_podOf driver lookup state hpod
    simp only [reported, hreview, failure?]
  refine ⟨?undecodable, ?unsupported, ?notPod, ?answered, fun types uid => ⟨_, attachPatch_unpatched types uid _⟩,
    fun e he => rejected_without_effect driver lookup state he⟩
  -- Each of the four is settled by which of the checks fails first.
  all_goals
    rcases podOf_cases body with ⟨fault, hparse, hpod⟩ | ⟨types, hparse, hpod⟩ | ⟨types, request, hparse, hrequest⟩
    · simp [hparse, hrejected _ hpod, Rejection.error]
    · simp [hparse, hrejected _ hpod, Rejection.error]
    rcases hrequest with ⟨hother, hpod⟩ | ⟨hcreate, hobject, hpod⟩ | ⟨hcreate, object, hobject, hobjectPod⟩
    · simp [hparse, hrejected _ hpod, Rejection.error, hother, and_assoc]
    · simp [hparse, hrejected _ hpod, Rejection.error, hcreate, hobject, and_assoc]
    rcases hobjectPod with ⟨cause, hcause, hpod⟩ | ⟨pod, hok, hpod⟩
    · simp [hparse, hrejected _ hpod, Rejection.error, hcreate, hobject, hcause, and_assoc]
    · simp [hparse, hanswered _ hpod, hcreate, hobject, hok, and_assoc]

end Admission

end ReadyPin

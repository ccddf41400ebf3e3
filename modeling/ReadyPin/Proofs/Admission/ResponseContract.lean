import ReadyPin.Proofs.Admission.PatchedReview
import ReadyPin.Proofs.Admission.Rejections
import ReadyPin.Proofs.Admission.ReviewValue

/-!
# What every answer says

An answer is read back here as the other side reads it: as the JSON value that its text writes. It is the review of the
request with a response in the place of the request; the response gives back the uid, allows what is asked for,
and has the patch with its type exactly if the decision is to mutate (`answers_keep_contract`).

The type names and the uid pass through text twice, out of the request and into the answer. They come out as the
strings that they are, however the request writes their characters: what `AdmissionReview.parse` reads of a body is what
the value of the body has in its place (`AdmissionReview.tells_of_parse`).
-/

namespace ReadyPin

/-- The keys of an object, with every duplicate. -/
def Json.keys : Json → List String
  | .object members => members.map Prod.fst
  | _ => []

namespace Admission

/-! ## 1. The contract -/

/-- An answer admits what was asked for under a uid, in a review of some type. -/
structure Admits (driver : String) (types : TypeNames) (uid : String) (decision : Decision) (review inner : Json) :
    Prop where
  /-- No key stands twice, so that it does not matter which of several a reader would take. -/
  distinct : review.keys.Nodup ∧ inner.keys.Nodup
  apiVersion : review.member? "apiVersion" = some (.string types.apiVersion)
  kind : review.member? "kind" = some (.string types.kind)
  noRequest : review.member? "request" = none
  response : review.member? "response" = some inner
  uid : inner.member? "uid" = some (.string uid)
  allowed : inner.member? "allowed" = some (.bool true)
  /-- The patch is there if it is given, and with it its type. -/
  patched : decision = .mutate → inner.member? "patchType" = some (.string "JSONPatch")
    ∧ inner.member? "patch" = some (.string (ReadinessPatch.ofDriver driver).encoded)
  unpatched : decision ≠ .mutate → inner.member? "patchType" = none ∧ inner.member? "patch" = none

theorem admits_answer (driver : String) (types : TypeNames) (uid : String) (decision : Decision) :
    let patch? := if decision.patches then some (ReadinessPatch.ofDriver driver) else none
    Admits driver types uid decision (answer types uid patch?) (response uid patch?) := by
  have hkeys : ∀ patch?, (answer types uid patch?).keys = ["apiVersion", "kind", "response"] := fun _ => rfl
  cases decision with
  | mutate =>
    have hinner : (response uid (some (.ofDriver driver))).keys
        = ["allowed", "patch", "patchType", "status", "uid"] := rfl
    exact { distinct := ⟨by rw [hkeys]; decide, hinner ▸ by decide⟩, apiVersion := rfl, kind := rfl, noRequest := rfl,
            response := rfl, uid := rfl, allowed := rfl, patched := fun _ => ⟨rfl, rfl⟩,
            unpatched := fun h => absurd rfl h }
  | alreadyPreferred | notUsingDriver =>
    have hinner : (response uid none).keys = ["allowed", "status", "uid"] := rfl
    exact { distinct := ⟨by rw [hkeys]; decide, hinner ▸ by decide⟩, apiVersion := rfl, kind := rfl, noRequest := rfl,
            response := rfl, uid := rfl, allowed := rfl, patched := nofun, unpatched := fun _ => ⟨rfl, rfl⟩ }

theorem parse_answer (types : TypeNames) (uid : String) (patch? : Option ReadinessPatch) :
    Json.parse (Utf8.encode (answer types uid patch?).print) = .ok (answer types uid patch?) := by
  cases patch? with
  | none => exact Json.parse_print rfl (Nat.le_of_ble_eq_true rfl)
  | some patch => exact Json.parse_print rfl (Nat.le_of_ble_eq_true rfl)

/-! ## 2. Answers -/

variable {ε : Type} {driver : String} {lookup : ClaimLookup ε} {state : State} {body : List UInt8} {answered : Answered}

/-- **The contract of an answer.** If a review succeeds, in any state, then the text of the answer is that of a JSON
value, and this admits what was asked for: it gives back the type of the review and the uid of the request, allows the
request, and has the patch exactly if the decision is to mutate.

The type and the uid are those that have been read from the body. If the body is the text of a JSON value too, they
are the strings that this has in their places, character for character. -/
theorem answers_keep_contract (h : (state.review driver lookup body).1 = .ok answered) :
    ∃ types request review inner, AdmissionReview.parse body = .ok ⟨types, some request⟩
      ∧ Json.parse (Utf8.encode answered.body) = .ok review
      ∧ Admits driver types request.uid answered.verdict.decision review inner
      ∧ ∀ v, Json.parse body = .ok v → AdmissionReview.Tells v types request.uid := by
  cases hpod : podOf body with
  | error rejection =>
    rw [State.review_of_podOf_error driver lookup state hpod] at h
    cases h
  | ok parts =>
    obtain ⟨types, request, pod⟩ := parts
    obtain ⟨answered', hok, hreview⟩ := State.review_of_podOf driver lookup state hpod
    rw [hreview] at h
    obtain rfl := Except.ok.inj h
    obtain ⟨types', request', pod', hpod', -, hbody⟩ := review_eq_ok.mp hok
    cases hpod.symm.trans hpod'
    obtain ⟨object, hparse, -⟩ := podOf_eq_ok.mp hpod
    refine ⟨types, request, _, _, hparse, ?_, admits_answer driver types request.uid _, fun v hv => ?_⟩
    · rw [hbody]
      exact parse_answer types request.uid _
    · exact AdmissionReview.tells_of_parse hv hparse

/-- A request to create a pod with a volume of the driver. Its uid is written with a bell, with a character in two
halves, with a quote and with a backslash. -/
def escaping : List UInt8 :=
  let uid := "\"uid\":\"\\u0007\\ud83d\\ude00\\\"\\\\é\","
  let types := "\"kind\":[\"\",\"v1\",\"Pod\"],\"resource\":[\"\",\"v1\",\"pods\"],"
  let asked := "\"operation\":\"CREATE\",\"userInfo\":\x7b\x7d,"
  let object := "\"object\":\x7b\"spec\":\x7b\"volumes\":[\x7b\"csi\":\x7b\"driver\":\"d\"\x7d\x7d]\x7d\x7d"
  let request := "\"request\":\x7b" ++ uid ++ types ++ asked ++ object ++ "\x7d,"
  Utf8.encode ("\x7b" ++ request ++ " \"kind\":\"AdmissionReview\",\"apiVersion\":\"v1\"\x7d").toList

/-- The uid of that request. -/
def escapedUid : String := "\u0007😀\"\\é"

theorem escaping_keeps_contract : ∃ answered review inner,
    (({} : State).review "d" noClaims escaping).1 = .ok answered ∧ answered.verdict.decision = .mutate
      ∧ Json.parse (Utf8.encode answered.body) = .ok review
      ∧ Admits "d" ⟨"v1", "AdmissionReview"⟩ escapedUid .mutate review inner := by
  have hread : (podOf escaping).toOption.any (fun parts =>
      parts.1 = ⟨"v1", "AdmissionReview"⟩ && parts.2.1.uid == escapedUid
        && (Policy.decide "d" {} noClaims (placed parts.2.1 parts.2.2)).decision = .mutate) = true := by
    decide +kernel
  cases hpod : podOf escaping with
  | error rejection =>
    rw [hpod] at hread
    cases hread
  | ok parts =>
    obtain ⟨types, request, pod⟩ := parts
    rw [hpod] at hread
    simp only [Except.toOption, Option.any_some, Bool.and_eq_true, decide_eq_true_eq, beq_iff_eq] at hread
    obtain ⟨⟨rfl, huid⟩, hmutate⟩ := hread
    obtain ⟨answered, hok, hreview⟩ := State.review_of_podOf "d" noClaims {} hpod
    have hanswered : (({} : State).review "d" noClaims escaping).1 = .ok answered := by rw [hreview]
    obtain ⟨types', request', pod', hpod', hverdict, -⟩ := review_eq_ok.mp hok
    cases hpod.symm.trans hpod'
    have hdecision : answered.verdict.decision = .mutate := by
      rw [hverdict]
      exact hmutate
    obtain ⟨types, request', review, inner, hparse, hjson, hadmits, -⟩ := answers_keep_contract hanswered
    obtain ⟨-, hparse', -⟩ := podOf_eq_ok.mp hpod
    cases hparse.symm.trans hparse'
    rw [huid, hdecision] at hadmits
    exact ⟨answered, review, inner, hanswered, hdecision, hjson, hadmits⟩

end Admission

end ReadyPin

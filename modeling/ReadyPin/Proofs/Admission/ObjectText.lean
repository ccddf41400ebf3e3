import ReadyPin.Admission.Review
import ReadyPin.Proofs.Json.Mapping
import ReadyPin.Proofs.Json.Replacement

/-!
# The object inside a body

The body of an admission request has the object under review somewhere inside. `Admission.objectText?` cuts its text
out of the body, and `Admission.withObject` puts another text in its place. `all_replaceObject` says what that does:
the body is read as before, except that the object is the one that the new text writes.
-/

namespace ReadyPin

variable {ω υ : Type}

/-! ## 1. Requests with another object -/

/-- The request with something made of its object, if it has one at all. -/
def AdmissionRequest.mapObject (f : ω → υ) (self : AdmissionRequest ω) : AdmissionRequest υ where
  uid := self.uid
  operation := self.operation
  inNamespace := self.inNamespace
  object := self.object.map f

/-- The request with another object, if it has one at all. -/
def AdmissionRequest.replaceObject (v : υ) (self : AdmissionRequest ω) : AdmissionRequest υ :=
  self.mapObject fun _ => v

/-- The review with something made of its object, if it has one at all. -/
def AdmissionReview.mapObject (f : ω → υ) (self : AdmissionReview ω) : AdmissionReview υ where
  types := self.types
  request := self.request.map (·.mapObject f)

/-- The review with another object, if it has one at all. -/
def AdmissionReview.replaceObject (v : υ) (self : AdmissionReview ω) : AdmissionReview υ :=
  self.mapObject fun _ => v

/-- The object of a review. -/
def AdmissionReview.object? (self : AdmissionReview ω) : Option ω := self.request.bind (·.object)

theorem AdmissionReview.replaceObject_mapObject {χ : Type} (v : χ) (f : ω → υ) (self : AdmissionReview ω) :
    (self.mapObject f).replaceObject v = self.replaceObject v := by
  obtain ⟨types, request⟩ := self
  cases request with
  | none => rfl
  | some request => simp [mapObject, replaceObject, AdmissionRequest.mapObject, Function.comp_def]

open Reader

/-! ## 2. Lookahead -/

section Lookahead

instance : Takes Metadata.ownerReference := by
  unfold Metadata.ownerReference
  infer_instance

instance (outside : Nat) : Takes (Metadata.managerEntry outside) := by
  unfold Metadata.managerEntry
  infer_instance

instance (outside : Nat) : Takes (Metadata.read outside) := by
  unfold Metadata.read
  infer_instance

instance (draft : AnyObject.Draft) (key : String) : Local (AnyObject.member draft key) := by
  unfold AnyObject.member
  infer_instance

instance : Takes AnyObject.read := by
  unfold AnyObject.read
  exact .after fun k => by cases k <;> infer_instance

instance (keys : List String) : TakesSlots (AdmissionRequest.names keys) where
  take slot hslot before := by
    obtain ⟨key, -, rfl⟩ := List.mem_map.mp hslot
    infer_instance

instance : Takes AdmissionRequest.groupVersionKind :=
  inferInstanceAs (Takes (strictRecord _ _ _ (AdmissionRequest.names _)))

instance : Takes AdmissionRequest.groupVersionResource :=
  inferInstanceAs (Takes (strictRecord _ _ _ (AdmissionRequest.names _ ++ [ _ ])))

instance : Takes AdmissionRequest.user := by
  unfold AdmissionRequest.user
  infer_instance

variable {readObject : Reader ω} [Takes readObject]

instance : TakesSlots (AdmissionRequest.slots readObject) := by
  unfold AdmissionRequest.slots
  infer_instance

instance : Takes (AdmissionRequest.read readObject) :=
  inferInstanceAs (Takes (strictRecord _ _ _ (AdmissionRequest.slots readObject)))

instance : Takes AdmissionReview.statusCause := by
  unfold AdmissionReview.statusCause
  infer_instance

instance : Takes AdmissionReview.statusDetails := by
  unfold AdmissionReview.statusDetails
  infer_instance

instance : Takes AdmissionReview.status := by
  unfold AdmissionReview.status
  infer_instance

instance : Takes AdmissionReview.response := by
  unfold AdmissionReview.response
  infer_instance

instance (draft : AdmissionReview.Draft ω) (key : String) : Local (AdmissionReview.member readObject draft key) := by
  unfold AdmissionReview.member
  infer_instance

end Lookahead

/-! ## 3. The comparison of two readings -/

theorem request_corresponds (read : Reader ω) (read' : Reader υ) [Takes read] :
    List.Forall₂ (Corresponds read' AdmissionRequest.object AdmissionRequest.replaceObject "object")
      (AdmissionRequest.slots (located read)) (AdmissionRequest.slots read') := by
  have hobject : Corresponds read' AdmissionRequest.object AdmissionRequest.replaceObject "object"
      (.nullable "object" (located read) fun self v => { self with object := v })
      (.nullable "object" read' fun self v => { self with object := v }) :=
    { key := rfl
      required := rfl
      listed := rfl
      take := fun before h => by
        rw [h rfl]
        exact Swaps.located.nullable.bind fun o => .pure (by cases o <;> rfl)
      shrinks := fun before => inferInstanceAs (Shrinks (Reader.nullable (located read) >>= _))
      keeps := fun h => absurd rfl h }
  unfold AdmissionRequest.slots
  refine .cons (.needed ?_ ?_) (.cons (.needed ?_ ?_) (.cons (.needed ?_ ?_) (.cons (.extra ?_ ?_)
    (.cons (.extra ?_ ?_) (.cons (.extra ?_ ?_) (.cons (.extra ?_ ?_) (.cons (.extra ?_ ?_) (.cons (.nullable ?_ ?_)
    (.cons (.needed ?_ ?_) (.cons (.needed ?_ ?_) (.cons hobject (.cons (.nullable ?_ ?_) (.cons (.extra ?_ ?_)
    (.cons (.extra ?_ ?_) .nil))))))))))))))
  all_goals
    intros
    rfl

theorem request_swaps (read : Reader ω) (read' : Reader υ) [Takes read] [Takes read'] :
    Swaps read' AdmissionRequest.object AdmissionRequest.replaceObject none (AdmissionRequest.read (located read))
      fun _ => AdmissionRequest.read read' :=
  Swaps.strictRecord (request_corresponds read read')
    (by simp [AdmissionRequest.slots, Slot.needed, Slot.extra, Slot.nullable]) rfl "AdmissionRequest" 15

/-- The object in what has been read of a review. -/
def AdmissionReview.Draft.object? (self : AdmissionReview.Draft ω) : Option ω :=
  self.request.bind fun o => o.bind (·.object)

/-- What has been read of a review, with another object. -/
def AdmissionReview.Draft.replaceObject (v : υ) (self : AdmissionReview.Draft ω) : AdmissionReview.Draft υ where
  request := self.request.map fun o => o.map (·.replaceObject v)
  answered := self.answered
  before := self.before

theorem member_swaps (read : Reader ω) (read' : Reader υ) [Takes read] [Takes read']
    (draft : AdmissionReview.Draft (Site read)) (key : String) :
    Swaps read' AdmissionReview.Draft.object? AdmissionReview.Draft.replaceObject draft.object?
      (AdmissionReview.member (located read) draft key) fun v =>
        AdmissionReview.member read' (draft.replaceObject v) key := by
  have hpresent : ∀ v : υ, (draft.replaceObject v).request.isSome = draft.request.isSome := by
    intro v
    cases hr : draft.request <;> simp [AdmissionReview.Draft.replaceObject, hr]
  unfold AdmissionReview.member
  by_cases hkey : key = "request"
  · simp only [if_pos hkey, hpresent]
    cases hr : draft.request with
    | some o =>
      simp only [Option.isSome_some, if_true]
      exact .never fun _ _ => mismatched_ne_ok
    | none =>
      have hnone : draft.object? = none := by simp [AdmissionReview.Draft.object?, hr]
      rw [hnone]
      exact (Swaps.same colon).bind fun _ => (request_swaps read read').nullable.bind fun o => .pure rfl
  · simp only [if_neg hkey]
    by_cases hkey' : key = "response"
    · simp only [if_pos hkey']
      by_cases hans : draft.answered = true
      · have hans' : ∀ v : υ, (draft.replaceObject v).answered = true := fun _ => hans
        simp only [hans, hans', if_true]
        exact .never fun _ _ => mismatched_ne_ok
      · have hans' : ∀ v : υ, ¬ (draft.replaceObject v).answered = true := fun _ => hans
        simp only [hans, hans']
        exact (Swaps.same colon).bind fun _ => (Swaps.same (Reader.nullable AdmissionReview.response)).bind fun _ =>
          .pure rfl
    · simp only [if_neg hkey']
      refine (Swaps.same (keptMember (kept AdmissionReview.memberDepth) draft.before key)).bind fun before => .pure rfl

theorem review_swaps (read : Reader ω) (read' : Reader υ) [Takes read] [Takes read'] :
    Swaps read' AdmissionReview.object? AdmissionReview.replaceObject none (AdmissionReview.read (located read))
      fun _ => AdmissionReview.read read' := by
  have hshrinks := fun draft key => (member_swaps read read' draft key).shrinks
  refine (Swaps.same kind).bind fun k => ?_
  cases k
  case object =>
    refine (Swaps.ofMembers AdmissionReview.Draft.object? AdmissionReview.Draft.replaceObject (fun _ => True)
      (fun draft key _ => member_swaps read read' draft key) (fun _ _ _ _ _ _ _ => trivial) {} trivial).bind
        fun draft => ?_
    unfold AdmissionReview.ofDraft
    have hbefore : ∀ v : υ, (draft.replaceObject v).before = draft.before := fun _ => rfl
    simp only [hbefore]
    cases (TypeNames.takeFrom none none draft.before.reverse).1 with
    | error cause => exact .never fun _ _ => mismatched_ne_ok
    | ok types =>
      have hchange : ∀ v : υ, (draft.replaceObject v).request.join = draft.request.join.map (·.replaceObject v) := by
        intro v
        rcases hr : draft.request with _ | _ | request <;> simp [AdmissionReview.Draft.replaceObject, hr]
      simp only [hchange]
      refine .pure ?_
      rcases hr : draft.request with _ | _ | request <;>
        simp [AdmissionReview.Draft.object?, AdmissionReview.object?, hr]
  all_goals exact .never fun _ _ => unexpected_ne_ok

instance : Local finish :=
  .onNext (inferInstanceAs (Local (pure ()))) fun _ => inferInstanceAs (Local (malformed _))

theorem all_eq_ok {r : Reader ω} {s : List UInt8} {a : ω} :
    Reader.all r s = .ok a ↔ ∃ t, (do let a ← r; finish; pure a : Reader ω) s = .ok (a, t) := by
  unfold Reader.all
  cases h : (do let a ← r; finish; pure a : Reader ω) s with
  | error fault => simp
  | ok x =>
    obtain ⟨b, t⟩ := x
    simp

/-- A review that has been read with one object is read with another one if the text of that stands in the place. -/
theorem all_replaceObject {read : Reader ω} (read' : Reader υ) [Takes read] [Takes read'] {body : List UInt8}
    {review : AdmissionReview (Site read)} {site : Site read}
    (h : Reader.all (AdmissionReview.read (located read)) body = .ok review) (hsite : review.object? = some site) :
    ∃ p, body = p ++ site.start ∧ ∀ v new, site.Fits read' new v →
      Reader.all (AdmissionReview.read read') (p ++ new) = .ok (review.replaceObject v) := by
  have hswaps : Swaps read' AdmissionReview.object? AdmissionReview.replaceObject none
      (do let a ← AdmissionReview.read (located read); finish; pure a)
      (fun _ => do let a ← AdmissionReview.read read'; finish; pure a) :=
    (review_swaps read read').bind fun review => (Swaps.same finish).bind fun _ => .pure rfl
  obtain ⟨t, h⟩ := all_eq_ok.mp h
  rcases hswaps body review t h with ⟨hnone, -⟩ | ⟨-, site', hsite', -, p, rfl, hp⟩
  · rw [hsite] at hnone
    cases hnone
  · obtain rfl : site' = site := Option.some.inj (hsite'.symm.trans hsite)
    exact ⟨p, rfl, fun v new hnew => all_eq_ok.mpr ⟨t, hp v new hnew⟩⟩

/-! ## 4. The text of the object -/

namespace Admission

/-- Where the object stands in a body. -/
def objectSite? (body : List UInt8) : Option (Site AnyObject.read) :=
  match Reader.all (AdmissionReview.read (located AnyObject.read)) body with
  | .ok review => review.object?
  | .error _ => none

/-- The text of the object in a body, without the blanks in front of it. -/
def objectText? (body : List UInt8) : Option (List UInt8) := do
  let site ← objectSite? body
  let text := site.start.dropWhile isBlank
  some (text.take (text.length - site.rest.length))

/-- The object in a body, as a value. -/
def object? (body : List UInt8) : Option Json := do
  (Json.parse (← objectText? body)).toOption

/-- The body with another text in place of that of its object. -/
def withObject (body text : List UInt8) : Option (List UInt8) := do
  let site ← objectSite? body
  some (body.take (body.length - (site.start.dropWhile isBlank).length) ++ text ++ site.rest)

end Admission

/-! ## 5. Every object has a text -/

theorem request_mirrors (f : ω → υ) (read : Reader ω) :
    List.Forall₂ (Mirrors (AdmissionRequest.mapObject f)) (AdmissionRequest.slots read)
      (AdmissionRequest.slots (f <$> read)) := by
  unfold AdmissionRequest.slots
  refine .cons (.needed ?_) (.cons (.needed ?_) (.cons (.needed ?_) (.cons (.extra ?_) (.cons (.extra ?_)
    (.cons (.extra ?_) (.cons (.extra ?_) (.cons (.extra ?_) (.cons (.nullable (f := id) ?_ ?_) (.cons (.needed ?_)
    (.cons (.needed ?_) (.cons (.nullable rfl ?_) (.cons (.nullable (f := id) ?_ ?_) (.cons (.extra ?_)
    (.cons (.extra ?_) .nil))))))))))))))
  all_goals intros
  all_goals simp [AdmissionRequest.mapObject]

theorem request_map (f : ω → υ) (read : Reader ω) :
    AdmissionRequest.read (f <$> read) = AdmissionRequest.mapObject f <$> AdmissionRequest.read read :=
  strictRecord_map "AdmissionRequest" 15 (request_mirrors f read) {}

/-- What has been read of a review, with something made of its object. -/
def AdmissionReview.Draft.mapObject (f : ω → υ) (self : AdmissionReview.Draft ω) : AdmissionReview.Draft υ where
  request := self.request.map fun o => o.map (·.mapObject f)
  answered := self.answered
  before := self.before

theorem member_map (f : ω → υ) (read : Reader ω) (draft : AdmissionReview.Draft ω) (key : String) :
    AdmissionReview.member (f <$> read) (draft.mapObject f) key
      = AdmissionReview.Draft.mapObject f <$> AdmissionReview.member read draft key := by
  have hpresent : (draft.mapObject f).request.isSome = draft.request.isSome := Option.isSome_map
  unfold AdmissionReview.member
  rw [hpresent]
  split
  · split
    · rfl
    · refine same_bind_eq colon fun _ => bind_map_eq (by rw [request_map, nullable_map]) fun o => rfl
  split
  · show (if draft.answered then _ else _) = _
    split
    · rfl
    · exact same_bind_eq colon fun _ => same_bind_eq _ fun _ => rfl
  · exact same_bind_eq (keptMember (kept AdmissionReview.memberDepth) draft.before key) fun _ => rfl

/-- How the object is read makes no difference to the rest of a review. -/
theorem review_map (f : ω → υ) (read : Reader ω) :
    AdmissionReview.read (f <$> read) = AdmissionReview.mapObject f <$> AdmissionReview.read read := by
  refine same_bind_eq kind fun k => ?_
  cases k
  case object =>
    refine bind_map_eq (members_map _ (member_map f read) {}) fun draft => ?_
    unfold AdmissionReview.ofDraft
    have hbefore : (draft.mapObject f).before = draft.before := rfl
    simp only [hbefore]
    cases (TypeNames.takeFrom none none draft.before.reverse).1 with
    | error cause => rfl
    | ok types => rcases hr : draft.request with _ | _ | request <;> simp [AdmissionReview.Draft.mapObject, hr] <;> rfl
  all_goals exact unexpected_map _ _ _

/-- To tell where a value stands does not change how it is read. -/
theorem value_located (read : Reader ω) : Site.value <$> located read = read := by
  funext s
  cases hs : located read s with
  | error fault =>
    have hread := hs
    unfold located at hread
    split at hread
    · rename_i fault' h
      cases hread
      rw [h]
      simp [Functor.map, StateT.map, hs, bind, Except.bind]
    · cases hread
  | ok x =>
    obtain ⟨site, t⟩ := x
    rw [map_eq_ok.mpr ⟨site, hs, rfl⟩]
    unfold located at hs
    split at hs
    · cases hs
    · rename_i h
      cases hs
      exact h.symm

/-- The object of a review stands somewhere in its body. -/
theorem Admission.exists_objectSite {body : List UInt8} {review : AdmissionReview AnyObject} {object : AnyObject}
    (h : AdmissionReview.parse body = .ok review) (hobject : review.object? = some object) :
    ∃ site, Admission.objectSite? body = some site ∧ site.value = object := by
  rw [AdmissionReview.parse, all_eq_ok] at h
  obtain ⟨t, h⟩ := h
  obtain ⟨review', u, hreview, hfinish⟩ := bind_eq_ok.mp h
  rw [← value_located AnyObject.read, review_map] at hreview
  obtain ⟨located, hlocated, rfl⟩ := map_eq_ok.mp hreview
  obtain ⟨_, w, hend, hpure⟩ := bind_eq_ok.mp hfinish
  obtain ⟨rfl, rfl⟩ := pure_eq_ok.mp hpure
  have hall : Reader.all (AdmissionReview.read (Reader.located AnyObject.read)) body = .ok located :=
    all_eq_ok.mpr ⟨_, bind_eq_ok.mpr ⟨located, u, hlocated, bind_eq_ok.mpr ⟨_, _, hend, rfl⟩⟩⟩
  obtain ⟨request, hrequest, hvalue⟩ := Option.bind_eq_some_iff.mp hobject
  obtain ⟨request', hrequest', rfl⟩ := Option.map_eq_some_iff.mp hrequest
  obtain ⟨site, hsite, rfl⟩ := Option.map_eq_some_iff.mp hvalue
  refine ⟨site, ?_, rfl⟩
  rw [Admission.objectSite?, hall]
  exact Option.bind_eq_some_iff.mpr ⟨request', hrequest', hsite⟩

end ReadyPin

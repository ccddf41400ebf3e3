import ReadyPin.Proofs.Admission.KeptObject
import ReadyPin.Proofs.Json.StrictValues

/-!
# Reviews as values

The body of an admission request is read from its text, in one pass. If the body is the text of a JSON value, then what
is read of it depends on that value alone, and not on its blanks or on how it writes its characters
(`AdmissionReview.parse_iff`). In particular the type names and the uid are the strings that the value has in their
places (`AdmissionReview.tells_of_parse`). A request may be an object or a list, and the uid is in front of the list.
-/

namespace ReadyPin

open Reader Json

/-! ## 1. Readers of the envelope -/

section Faithful

instance : Faithful AnyObject.read := by
  obtain ⟨f, hf⟩ : ∃ f, Means (Metadata.read AnyObject.outside) f := Faithful.means
  exact ⟨_, AnyObject.read_means hf⟩

instance (depth : Nat) : Faithful (kept depth) := ⟨_, kept_means depth⟩

instance : Faithful Source.word16 := ⟨_, integer_means _ _ _⟩

instance (keys : List String) : FaithfulSlots (AdmissionRequest.names keys) where
  take := by
    intro slot hslot before
    obtain ⟨key, -, rfl⟩ := List.mem_map.mp hslot
    infer_instance

instance : Faithful AdmissionRequest.groupVersionKind :=
  inferInstanceAs (Faithful (strictRecord _ _ _ (AdmissionRequest.names _)))

instance : Faithful AdmissionRequest.groupVersionResource :=
  inferInstanceAs (Faithful (strictRecord _ _ _ (AdmissionRequest.names _ ++ [ _ ])))

instance : Faithful AdmissionRequest.user := by
  unfold AdmissionRequest.user
  infer_instance

instance {ω : Type} {readObject : Reader ω} [Faithful readObject] :
    FaithfulSlots (AdmissionRequest.slots readObject) := by
  unfold AdmissionRequest.slots
  infer_instance

instance : Faithful AdmissionReview.statusCause := by
  unfold AdmissionReview.statusCause
  infer_instance

instance : Faithful AdmissionReview.statusDetails := by
  unfold AdmissionReview.statusDetails
  infer_instance

instance : Faithful AdmissionReview.status := by
  unfold AdmissionReview.status
  infer_instance

instance : Faithful AdmissionReview.response := by
  unfold AdmissionReview.response
  infer_instance

end Faithful

/-! ## 2. Type names -/

namespace TypeNames

/-- A name has been taken out under a key, before the members or among them, and there only once. -/
def Taken (key : String) (before : Option String) (members : List (String × Json)) (name : String) : Prop :=
  before = none ∧ lookup members key = some (.string name) ∨ before = some name ∧ lookup members key = none

theorem Taken.cons {key : String} {members : List (String × Json)} {name taken : String} {before : Option String}
    {v : Json} (hname : nameOf before key v = .ok taken) (h : Taken key (some taken) members name) :
    Taken key before ((key, v) :: members) name := by
  obtain ⟨hnone, -⟩ | ⟨htaken, hlookup⟩ := h
  · cases hnone
  obtain rfl := Option.some.inj htaken
  cases before with
  | some other => cases hname
  | none =>
    cases v with
    | string x =>
      cases hname
      refine .inl ⟨rfl, ?_⟩
      rw [lookup_cons, hlookup, if_pos rfl, Option.none_or]
    | _ => cases hname

theorem Taken.other {key other : String} {before : Option String} {members : List (String × Json)} {name : String}
    {v : Json} (h : Taken key before members name) (hkey : key ≠ other) :
    Taken key before ((other, v) :: members) name := by
  rw [Taken, lookup_cons, if_neg hkey, Option.or_none]
  exact h

theorem taken_of_takeFrom (members : List (String × Json)) : ∀ {apiVersion kind : Option String} {types : TypeNames},
    (takeFrom apiVersion kind members).1 = .ok types →
      Taken "apiVersion" apiVersion members types.apiVersion ∧ Taken "kind" kind members types.kind := by
  induction members with
  | nil =>
    intro apiVersion kind types h
    cases apiVersion with
    | none => cases h
    | some a =>
      cases kind with
      | none => cases h
      | some k =>
        cases h
        exact ⟨.inr ⟨rfl, rfl⟩, .inr ⟨rfl, rfl⟩⟩
  | cons m members ih =>
    intro apiVersion kind types h
    obtain ⟨key, v⟩ := m
    rw [takeFrom] at h
    by_cases hversion : key = "apiVersion"
    · subst hversion
      rw [if_pos rfl] at h
      cases hname : nameOf apiVersion "apiVersion" v with
      | error cause =>
        rw [hname] at h
        cases h
      | ok name =>
        rw [hname] at h
        obtain ⟨hv, hk⟩ := ih h
        exact ⟨.cons hname hv, hk.other (by decide)⟩
    rw [if_neg hversion] at h
    by_cases hkind : key = "kind"
    · subst hkind
      rw [if_pos rfl] at h
      cases hname : nameOf kind "kind" v with
      | error cause =>
        rw [hname] at h
        cases h
      | ok name =>
        rw [hname] at h
        obtain ⟨hv, hk⟩ := ih h
        exact ⟨hv.other (by decide), .cons hname hk⟩
    rw [if_neg hkind] at h
    obtain ⟨hv, hk⟩ := ih h
    exact ⟨hv.other (Ne.symm hversion), hk.other (Ne.symm hkind)⟩

end TypeNames

/-! ## 3. Requests -/

namespace AdmissionRequest

variable {ω : Type} {readObject : Reader ω}

/-- The uid comes first, and the other members have nothing to do with it. -/
theorem slots_uid (readObject : Reader ω) : ∃ member rest, slots readObject = member :: rest ∧ member.key = "uid"
    ∧ IsText AdmissionRequest.uid member ∧ ∀ s ∈ rest, Aside "uid" AdmissionRequest.uid s := by
  refine ⟨_, _, rfl, rfl, ⟨rfl, rfl, _, fun _ => rfl, fun _ _ => rfl⟩, ?_⟩
  simp only [List.forall_mem_cons]
  refine ⟨.needed ?_ ?_, .needed ?_ ?_, .extra ?_ ?_, .extra ?_ ?_, .extra ?_ ?_, .extra ?_ ?_, .extra ?_ ?_,
    .nullable ?_ ?_, .needed ?_ ?_, .needed ?_ ?_, .nullable ?_ ?_, .nullable ?_ ?_, .extra ?_ ?_, .extra ?_ ?_, nofun⟩
  all_goals first | decide | exact fun _ _ => rfl

/-- What a request is read as depends on its value, which has the uid in its place. -/
theorem exists_means (readObject : Reader ω) [Takes readObject] [Faithful readObject] :
    ∃ f, Means (read readObject) f
      ∧ ∀ v request, Written v → f v = some request → firstMember "uid" v = some (.string request.uid) := by
  obtain ⟨f, hf⟩ : ∃ f, SlotsMean (slots readObject) f := FaithfulSlots.exists_means
  refine ⟨_, Means.strictRecord hf "AdmissionRequest" 15 {}, fun v request hv hrequest => ?_⟩
  obtain ⟨member, rest, hslots, hkey, htext, hrest⟩ := slots_uid readObject
  rw [hslots] at hf hrequest
  rw [← hkey] at hrest ⊢
  exact strictOf_text hf htext hrest hv hrequest

end AdmissionRequest

/-! ## 4. Reviews -/

namespace AdmissionReview

variable {ω : Type} {readObject : Reader ω}

/-- What is made of a value that may be null. -/
def orNull {α : Type} (f : Json → Option α) : Json → Option (Option α)
  | .null => some none
  | v => (f v).map some

section Value

variable (f : Json → Option (AdmissionRequest ω)) (g : Json → Option Unit)

/-- What a member does, by its value; `f` is for the request and `g` for the response. -/
def memberOf (draft : Draft ω) (key : String) (v : Json) : Option (Draft ω) :=
  if key = "request" then
    if draft.request.isSome then none else (orNull f v).map fun request => { draft with request := some request }
  else if key = "response" then
    if draft.answered then none else (orNull g v).map fun _ => { draft with answered := true }
  else (within memberDepth v).map fun v => { draft with before := (key, v) :: draft.before }

/-- The review that has been read, if its type is named. -/
def ofDraft? (draft : Draft ω) : Option (AdmissionReview ω) :=
  match (TypeNames.takeFrom none none draft.before.reverse).1 with
  | .ok types => some { types, request := draft.request.join }
  | .error _ => none

/-- The review that is read from the text of a value. -/
def ofJson : Json → Option (AdmissionReview ω)
  | .object members => (members.foldlM (fun draft m => memberOf f g draft m.1 m.2) {}).bind ofDraft?
  | _ => none

end Value

variable {f : Json → Option (AdmissionRequest ω)} {g : Json → Option Unit}

theorem member_means (hf : Means (AdmissionRequest.read readObject) f) (hg : Means response g) :
    StepMeans (member readObject) (memberOf f g) := by
  intro draft key depth s v t w hcolon hv after u
  unfold member memberOf
  by_cases hrequest : key = "request"
  · rw [if_pos hrequest, if_pos hrequest]
    by_cases hsome : draft.request.isSome = true
    · rw [if_pos hsome, if_pos hsome]
      simp [mismatched]
    · have hstep := hf.nullable.map fun request => ({ draft with request := some request } : Draft ω)
      rw [if_neg hsome, if_neg hsome]
      exact StepMeans.afterColon (fun _ _ => hstep) draft key depth s v t w hcolon hv after u
  rw [if_neg hrequest, if_neg hrequest]
  by_cases hresponse : key = "response"
  · rw [if_pos hresponse, if_pos hresponse]
    by_cases hanswered : draft.answered = true
    · rw [if_pos hanswered, if_pos hanswered]
      simp [mismatched]
    · have hstep := hg.nullable.map fun _ => ({ draft with answered := true } : Draft ω)
      rw [if_neg hanswered, if_neg hanswered]
      exact StepMeans.afterColon (fun _ _ => hstep) draft key depth s v t w hcolon hv after u
  rw [if_neg hresponse, if_neg hresponse]
  exact keptMember_put_iff (fun before => { draft with before }) hcolon hv after u

theorem ofDraft_iff {draft : Draft ω} {review : AdmissionReview ω} {s u : List UInt8} :
    ofDraft draft s = .ok (review, u) ↔ ofDraft? draft = some review ∧ u = s := by
  unfold ofDraft ofDraft?
  cases (TypeNames.takeFrom none none draft.before.reverse).1 with
  | error cause => simp [mismatched]
  | ok types =>
    rw [pure_eq_ok]
    simp [eq_comm]

/-- A review is read from its text as from its value. -/
theorem read_means [Takes readObject] (hf : Means (AdmissionRequest.read readObject) f) (hg : Means response g) :
    Means (read readObject) (ofJson f g) := by
  refine .ofKind fun depth s v t hv a u => ?_
  cases v with
  | bool b => cases b <;> exact unexpected_iff rfl
  | object members =>
    obtain ⟨d, rfl, hmembers⟩ := hv
    have hdraft := members_means (member_means hf hg) {} hmembers
    refine bind_eq_ok.trans ?_
    rw [ofJson, Option.bind_eq_some_iff]
    constructor
    · intro h
      obtain ⟨draft, w, hread, hreview⟩ := h
      obtain ⟨hfold, rfl⟩ := (hdraft draft w).mp hread
      obtain ⟨hmade, rfl⟩ := ofDraft_iff.mp hreview
      exact ⟨⟨draft, hfold, hmade⟩, rfl⟩
    · intro h
      obtain ⟨⟨draft, hfold, hreview⟩, rfl⟩ := h
      exact ⟨draft, u, (hdraft draft u).mpr ⟨hfold, rfl⟩, ofDraft_iff.mpr ⟨hreview, rfl⟩⟩
  | _ => exact unexpected_iff rfl

/-! ## 5. What a review takes from its value -/

/-- All that a member can do. -/
theorem memberOf_cases {draft after : Draft ω} {key : String} {v : Json} (h : memberOf f g draft key v = some after) :
    (key = "request" ∧ draft.request = none
      ∧ ∃ request, orNull f v = some request ∧ after = { draft with request := some request })
    ∨ (key = "response" ∧ after = { draft with answered := true })
    ∨ (key ≠ "request" ∧ key ≠ "response" ∧ after = { draft with before := (key, v) :: draft.before }) := by
  unfold memberOf at h
  split at h
  · rename_i hrequest
    split at h
    · cases h
    rename_i hnone
    obtain ⟨request, hv, rfl⟩ := Option.map_eq_some_iff.mp h
    exact .inl ⟨hrequest, Option.not_isSome_iff_eq_none.mp hnone, request, hv, rfl⟩
  rename_i hrequest
  split at h
  · rename_i hresponse
    split at h
    · cases h
    obtain ⟨-, -, rfl⟩ := Option.map_eq_some_iff.mp h
    exact .inr (.inl ⟨hresponse, rfl⟩)
  rename_i hresponse
  obtain ⟨v', hv', rfl⟩ := Option.map_eq_some_iff.mp h
  unfold within at hv'
  split at hv'
  · cases hv'
    exact .inr (.inr ⟨hrequest, hresponse, rfl⟩)
  · cases hv'

/-- Every key beside the two known ones has its value among the members that are kept. -/
theorem lookup_before {key : String} (hrequest : key ≠ "request") (hresponse : key ≠ "response")
    (members : List (String × Json)) : ∀ {draft last : Draft ω},
    members.foldlM (fun draft m => memberOf f g draft m.1 m.2) draft = some last →
      lookup last.before.reverse key = (lookup members key).or (lookup draft.before.reverse key) := by
  induction members with
  | nil =>
    intro draft last h
    cases h
    rfl
  | cons m members ih =>
    intro draft last h
    obtain ⟨k, v⟩ := m
    rw [List.foldlM_cons] at h
    obtain ⟨next, hnext, hlast⟩ := Option.bind_eq_some_iff.mp h
    rw [ih hlast, lookup_cons]
    rcases memberOf_cases hnext with ⟨rfl, -, request, -, rfl⟩ | ⟨rfl, rfl⟩ | ⟨-, -, rfl⟩
    · rw [if_neg hrequest, Option.or_none]
    · rw [if_neg hresponse, Option.or_none]
    · rw [List.reverse_cons, lookup_append, lookup_cons, lookup_nil, Option.none_or, Option.or_assoc]

/-- The request has been made of the only value under its key. -/
theorem lookup_request (members : List (String × Json)) : ∀ {draft last : Draft ω},
    members.foldlM (fun draft m => memberOf f g draft m.1 m.2) draft = some last →
      (draft.request.isSome = true → last.request = draft.request ∧ lookup members "request" = none)
      ∧ (draft.request = none → ∀ request, last.request = some request →
        ∃ v, lookup members "request" = some v ∧ orNull f v = some request) := by
  induction members with
  | nil =>
    intro draft last h
    cases h
    refine ⟨fun _ => ⟨rfl, rfl⟩, fun hnone request hrequest => ?_⟩
    cases hnone.symm.trans hrequest
  | cons m members ih =>
    intro draft last h
    obtain ⟨k, v⟩ := m
    rw [List.foldlM_cons] at h
    obtain ⟨next, hnext, hlast⟩ := Option.bind_eq_some_iff.mp h
    obtain ⟨hsome, hnone⟩ := ih hlast
    rw [lookup_cons]
    rcases memberOf_cases hnext with ⟨rfl, hdraft, request, hv, rfl⟩ | ⟨rfl, rfl⟩ | ⟨hk, -, rfl⟩
    · obtain ⟨hrequest, hlookup⟩ := hsome rfl
      refine ⟨fun h => ?_, fun _ request' hrequest' => ⟨v, ?_, ?_⟩⟩
      · rw [hdraft] at h
        cases h
      · rw [hlookup, if_pos rfl, Option.none_or]
      · cases hrequest.symm.trans hrequest'
        exact hv
    · have hne : "request" ≠ "response" := by decide
      rw [if_neg hne, Option.or_none]
      exact ⟨hsome, hnone⟩
    · rw [if_neg (Ne.symm hk), Option.or_none]
      exact ⟨hsome, hnone⟩

/-- The value of a review has the type names and the uid that are read from it. -/
structure Tells (v : Json) (types : TypeNames) (uid : String) : Prop where
  apiVersion : v.member? "apiVersion" = some (.string types.apiVersion)
  kind : v.member? "kind" = some (.string types.kind)
  uid : (v.member? "request").bind (firstMember "uid") = some (.string uid)

theorem tells_of_ofJson (hf : ∀ v request, Written v → f v = some request →
      firstMember "uid" v = some (.string request.uid)) {v : Json} (hv : Written v) {types : TypeNames}
    {request : AdmissionRequest ω} (h : ofJson f g v = some ⟨types, some request⟩) : Tells v types request.uid := by
  cases v with
  | object members =>
    obtain ⟨draft, hfold, hdraft⟩ := Option.bind_eq_some_iff.mp h
    unfold ofDraft? at hdraft
    split at hdraft
    · rename_i types' htypes
      simp only [Option.some.injEq, AdmissionReview.mk.injEq, Option.join_eq_some_iff] at hdraft
      obtain ⟨rfl, hrequest⟩ := hdraft
      have hbefore : ∀ key, key ≠ "request" → key ≠ "response" →
          lookup draft.before.reverse key = lookup members key := by
        intro key hne hne'
        rw [lookup_before hne hne' members hfold, List.reverse_nil, lookup_nil, Option.or_none]
      obtain ⟨⟨-, hversion⟩ | ⟨hnone, -⟩, ⟨-, hkind⟩ | ⟨hnone, -⟩⟩ := TypeNames.taken_of_takeFrom _ htypes
      · obtain ⟨w, hw, hrequest⟩ := (lookup_request members hfold).2 rfl _ hrequest
        refine ⟨(hbefore _ (by decide) (by decide)).symm.trans hversion,
          (hbefore _ (by decide) (by decide)).symm.trans hkind, ?_⟩
        have hwritten : Written w := hv.member _ (mem_of_lookup hw)
        have hf' : f w = some request := by
          cases w with
          | null => cases hrequest
          | _ => simpa [orNull] using hrequest
        rw [member?, hw]
        exact hf w request hwritten hf'
      all_goals cases hnone
    · cases hdraft
  | _ => cases h

/-- What a body is read as, if it is the text of a value. -/
theorem parse_iff {f : Json → Option (AdmissionRequest AnyObject)}
    (hf : Means (AdmissionRequest.read AnyObject.read) f) (hg : Means response g) {body : List UInt8} {v : Json}
    (hv : Json.parse body = .ok v) (review : AdmissionReview AnyObject) :
    parse body = .ok review ↔ ofJson f g v = some review := by
  obtain ⟨t, hkept, hblank⟩ := parse_eq_ok.mp hv
  have hread := read_means hf hg maxDepth body v t hkept
  rw [parse, all_eq_ok]
  constructor
  · intro h
    obtain ⟨x, h⟩ := h
    obtain ⟨review', u, hreview, h⟩ := bind_eq_ok.mp h
    obtain ⟨_, w, -, h⟩ := bind_eq_ok.mp h
    obtain ⟨rfl, -⟩ := pure_eq_ok.mp h
    exact ((hread review' u).mp hreview).1
  · intro h
    exact ⟨[], bind_eq_ok.mpr ⟨review, t, (hread review t).mpr ⟨h, rfl⟩,
      bind_eq_ok.mpr ⟨(), [], finish_eq_ok.mpr ⟨hblank, rfl⟩, rfl⟩⟩⟩

/-- If a body is the text of a value, the type names and the uid are those of the value. -/
theorem tells_of_parse {body : List UInt8} {v : Json} (hv : Json.parse body = .ok v) {types : TypeNames}
    {request : AdmissionRequest AnyObject} (h : parse body = .ok ⟨types, some request⟩) :
    Tells v types request.uid := by
  obtain ⟨f, hf, hself⟩ := AdmissionRequest.exists_means AnyObject.read
  obtain ⟨g, hg⟩ : ∃ g, Means response g := Faithful.means
  obtain ⟨t, hkept, -⟩ := parse_eq_ok.mp hv
  exact tells_of_ofJson hself ⟨maxDepth, body, t, hkept⟩ ((parse_iff hf hg hv _).mp h)

end AdmissionReview

end ReadyPin

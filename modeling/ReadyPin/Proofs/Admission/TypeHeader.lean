import ReadyPin.Proofs.Admission.PatchedReview
import ReadyPin.Proofs.Admission.Rejections

/-!
# The type that an object states

An object under review states its type by two members, and as a pod it has to be a pod of the first version. Both names
are taken out of the members first, and then put back for the pod to be read from. If that fails half way, then what has
been taken out is lost (`TypeNames.takeFrom`), and nothing is left to check it by.

So the type is checked of an object that states both names, each once and as a string. One that states a single name is
read as a pod whatever the name is. After a name that is no string, or one that comes a second time, only the names
behind it are checked. `Admission.type_is_checked_if_whole` tells the three cases apart.
-/

namespace ReadyPin

open Reader Json

/-! ## 1. Members that state a type -/

namespace TypeNames

/-- The key is one of the two that state a type. -/
def isKey (key : String) : Bool := key == "apiVersion" || key == "kind"

/-- The members that state a type, in their order. -/
def header (members : List (String × Json)) : List (String × Json) := members.filter fun m => isKey m.1

/-- The other members. -/
def beside (members : List (String × Json)) : List (String × Json) := members.filter fun m => !isKey m.1

theorem isKey_iff {key : String} : isKey key = true ↔ key = "apiVersion" ∨ key = "kind" := by
  simp [isKey]

variable {key : String} {v : Json} {members : List (String × Json)}

theorem header_cons_of_isKey (h : isKey key = true) : header ((key, v) :: members) = (key, v) :: header members :=
  List.filter_cons_of_pos h

theorem header_cons_of_not (h : isKey key = false) : header ((key, v) :: members) = header members :=
  List.filter_cons_of_neg (by simp [h])

theorem beside_cons_of_isKey (h : isKey key = true) : beside ((key, v) :: members) = beside members :=
  List.filter_cons_of_neg (by simp [h])

theorem beside_cons_of_not (h : isKey key = false) : beside ((key, v) :: members) = (key, v) :: beside members :=
  List.filter_cons_of_pos (by simp [h])

theorem lookup_header (h : isKey key = true) (members : List (String × Json)) :
    lookup (header members) key = lookup members key := by
  rw [lookup, header, ← List.filter_reverse, OrderedMap.lookup_filter isKey, if_pos h]
  rfl

/-- The names are taken out of the header, and the other members stay as they are. -/
theorem takeFrom_header (members : List (String × Json)) : ∀ apiVersion kind,
    (takeFrom apiVersion kind members).1 = (takeFrom apiVersion kind (header members)).1
      ∧ header (takeFrom apiVersion kind members).2 = (takeFrom apiVersion kind (header members)).2
      ∧ beside (takeFrom apiVersion kind members).2 = beside members := by
  induction members with
  | nil =>
    intro apiVersion kind
    cases apiVersion <;> cases kind <;> exact ⟨rfl, rfl, rfl⟩
  | cons m members ih =>
    intro apiVersion kind
    obtain ⟨key, v⟩ := m
    cases hkey : isKey key with
    | false =>
      obtain ⟨hversion, hkind⟩ := not_or.mp (mt isKey_iff.mpr (Bool.eq_false_iff.mp hkey))
      obtain ⟨hnames, hheader, hbeside⟩ := ih apiVersion kind
      rw [header_cons_of_not hkey, beside_cons_of_not hkey, takeFrom, if_neg hversion, if_neg hkind]
      exact ⟨hnames, (header_cons_of_not hkey).trans hheader, (beside_cons_of_not hkey).trans (by rw [hbeside])⟩
    | true =>
      rw [header_cons_of_isKey hkey, beside_cons_of_isKey hkey, takeFrom, takeFrom]
      split
      · cases nameOf apiVersion key v with
        | ok name => exact ih _ _
        | error cause => exact ⟨rfl, rfl, rfl⟩
      split
      · cases nameOf kind key v with
        | ok name => exact ih _ _
        | error cause => exact ⟨rfl, rfl, rfl⟩
      · exact absurd (isKey_iff.mp hkey) (not_or.mpr ⟨‹_›, ‹_›⟩)

/-! ## 2. What is left of a header -/

/-- The name that has been taken out under a key, out of the two. -/
def under (key : String) (apiVersion kind : Option String) : Option String :=
  if key = "apiVersion" then apiVersion else kind

/-- A name is taken out if it is a string and the first one under its key. -/
theorem takeFrom_name (hkey : isKey key = true) {apiVersion kind : Option String}
    (hfirst : under key apiVersion kind = none) (name : String) (members : List (String × Json)) :
    ∃ apiVersion' kind', takeFrom apiVersion kind ((key, .string name) :: members) = takeFrom apiVersion' kind' members
      ∧ (under key apiVersion' kind').isSome = true
      ∧ ∀ other, isKey other = true → other ≠ key → under other apiVersion' kind' = under other apiVersion kind := by
  rcases isKey_iff.mp hkey with rfl | rfl
  · obtain rfl : apiVersion = none := hfirst
    refine ⟨some name, kind, rfl, rfl, fun other hother hne => ?_⟩
    rw [under, under, if_neg hne, if_neg hne]
  · obtain rfl : kind = none := hfirst
    refine ⟨apiVersion, some name, rfl, rfl, fun other hother hne => ?_⟩
    rw [(isKey_iff.mp hother).resolve_right hne]
    rfl

/-- A value that is no string, or that has a name before it under its key. -/
def Breaks (named : Prop) (v : Json) : Prop := (∀ name, v ≠ .string name) ∨ named

theorem takeFrom_break (hkey : isKey key = true) {apiVersion kind : Option String}
    (hbreak : Breaks ((under key apiVersion kind).isSome = true) v) (members : List (String × Json)) :
    ∃ cause, takeFrom apiVersion kind ((key, v) :: members) = (.error cause, members) := by
  have hname : ∃ cause, nameOf (under key apiVersion kind) key v = .error cause := by
    cases hunder : under key apiVersion kind with
    | some name => exact ⟨_, rfl⟩
    | none =>
      rcases hbreak with hother | hsome
      · cases v with
        | string name => exact absurd rfl (hother name)
        | _ => exact ⟨_, rfl⟩
      · rw [hunder] at hsome
        cases hsome
  obtain ⟨cause, hcause⟩ := hname
  refine ⟨cause, ?_⟩
  rcases isKey_iff.mp hkey with rfl | rfl
  · change nameOf apiVersion "apiVersion" v = _ at hcause
    rw [takeFrom, if_pos rfl, hcause]
  · change nameOf kind "kind" v = _ at hcause
    rw [takeFrom, if_neg (by decide), if_pos rfl, hcause]

/-- Names that come before the first break are lost, with what breaks them off. -/
theorem takeFrom_broken (hkey : isKey key = true) (late : List (String × Json)) (early : List (String × String)) :
    ∀ {apiVersion kind : Option String},
      (∀ e ∈ early, isKey e.1 = true ∧ under e.1 apiVersion kind = none) → (early.map Prod.fst).Nodup →
      Breaks ((under key apiVersion kind).isSome = true ∨ key ∈ early.map Prod.fst) v →
      ∃ cause, takeFrom apiVersion kind (Held.texts early ++ (key, v) :: late) = (.error cause, late) := by
  induction early with
  | nil =>
    intro apiVersion kind _ _ hbreak
    exact takeFrom_break hkey (hbreak.imp_right fun h => h.resolve_right List.not_mem_nil) late
  | cons e early ih =>
    intro apiVersion kind hearly hnodup hbreak
    obtain ⟨⟨hename, hefirst⟩, hearly⟩ := List.forall_mem_cons.mp hearly
    obtain ⟨hnew, hnodup⟩ := List.nodup_cons.mp hnodup
    obtain ⟨apiVersion', kind', htake, hnamed, hothers⟩ :=
      takeFrom_name hename hefirst e.2 (Held.texts early ++ (key, v) :: late)
    rw [Held.texts, List.map_cons, List.cons_append]
    show ∃ cause, takeFrom apiVersion kind ((e.1, .string e.2) :: (Held.texts early ++ (key, v) :: late)) = _
    rw [htake]
    refine ih (fun d hd => ⟨(hearly d hd).1, ?_⟩) hnodup (hbreak.imp_right fun h => ?_)
    · have hne : d.1 ≠ e.1 := fun h => hnew (h ▸ List.mem_map_of_mem hd)
      rw [hothers d.1 (hearly d hd).1 hne]
      exact (hearly d hd).2
    · by_cases hsame : key = e.1
      · exact .inl (hsame ▸ hnamed)
      · rw [hothers key hkey hsame]
        exact h.imp_right fun hmem => (List.mem_cons.mp hmem).resolve_left hsame

theorem takeFrom_whole {names : TypeNames} {members : List (String × Json)}
    (h : members = names.members ∨ members = names.members.reverse) :
    takeFrom none none members = (.ok names, []) := by
  rcases h with rfl | rfl <;> rfl

/-- A name that stands alone is lost. -/
theorem takeFrom_alone {key : String} (hkey : isKey key = true) (name : String) :
    ∃ cause, takeFrom none none [(key, .string name)] = (.error cause, []) := by
  rcases isKey_iff.mp hkey with rfl | rfl <;> exact ⟨_, rfl⟩

theorem isKey_of_mem_header {m : String × Json} (h : m ∈ header members) : isKey m.1 = true :=
  (List.mem_filter.mp h).2

end TypeNames

/-! ## 3. Pods without a type -/

namespace AnyObject

open TypeNames

/-- The object without the members that state its type. -/
def untyped (self : AnyObject) : AnyObject := { self with members := beside self.members }

/-- An object is a pod if it is one without its type, and what is kept of that is right. Of several values under one
key the last counts. -/
theorem toPod_iff (self : AnyObject) (pod : Pod) : self.toPod = .ok pod ↔ self.untyped.toPod = .ok pod
    ∧ (∀ v, lookup (header self.members) "apiVersion" = some v → v = .string "v1")
    ∧ ∀ v, lookup (header self.members) "kind" = some v → v = .string "Pod" := by
  have hversion : (Pod.fields : List (Field Held Pod)).find? (·.key == "apiVersion")
      = some (.constant "apiVersion" "v1") :=
    rfl
  have hkind : (Pod.fields : List (Field Held Pod)).find? (·.key == "kind") = some (.constant "kind" "Pod") := rfl
  have hbeside : beside self.members = (self.members.filter (·.1 != "apiVersion")).filter (·.1 != "kind") := by
    rw [List.filter_filter]
    refine List.filter_congr fun m _ => ?_
    rw [isKey, Bool.not_or, Bool.and_comm]
    rfl
  have hne : "kind" ≠ "apiVersion" := by decide
  have hread : ∀ read, (Source.record "Pod" {} Pod.fields : Held Pod) (.object self.members) = .ok read ↔
      (Source.record "Pod" {} Pod.fields : Held Pod) (.object (beside self.members)) = .ok read
        ∧ (∀ v, lookup (header self.members) "apiVersion" = some v → v = .string "v1")
        ∧ ∀ v, lookup (header self.members) "kind" = some v → v = .string "Pod" := by
    intro read
    rw [Held.record_constant hversion, Held.record_constant hkind, lookup_filter, if_neg hne, ← hbeside,
      lookup_header (by decide), lookup_header (by decide), and_assoc]
    exact and_congr_right fun _ => and_comm
  rw [toPod_eq_ok, toPod_eq_ok]
  constructor
  · rintro ⟨read, h, hpod⟩
    obtain ⟨huntyped, hright⟩ := (hread read).mp h
    exact ⟨⟨read, huntyped, hpod⟩, hright⟩
  · rintro ⟨⟨read, huntyped, hpod⟩, hright⟩
    exact ⟨read, (hread read).mpr ⟨huntyped, hright⟩, hpod⟩

/-! ## 4. Objects as they are read -/

/-- What is kept of the members that state the type of an object. -/
theorem header_ofDraft (draft : Draft) : header (ofDraft draft).members
    = match takeFrom none none (header draft.before.reverse) with
      | (.ok names, left) => names.members ++ left
      | (.error _, left) => left := by
  obtain ⟨hnames, hheader, -⟩ := takeFrom_header draft.before.reverse none none
  unfold ofDraft
  generalize takeFrom none none draft.before.reverse = taken,
    takeFrom none none (header draft.before.reverse) = kept at hnames hheader
  obtain ⟨names, left⟩ := taken
  obtain ⟨names', left'⟩ := kept
  obtain rfl : names = names' := hnames
  obtain rfl : header left = left' := hheader
  cases names with
  | error cause => rfl
  | ok names => exact List.filter_append ..

theorem untyped_ofDraft (draft : Draft) :
    (ofDraft draft).untyped = { ofDraft draft with members := beside draft.before.reverse } := by
  obtain ⟨-, -, hbeside⟩ := takeFrom_header draft.before.reverse none none
  rw [← hbeside, untyped, ofDraft]
  obtain ⟨names, left⟩ := takeFrom none none draft.before.reverse
  cases names with
  | error cause => rfl
  | ok names => rfl

end AnyObject

/-! ## 5. Bodies -/

namespace Admission

open TypeNames

/-- The members of the object in a body beside its metadata, in the order of the text. -/
def objectMembers? (body : List UInt8) : Option (List (String × Json)) := do
  let site ← objectSite? body
  let (draft, _) ← (AnyObject.readDraft site.start).toOption
  some draft.before.reverse

variable {ε : Type} (driver : String) (classes : ClassSet) (lookup : ClaimLookup ε) {body : List UInt8}
variable {types : TypeNames} {request : AdmissionRequest AnyObject} {object : AnyObject}

/-- The members of the object are there, and they are those of its value if the text of it has one. -/
theorem exists_objectMembers (hparse : AdmissionReview.parse body = .ok ⟨types, some request⟩)
    (hobject : request.object = some object) : ∃ draft, objectMembers? body = some draft.before.reverse
      ∧ AnyObject.ofDraft draft = object
      ∧ ∀ all, object? body = some (.object all) → draft.before.reverse = all.filter (·.1 != "metadata") := by
  obtain ⟨site, hsite, rfl⟩ := exists_objectSite hparse hobject
  have hread : (AnyObject.ofDraft <$> AnyObject.readDraft) site.start = .ok (site.value, site.rest) :=
    (congrFun AnyObject.read_eq site.start).symm.trans site.reads
  obtain ⟨draft, hdraft, hvalue⟩ := map_eq_ok.mp hread
  refine ⟨draft, by simp [objectMembers?, hsite, hdraft, Except.toOption], hvalue, fun all hall => ?_⟩
  obtain ⟨f, hf⟩ : ∃ f, Means (Metadata.read AnyObject.outside) f := Faithful.means
  have hall := means_object? (AnyObject.readDraft_means hf) AnyObject.readDraft_closes hsite hall
    (by rw [AnyObject.readDraft_dropWhile]; exact hdraft)
  obtain ⟨hbefore, -⟩ := AnyObject.before_eq hall
  exact hbefore

/-- A request to create an object is answered if the object is a pod, and otherwise rejected for not being one. -/
theorem review_of_create (hparse : AdmissionReview.parse body = .ok ⟨types, some request⟩)
    (hcreate : request.operation = .create) (hobject : request.object = some object) :
    ((∃ answered, review driver classes lookup body = .ok answered) ↔ ∃ pod, object.toPod = .ok pod)
      ∧ ((¬ ∃ answered, review driver classes lookup body = .ok answered) ↔
        ∃ cause, review driver classes lookup body = .error (.notPod cause)) := by
  cases hpod : object.toPod with
  | ok pod =>
    have hanswered : review driver classes lookup body = .ok _ :=
      (review_of_podOf (podOf_eq_ok.mpr ⟨object, hparse, hcreate, hobject, hpod⟩)).trans (conclude_eq_ok ..)
    simp [hanswered]
  | error cause =>
    have hrejected : podOf body = .error (.notPod cause) := by
      simp only [podOf, hparse, hcreate, hobject, hpod, ne_eq, not_true_eq_false, if_false]
    simp [review_of_podOf_error hrejected]

/-- **The type of an object.** Take any body that is a review with a request to create an object. The members of the
object beside its metadata are those of its text, and those of them that state its type decide as follows. Where the
object is not answered for, it is rejected for being no pod.

* If no name is stated, or both are, each once and as a string, then an object that is answered for states `v1` and
  `Pod` or nothing.
* An object that states both names so is answered for exactly if they are these two and it is a pod without them.
* One that states no name, or a single one as a string, is answered for exactly if it is a pod without it, whatever
  the name is.
* After the first value that is no string, or that comes second under its key, only the names behind it are checked,
  and of those under one key the last. -/
theorem type_is_checked_if_whole {ε : Type} (driver : String) (classes : ClassSet) (lookup : ClaimLookup ε)
    (body : List UInt8) {types : TypeNames} {request : AdmissionRequest AnyObject} {object : AnyObject}
    (hparse : AdmissionReview.parse body = .ok ⟨types, some request⟩) (hcreate : request.operation = .create)
    (hobject : request.object = some object) :
    ∃ members, objectMembers? body = some members
      ∧ (∀ all, object? body = some (.object all) → members = all.filter (·.1 != "metadata"))
      ∧ let stated := header members
        let answered := ∃ answered, review driver classes lookup body = .ok answered
        let fits := ∃ pod, { object with members := beside members }.toPod = .ok pod
        (¬ answered ↔ ∃ cause, review driver classes lookup body = .error (.notPod cause))
        ∧ ((stated = [] ∨ ∃ names : TypeNames, stated = names.members ∨ stated = names.members.reverse) → answered →
          ∀ m ∈ stated, m = ("apiVersion", .string "v1") ∨ m = ("kind", .string "Pod"))
        ∧ (∀ names : TypeNames, stated = names.members ∨ stated = names.members.reverse →
          (answered ↔ fits ∧ names = ⟨"v1", "Pod"⟩))
        ∧ ((stated = [] ∨ ∃ key name, stated = [(key, .string name)]) → (answered ↔ fits))
        ∧ ∀ early key v late, stated = Held.texts early ++ (key, v) :: late → (early.map Prod.fst).Nodup →
          ((∀ name, v ≠ .string name) ∨ key ∈ early.map Prod.fst) →
            (answered ↔ fits ∧ (∀ v, Json.lookup late "apiVersion" = some v → v = .string "v1")
              ∧ ∀ v, Json.lookup late "kind" = some v → v = .string "Pod") := by
  obtain ⟨draft, hmembers, rfl, hall⟩ := exists_objectMembers hparse hobject
  refine ⟨draft.before.reverse, hmembers, hall, ?_⟩
  intro stated answered fits
  obtain ⟨hanswered, hrejected⟩ := review_of_create driver classes lookup hparse hcreate hobject
  -- What is answered for depends on what the attempt to take the names out has left of those that are stated.
  have hkept {kept : List (String × Json)} (h : header (AnyObject.ofDraft draft).members = kept) :
      answered ↔ fits ∧ (∀ v, Json.lookup kept "apiVersion" = some v → v = .string "v1")
        ∧ ∀ v, Json.lookup kept "kind" = some v → v = .string "Pod" := by
    subst h
    have hpod := (AnyObject.ofDraft draft).toPod_iff
    rw [AnyObject.untyped_ofDraft] at hpod
    exact hanswered.trans ((exists_congr hpod).trans exists_and_right)
  have hwhole (names : TypeNames) (h : stated = names.members ∨ stated = names.members.reverse) :
      answered ↔ fits ∧ names = ⟨"v1", "Pod"⟩ := by
    have hleft : header (AnyObject.ofDraft draft).members = names.members := by
      rw [AnyObject.header_ofDraft, takeFrom_whole h]
      exact List.append_nil _
    rw [hkept hleft]
    obtain ⟨apiVersion, kind⟩ := names
    simp [TypeNames.members, lookup_cons, lookup_nil]
  refine ⟨hrejected, ?_, hwhole, ?_, ?_⟩
  · rintro (hnone | ⟨names, hnames⟩) hanswered m hm
    · rw [hnone] at hm
      cases hm
    · obtain ⟨-, rfl⟩ := (hwhole names hnames).mp hanswered
      rcases hnames with hnames | hnames <;> rw [hnames] at hm <;> simpa [TypeNames.members, or_comm] using hm
  · intro hstated
    have hleft : header (AnyObject.ofDraft draft).members = [] := by
      rw [AnyObject.header_ofDraft]
      rcases hstated with hstated | ⟨key, name, hstated⟩
      · rw [show header draft.before.reverse = _ from hstated]
        rfl
      · have hkey := isKey_of_mem_header (hstated ▸ List.mem_singleton_self (key, Json.string name))
        obtain ⟨cause, hcause⟩ := takeFrom_alone hkey name
        rw [show header draft.before.reverse = _ from hstated, hcause]
    rw [hkept hleft]
    simp [lookup_nil]
  · intro early key v late hstated hnodup hbreak
    have hkeys : ∀ m ∈ Held.texts early ++ (key, v) :: late, isKey m.1 = true :=
      fun m hm => isKey_of_mem_header (hstated ▸ hm)
    have hkey : isKey key = true := hkeys (key, v) (List.mem_append_right _ List.mem_cons_self)
    have hearly : ∀ e ∈ early, isKey e.1 = true ∧ under e.1 none none = none := by
      intro e he
      refine ⟨hkeys (e.1, .string e.2) (List.mem_append_left _ (List.mem_map_of_mem he)), ?_⟩
      exact ite_self none
    obtain ⟨cause, hcause⟩ := takeFrom_broken hkey late early hearly hnodup (hbreak.imp_right Or.inr)
    have hleft : header (AnyObject.ofDraft draft).members = late := by
      rw [AnyObject.header_ofDraft, show header draft.before.reverse = _ from hstated, hcause]
    exact hkept hleft

/-- A request to create an object with the given members. -/
def creationOf (members : List (String × Json)) : List UInt8 :=
  (withObject selecting (Utf8.encode (Json.print (.object members)))).getD []

/-- A service, with both names of its type. -/
def wholeService : List UInt8 := creationOf [("kind", .string "Service"), ("apiVersion", .string "v1")]

/-- A service that does not tell its version. -/
def loneService : List UInt8 := creationOf [("kind", .string "Service")]

theorem ofJson_eq_string {v : Json} {text : String} : Found.ofJson v = .string text ↔ v = .string text := by
  cases v <;> simp [Found.ofJson]

/-- What states its whole type is rejected if it is no pod. -/
theorem whole_service_is_no_pod :
    (∃ types request object, AdmissionReview.parse wholeService = .ok ⟨types, some request⟩
      ∧ request.operation = .create ∧ request.object = some object)
    ∧ ∃ cause, review "gcs.csi.ofek.dev" {} noClaims wholeService = .error (.notPod cause) := by
  have hparse : ∃ types request object, AdmissionReview.parse wholeService = .ok ⟨types, some request⟩
      ∧ request.operation = .create ∧ request.object = some object := by
    have hchecks : (AdmissionReview.parse wholeService).toOption.any (fun review =>
        review.request.any fun request => request.operation = .create && request.object.isSome) = true := by
      decide +kernel
    cases hparse : AdmissionReview.parse wholeService with
    | error fault =>
      rw [hparse] at hchecks
      cases hchecks
    | ok review =>
      rw [hparse] at hchecks
      obtain ⟨types, request⟩ := review
      obtain ⟨request, rfl, hchecks⟩ := (Option.any_eq_true _ request).mp hchecks
      obtain ⟨hcreate, hsome⟩ := Bool.and_eq_true_iff.mp hchecks
      obtain ⟨object, hobject⟩ := Option.isSome_iff_exists.mp hsome
      exact ⟨types, request, object, rfl, of_decide_eq_true hcreate, hobject⟩
  refine ⟨hparse, ?_⟩
  obtain ⟨types, request, object, hparse, hcreate, hobject⟩ := hparse
  obtain ⟨members, hmembers, -, hrejected, -, hwhole, -, -⟩ :=
    type_is_checked_if_whole "gcs.csi.ofek.dev" {} noClaims wholeService hparse hcreate hobject
  have hheader : (objectMembers? wholeService).map (fun members =>
      (header members).map fun m => (m.1, Found.ofJson m.2))
        = some [("kind", .string "Service"), ("apiVersion", .string "v1")] := by
    decide +kernel
  have hstated : header members = [("kind", .string "Service"), ("apiVersion", .string "v1")] := by
    rw [hmembers, Option.map_some, Option.some.injEq] at hheader
    obtain ⟨first, rest, hmembers', hkind, hrest⟩ := List.map_eq_cons_iff.mp hheader
    obtain ⟨second, nothing, rfl, hversion, hnothing⟩ := List.map_eq_cons_iff.mp hrest
    obtain rfl := List.map_eq_nil_iff.mp hnothing
    rw [Prod.mk.injEq, ofJson_eq_string] at hkind hversion
    have hfirst : first = ("kind", .string "Service") := Prod.ext hkind.1 hkind.2
    have hsecond : second = ("apiVersion", .string "v1") := Prod.ext hversion.1 hversion.2
    rw [hmembers', hfirst, hsecond]
  refine hrejected.mp fun hanswered => ?_
  obtain ⟨-, hnames⟩ := (hwhole ⟨"v1", "Service"⟩ (.inr hstated)).mp hanswered
  exact absurd hnames (by decide)

/-- Without the name of its version, the same service is answered for. -/
theorem lone_service_is_answered : (∃ answered, review "gcs.csi.ofek.dev" {} noClaims loneService = .ok answered)
    ∧ ∃ object, object? loneService = some object ∧ object.member? "kind" = some (.string "Service")
      ∧ object.member? "apiVersion" = none := by
  have hreview : (review "gcs.csi.ofek.dev" {} noClaims loneService).toOption.isSome = true := by
    decide +kernel
  have hobject : (object? loneService).any (fun object => (object.member? "apiVersion").isNone
      && (object.member? "kind").map Found.ofJson = some (.string "Service")) = true := by
    decide +kernel
  refine ⟨?_, ?_⟩
  · cases h : review "gcs.csi.ofek.dev" {} noClaims loneService with
    | error rejection =>
      rw [h] at hreview
      cases hreview
    | ok answered => exact ⟨answered, rfl⟩
  · obtain ⟨object, hobject, hstated⟩ := (Option.any_eq_true _ _).mp hobject
    obtain ⟨hversion, hkind⟩ := Bool.and_eq_true_iff.mp hstated
    obtain ⟨v, hv, hservice⟩ := Option.map_eq_some_iff.mp (of_decide_eq_true hkind)
    rw [ofJson_eq_string.mp hservice] at hv
    exact ⟨object, hobject, hv, Option.isNone_iff_eq_none.mp hversion⟩

end Admission

end ReadyPin

import Mathlib.Data.List.TakeWhile
import ReadyPin.Proofs.Admission.ObjectText
import ReadyPin.Proofs.Admission.PinnedObject
import ReadyPin.Proofs.Json.PrintedText

/-!
# Objects under review as values

The object under review is read from its text, not from a value. If the text can be kept as a value too, then
`AnyObject.ofJson` tells from the value what is read (`AnyObject.read_means`). A changed member of the value is then a
changed member of the object (`AnyObject.ofJson_put`), which carries a patch over from the one to the other
(`AnyObject.ofJson_pinned`).
-/

namespace ReadyPin

open Reader Json Readiness

/-! ## 1. Depth -/

namespace Json

theorem depthOfMembers_le_iff {members : List (String × Json)} {n : Nat} :
    depthOfMembers members ≤ n ↔ ∀ m ∈ members, m.2.depth ≤ n := by
  induction members with
  | nil => simp [depthOfMembers]
  | cons m members ih =>
    rw [depthOfMembers, Nat.max_le, ih]
    simp

theorem mem_of_lookup {members : List (String × Json)} {key : String} {v : Json} (h : lookup members key = some v) :
    (key, v) ∈ members := by
  obtain ⟨l₁, l₂, hmembers, -⟩ := List.lookup_eq_some_iff.mp h
  rw [← List.mem_reverse, hmembers]
  exact List.mem_append_right _ List.mem_cons_self

/-- A member makes an object deeper only if it is too deep itself. -/
theorem depth_put_le {members : List (String × Json)} {key : String} {v : Json} {n : Nat}
    (h : (Json.object members).depth ≤ n + 1) (hv : v.depth ≤ n) : (Json.object (put members key v)).depth ≤ n + 1 := by
  rw [depth, Nat.add_le_add_iff_right, depthOfMembers_le_iff] at h ⊢
  intro m hm
  rcases List.mem_append.mp hm with hm | hm
  · exact h m (List.mem_of_mem_filter hm)
  · rw [List.mem_singleton.mp hm]
    exact hv

/-- One more label does not make a spec deeper. -/
theorem depth_pinned_le {spec selector : List (String × Json)}
    (h : lookup spec "nodeSelector" = some (.object selector)) {n : Nat} (hn : (Json.object spec).depth ≤ n)
    (label : String) :
    (Json.object (put spec "nodeSelector" (.object (put selector label (.string readyValue))))).depth ≤ n := by
  have hspec : depthOfMembers spec + 1 ≤ n := hn
  have hselector := depthOfMembers_le_iff.mp (Nat.le_refl (depthOfMembers spec)) _ (mem_of_lookup h)
  have hinner : depthOfMembers selector + 1 ≤ depthOfMembers spec := hselector
  obtain ⟨k, rfl⟩ : ∃ k, n = k + 2 := ⟨n - 2, by omega⟩
  refine depth_put_le hn (depth_put_le ?_ (Nat.zero_le k))
  rw [depth]
  omega

end Json

/-! ## 2. Type names -/

namespace TypeNames

variable {key : String}

/-- Other members are left alone when the type names are taken out. -/
theorem takeFrom_put (hv : key ≠ "apiVersion") (hk : key ≠ "kind") (value : Json) (members : List (String × Json)) :
    ∀ apiVersion kind, takeFrom apiVersion kind (put members key value)
      = ((takeFrom apiVersion kind members).1, put (takeFrom apiVersion kind members).2 key value) := by
  induction members with
  | nil =>
    intro apiVersion kind
    cases apiVersion <;> cases kind <;> simp [put, takeFrom, hv, hk]
  | cons m members ih =>
    intro apiVersion kind
    obtain ⟨k, v⟩ := m
    by_cases hkey : k = key
    · subst hkey
      have hput : ∀ ms, put ((k, v) :: ms) k value = put ms k value := by
        intro ms
        simp [put]
      rw [hput, ih]
      simp [takeFrom, hv, hk, hput]
    · have hput : ∀ ms, put ((k, v) :: ms) key value = (k, v) :: put ms key value := by
        intro ms
        simp [put, hkey]
      rw [hput, takeFrom, takeFrom]
      split
      · cases nameOf apiVersion k v with
        | ok name => exact ih _ _
        | error cause => rfl
      split
      · cases nameOf kind k v with
        | ok name => exact ih _ _
        | error cause => rfl
      · rw [ih]
        simp only [hput]

theorem lookup_takeFrom (hv : key ≠ "apiVersion") (hk : key ≠ "kind") (members : List (String × Json)) :
    ∀ apiVersion kind, lookup (takeFrom apiVersion kind members).2 key = lookup members key := by
  induction members with
  | nil =>
    intro apiVersion kind
    cases apiVersion <;> cases kind <;> rfl
  | cons m members ih =>
    intro apiVersion kind
    obtain ⟨k, v⟩ := m
    have hother : k = "apiVersion" ∨ k = "kind" → lookup ((k, v) :: members) key = lookup members key := by
      intro hname
      have hne : key ≠ k := by
        rintro rfl
        exact hname.elim hv hk
      rw [lookup_cons, if_neg hne, Option.or_none]
    rw [takeFrom]
    split
    · rename_i hname
      rw [hother (.inl hname)]
      cases nameOf apiVersion k v with
      | ok name => exact ih _ _
      | error cause => rfl
    split
    · rename_i hname
      rw [hother (.inr hname)]
      cases nameOf kind k v with
      | ok name => exact ih _ _
      | error cause => rfl
    · rw [lookup_cons, ih, lookup_cons]

theorem lookup_members (self : TypeNames) (hv : key ≠ "apiVersion") (hk : key ≠ "kind") :
    lookup self.members key = none := by
  simp [members, lookup_cons, lookup_nil, hv, hk]

theorem put_members_append (self : TypeNames) (hv : key ≠ "apiVersion") (hk : key ≠ "kind")
    (left : List (String × Json)) (value : Json) :
    put (self.members ++ left) key value = self.members ++ put left key value := by
  simp [put, members, hv.symm, hk.symm]

end TypeNames

/-! ## 3. The value of an object -/

namespace AnyObject

/-- What a member does, by its value. -/
def memberOf (f : Json → Option Metadata) (draft : Draft) (key : String) (v : Json) : Option Draft :=
  if key = "metadata" then
    if draft.metadata.isSome then none
    else (f v).map fun metadata => { draft with metadata := some metadata }
  else (within memberDepth v).map fun v => { draft with before := (key, v) :: draft.before }

/-- The object that is read from the text of a value; `f` is for its metadata. -/
def ofJson (f : Json → Option Metadata) : Json → Option AnyObject
  | .object members => (members.foldlM (fun draft m => memberOf f draft m.1 m.2) {}).map ofDraft
  | _ => none

instance : Faithful Metadata.ownerReference := by
  unfold Metadata.ownerReference
  infer_instance

instance (outside : Nat) : Faithful (Metadata.managerEntry outside) := by
  unfold Metadata.managerEntry
  infer_instance

instance (outside : Nat) : Faithful (Metadata.read outside) := by
  unfold Metadata.read
  infer_instance

variable {f : Json → Option Metadata}

theorem member_means (h : Means (Metadata.read AnyObject.outside) f) : StepMeans member (memberOf f) := by
  intro draft key depth s v t w hcolon hv after u
  by_cases hkey : key = "metadata"
  · have hmetadata := h.map fun metadata => ({ draft with metadata := some metadata } : Draft)
    have hstep := StepMeans.afterColon (fun _ _ => hmetadata) draft key depth s v t w hcolon hv after u
    simp only [member, memberOf, if_pos hkey]
    by_cases hsome : draft.metadata.isSome = true
    · rw [if_pos hsome, if_pos hsome]
      simp [mismatched]
    · rw [if_neg hsome, if_neg hsome]
      exact hstep
  · simp only [member, memberOf, if_neg hkey]
    exact keptMember_put_iff (fun before => { draft with before }) hcolon hv after u

/-- What is read of an object before the type names are taken out of its members. -/
def readDraft : Reader Draft := do
  match ← Reader.kind with
  | .object => Reader.members {} member
  | k => Reader.unexpected k "struct DynamicObject"

theorem read_eq : read = ofDraft <$> readDraft := by
  refine same_bind_eq kind fun k => ?_
  cases k
  case object => rfl
  all_goals exact unexpected_map _ _ _

/-- What is read before that from the text of a value. -/
def draftOf (f : Json → Option Metadata) : Json → Option Draft
  | .object members => members.foldlM (fun draft m => memberOf f draft m.1 m.2) {}
  | _ => none

theorem readDraft_means (h : Means (Metadata.read AnyObject.outside) f) : Means readDraft (draftOf f) := by
  refine .ofKind fun depth s v t hv a u => ?_
  cases v with
  | bool b => cases b <;> exact unexpected_iff rfl
  | object members =>
    obtain ⟨d, rfl, hmembers⟩ := hv
    exact members_means (member_means h) {} hmembers a u
  | _ => exact unexpected_iff rfl

/-- The object is read from its text as from its value. -/
theorem read_means (h : Means (Metadata.read AnyObject.outside) f) : Means read (ofJson f) := by
  have hvalue : ofJson f = fun v => (draftOf f v).map ofDraft := by
    funext v
    cases v <;> rfl
  rw [read_eq, map_eq_pure_bind, hvalue]
  exact (readDraft_means h).map ofDraft

/-- Its text ends with its brace. -/
theorem readDraft_closes : Closes readDraft := by
  refine .after fun k => ?_
  cases k
  case object => exact members_closes {} member
  all_goals exact .never fun _ _ => unexpected_ne_ok

theorem read_closes : Closes read := by
  rw [read_eq]
  exact readDraft_closes.map ofDraft

/-! ## 4. A changed member -/

/-- What has been read of an object, without a member. -/
def Draft.without (self : Draft) (key : String) : Draft := { self with before := self.before.filter (·.1 != key) }

theorem memberOf_eq_some {draft after : Draft} {key : String} {v : Json} (hkey : key ≠ "metadata") :
    memberOf f draft key v = some after ↔
      v.depth ≤ memberDepth ∧ after = { draft with before := (key, v) :: draft.before } := by
  rw [memberOf, if_neg hkey, within]
  split
  · rename_i hdepth
    rw [Option.map_some, Option.some.injEq]
    exact ⟨fun h => ⟨hdepth, h.symm⟩, fun h => h.2.symm⟩
  · rename_i hdepth
    constructor
    · intro h
      cases h
    · intro h
      obtain ⟨h, -⟩ := h
      exact absurd h hdepth

/-- A member beside the metadata has no influence on what is read of the others. -/
theorem foldlM_without {key : String} (hkey : key ≠ "metadata") {members : List (String × Json)} {draft last : Draft}
    (h : members.foldlM (fun draft m => memberOf f draft m.1 m.2) draft = some last) :
    (members.filter (·.1 != key)).foldlM (fun draft m => memberOf f draft m.1 m.2) (draft.without key)
      = some (last.without key) := by
  induction members generalizing draft with
  | nil =>
    cases h
    rfl
  | cons m members ih =>
    obtain ⟨k, v⟩ := m
    rw [List.foldlM_cons] at h
    obtain ⟨next, hnext, hlast⟩ := Option.bind_eq_some_iff.mp h
    have hrest := ih hlast
    by_cases hk : k = key
    · subst hk
      obtain ⟨-, rfl⟩ := (memberOf_eq_some hkey).mp hnext
      simpa [Draft.without] using hrest
    · have hstep : memberOf f (draft.without key) k v = some (next.without key) := by
        by_cases hmetadata : k = "metadata"
        · subst hmetadata
          simp only [memberOf, if_pos] at hnext ⊢
          show (if draft.metadata.isSome then none else _) = _
          split at hnext
          · cases hnext
          · rename_i hsome
            obtain ⟨metadata, hread, rfl⟩ := Option.map_eq_some_iff.mp hnext
            rw [if_neg hsome, hread]
            rfl
        · obtain ⟨hdepth, rfl⟩ := (memberOf_eq_some hmetadata).mp hnext
          refine (memberOf_eq_some hmetadata).mpr ⟨hdepth, ?_⟩
          simp [Draft.without, hk]
      rw [List.filter_cons_of_pos (by simp [hk]), List.foldlM_cons, hstep]
      exact hrest

/-- All members beside the metadata are kept as they are, and none is too deep. -/
theorem before_eq {members : List (String × Json)} {draft last : Draft}
    (h : members.foldlM (fun draft m => memberOf f draft m.1 m.2) draft = some last) :
    last.before.reverse = draft.before.reverse ++ members.filter (·.1 != "metadata")
      ∧ ∀ m ∈ members, m.1 ≠ "metadata" → m.2.depth ≤ memberDepth := by
  induction members generalizing draft with
  | nil =>
    cases h
    exact ⟨by simp, nofun⟩
  | cons m members ih =>
    obtain ⟨k, v⟩ := m
    rw [List.foldlM_cons] at h
    obtain ⟨next, hnext, hlast⟩ := Option.bind_eq_some_iff.mp h
    obtain ⟨hbefore, hdepth⟩ := ih hlast
    by_cases hk : k = "metadata"
    · subst hk
      simp only [memberOf, if_pos] at hnext
      split at hnext
      · cases hnext
      · obtain ⟨metadata, -, rfl⟩ := Option.map_eq_some_iff.mp hnext
        refine ⟨by simpa using hbefore, fun m hm hne => ?_⟩
        rcases List.mem_cons.mp hm with rfl | hm
        · exact absurd rfl hne
        · exact hdepth m hm hne
    · obtain ⟨hv, rfl⟩ := (memberOf_eq_some hk).mp hnext
      refine ⟨by simpa [hk] using hbefore, fun m hm hne => ?_⟩
      rcases List.mem_cons.mp hm with rfl | hm
      · exact hv
      · exact hdepth m hm hne

theorem ofDraft_put {key : String} (hv : key ≠ "apiVersion") (hk : key ≠ "kind") (draft : Draft) (value : Json) :
    ofDraft { draft with before := (put draft.before.reverse key value).reverse }
      = { ofDraft draft with members := put (ofDraft draft).members key value } := by
  simp only [ofDraft, List.reverse_reverse, TypeNames.takeFrom_put hv hk]
  cases (TypeNames.takeFrom none none draft.before.reverse).1 with
  | error cause => rfl
  | ok names => simp only [TypeNames.put_members_append names hv hk]

theorem lookup_ofDraft {key : String} (hv : key ≠ "apiVersion") (hk : key ≠ "kind") (draft : Draft) :
    lookup (ofDraft draft).members key = lookup draft.before.reverse key := by
  simp only [ofDraft]
  rw [← TypeNames.lookup_takeFrom hv hk draft.before.reverse none none]
  cases (TypeNames.takeFrom none none draft.before.reverse).1 with
  | error cause => rfl
  | ok names => rw [lookup_append, names.lookup_members hv hk, Option.or_none]

/-- Keys whose values are kept: those of the metadata and of the type names have a meaning of their own. -/
structure Keeps (key : String) : Prop where
  metadata : key ≠ "metadata"
  apiVersion : key ≠ "apiVersion"
  kind : key ≠ "kind"

theorem keeps_spec : Keeps "spec" := ⟨by decide, by decide, by decide⟩

variable {key : String} {members : List (String × Json)} {self : AnyObject}

theorem lookup_ofJson (hkey : Keeps key) (h : ofJson f (.object members) = some self) :
    lookup self.members key = lookup members key := by
  obtain ⟨draft, hdraft, rfl⟩ := Option.map_eq_some_iff.mp h
  obtain ⟨hbefore, -⟩ := before_eq hdraft
  rw [List.reverse_nil, List.nil_append] at hbefore
  rw [lookup_ofDraft hkey.apiVersion hkey.kind, hbefore, lookup_filter, if_neg hkey.metadata]

theorem depth_le_of_ofJson (hkey : Keeps key) (h : ofJson f (.object members) = some self) {v : Json}
    (hv : lookup members key = some v) : v.depth ≤ memberDepth := by
  obtain ⟨draft, hdraft, rfl⟩ := Option.map_eq_some_iff.mp h
  exact (before_eq hdraft).2 _ (mem_of_lookup hv) hkey.metadata

/-- With another value under a key, the object that is read has that in its place. -/
theorem ofJson_put (hkey : Keeps key) (h : ofJson f (.object members) = some self) {v : Json}
    (hv : v.depth ≤ memberDepth) :
    ofJson f (.object (put members key v)) = some { self with members := put self.members key v } := by
  obtain ⟨draft, hdraft, rfl⟩ := Option.map_eq_some_iff.mp h
  have hlast : (put members key v).foldlM (fun draft m => memberOf f draft m.1 m.2) {}
      = some { draft with before := (put draft.before.reverse key v).reverse } := by
    rw [put, List.foldlM_append]
    refine Option.bind_eq_some_iff.mpr ⟨draft.without key, foldlM_without hkey.metadata hdraft, ?_⟩
    rw [List.foldlM_cons]
    refine Option.bind_eq_some_iff.mpr ⟨_, (memberOf_eq_some hkey.metadata).mpr ⟨hv, rfl⟩, ?_⟩
    simp [Draft.without, put, List.filter_reverse]
  rw [ofJson, hlast, Option.map_some, ofDraft_put hkey.apiVersion hkey.kind]

/-- The object of a patched value is the patched object. -/
theorem ofJson_pinned {spec selector : List (String × Json)} (h : ofJson f (.object members) = some self)
    (hspec : lookup members "spec" = some (.object spec))
    (hselector : lookup spec "nodeSelector" = some (.object selector)) (label : String) :
    ofJson f (.object (pinned label members spec selector))
      = some { self with members := pinned label self.members spec selector } :=
  ofJson_put keeps_spec h (depth_pinned_le hselector (depth_le_of_ofJson keeps_spec h hspec) label)

end AnyObject

/-! ## 5. Bodies -/

/-- A text from brace to brace that writes an object. -/
structure Json.Spells (text : List UInt8) (object : Json) : Prop where
  parses : Json.parse text = .ok object
  opens : text.head? = some 0x7B
  closes : text.getLast? = some 0x7D

theorem finish_eq_ok {s t : List UInt8} : finish s = .ok ((), t) ↔ s.dropWhile isBlank = [] ∧ t = [] := by
  unfold finish
  rw [next_bind_eq_ok]
  cases s.dropWhile isBlank with
  | nil =>
    constructor
    · intro h
      exact ⟨rfl, (pure_eq_ok.mp h).2.symm⟩
    · intro h
      obtain ⟨-, rfl⟩ := h
      rfl
  | cons b u => simp [malformed]

theorem parse_eq_ok {text : List UInt8} {v : Json} :
    Json.parse text = .ok v ↔ ∃ t, kept maxDepth text = .ok (v, t) ∧ t.dropWhile isBlank = [] := by
  rw [Json.parse, all_eq_ok]
  constructor
  · intro h
    obtain ⟨t, h⟩ := h
    obtain ⟨a, u, ha, h⟩ := bind_eq_ok.mp h
    obtain ⟨_, w, hfinish, h⟩ := bind_eq_ok.mp h
    obtain ⟨rfl, rfl⟩ := pure_eq_ok.mp h
    exact ⟨u, ha, (finish_eq_ok.mp hfinish).1⟩
  · intro h
    obtain ⟨u, hu, hblank⟩ := h
    exact ⟨[], bind_eq_ok.mpr ⟨v, u, hu, bind_eq_ok.mpr ⟨(), [], finish_eq_ok.mpr ⟨hblank, rfl⟩, rfl⟩⟩⟩

/-- Such a text is that of the value to its last byte. -/
theorem Json.Spells.kept_eq {text : List UInt8} {v : Json} (h : Spells text v) :
    kept maxDepth text = .ok (v, []) := by
  obtain ⟨t, ht, hblank⟩ := parse_eq_ok.mp h.parses
  obtain ⟨p, rfl, -⟩ := Local.replays (r := kept maxDepth) text v t ht
  rcases List.eq_nil_or_concat t with rfl | ⟨t, b, rfl⟩
  · exact ht
  · have hb : isBlank b = true := List.dropWhile_eq_nil_iff.mp hblank b (by simp)
    have hlast := h.closes
    rw [List.concat_eq_append, ← List.append_assoc, List.getLast?_concat] at hlast
    rw [Option.some.inj hlast] at hb
    cases hb

theorem Json.spells_print {members : List (String × Json)} (hfree : (Json.object members).numberFree = true)
    (hdepth : (Json.object members).depth ≤ maxDepth) :
    Spells (Utf8.encode (Json.object members).print) (.object members) := by
  obtain ⟨cs, hcs⟩ := print_object members
  have hbytes : Utf8.encode (Json.object members).print = 0x7B :: (Utf8.encode cs ++ [0x7D]) := by
    rw [hcs, encode_cons_of rfl, Utf8.encode_append, encode_cons_of rfl, Utf8.encode_nil]
    rfl
  exact ⟨Json.parse_print hfree hdepth, by rw [hbytes, List.head?_cons],
    by rw [hbytes, ← List.cons_append, List.getLast?_concat]⟩

namespace AnyObject

variable {f : Json → Option Metadata}

theorem read_dropWhile (s : List UInt8) : read (s.dropWhile isBlank) = read s := by
  simp only [read, bind, StateT.bind, kind_dropWhile]

theorem readDraft_dropWhile (s : List UInt8) : readDraft (s.dropWhile isBlank) = readDraft s := by
  simp only [readDraft, bind, StateT.bind, kind_dropWhile]

/-- An object begins with a brace. -/
theorem head?_of_read {s t : List UInt8} {self : AnyObject} (h : read s = .ok (self, t)) :
    (s.dropWhile isBlank).head? = some 0x7B := by
  obtain ⟨k, u, hk, h⟩ := bind_eq_ok.mp h
  obtain ⟨b, w, hb, hkind, rfl⟩ := kind_eq_ok.mp hk
  rw [hb]
  cases k
  case object => rw [Kind.ofByte_object hkind, List.head?_cons]
  all_goals exact absurd h unexpected_ne_ok

end AnyObject

namespace Admission

variable {f : Json → Option Metadata}

/-- What is read where the object of a body stands is read from the value of its text. -/
theorem means_object? {α : Type} {r : Reader α} {g : Json → Option α} (hmeans : Means r g) (hcloses : Closes r)
    {body : List UInt8} {site : Site AnyObject.read} {object : Json} {a : α}
    (hsite : objectSite? body = some site) (hobject : object? body = some object)
    (hread : r (site.start.dropWhile isBlank) = .ok (a, site.rest)) : g object = some a := by
  obtain ⟨p, -, hp, hclosed⟩ := hcloses _ _ _ hread
  have htext : objectText? body = some p := by
    simp only [objectText?, hsite, hp, List.length_append, Option.bind_eq_bind, Option.bind_some]
    rw [Nat.add_sub_cancel, List.take_left']
    rfl
  have hparse : Json.parse p = .ok object := by
    simp only [object?, htext, Option.bind_eq_bind, Option.bind_some] at hobject
    cases hjson : Json.parse p with
    | error fault =>
      rw [hjson] at hobject
      cases hobject
    | ok v =>
      rw [hjson] at hobject
      exact congrArg Except.ok (Option.some.inj hobject)
  obtain ⟨t, ht, -⟩ := parse_eq_ok.mp hparse
  have hwhole := hclosed []
  rw [List.append_nil] at hwhole
  exact (hmeans.eq ht hwhole).1

/-- The object that is read from a body is that of the value of its text. -/
theorem ofJson_object? (h : Means (Metadata.read AnyObject.outside) f) {body : List UInt8}
    {site : Site AnyObject.read} {object : Json} (hsite : objectSite? body = some site)
    (hobject : object? body = some object) : AnyObject.ofJson f object = some site.value := by
  refine means_object? (AnyObject.read_means h) AnyObject.read_closes hsite hobject ?_
  rw [AnyObject.read_dropWhile]
  exact site.reads

/-- What a body is read as, and what it is read as with something else in the place of its object. -/
theorem exists_review_of_site {body : List UInt8} {site : Site AnyObject.read} (hsite : objectSite? body = some site) :
    ∃ review p, AdmissionReview.parse body = .ok review ∧ body = p ++ site.start
      ∧ ∀ v new, site.Fits AnyObject.read new v → AdmissionReview.parse (p ++ new) = .ok (review.replaceObject v) := by
  have hlocated : ∃ review, Reader.all (AdmissionReview.read (located AnyObject.read)) body = .ok review
      ∧ review.object? = some site := by
    simp only [objectSite?] at hsite
    split at hsite
    · exact ⟨_, ‹_›, hsite⟩
    · cases hsite
  obtain ⟨review, hreview, hobject⟩ := hlocated
  obtain ⟨p, rfl, hp⟩ := all_replaceObject AnyObject.read hreview hobject
  refine ⟨review.replaceObject site.value, p, hp _ _ ⟨rfl, site.reads⟩, rfl, fun v new hnew => ?_⟩
  exact (hp v new hnew).trans (congrArg Except.ok (AdmissionReview.replaceObject_mapObject v _ review).symm)

/-- A body with another object is the same review of that object. -/
theorem parse_withObject (h : Means (Metadata.read AnyObject.outside) f) {body body' text : List UInt8}
    {site : Site AnyObject.read} {object : Json} {self : AnyObject} (hsite : objectSite? body = some site)
    (hbody : withObject body text = some body') (htext : Json.Spells text object)
    (hself : AnyObject.ofJson f object = some self) {review : AdmissionReview AnyObject}
    (hreview : AdmissionReview.parse body = .ok review) :
    AdmissionReview.parse body' = .ok (review.replaceObject self) := by
  obtain ⟨review', p, hreview', rfl, hp⟩ := exists_review_of_site hsite
  obtain rfl : review = review' := Except.ok.inj (hreview.symm.trans hreview')
  have hstart := List.takeWhile_append_dropWhile (p := isBlank) (l := site.start)
  -- The new text begins with the same brace, so that what is in front of the object reads on to it.
  have hhead : (text ++ site.rest).head? = (site.start.dropWhile isBlank).head? := by
    rw [AnyObject.head?_of_read site.reads, List.head?_append, htext.opens, Option.some_or]
  have hnew : AnyObject.read (site.start.takeWhile isBlank ++ (text ++ site.rest)) = .ok (self, site.rest) := by
    obtain ⟨q, -, hq, hclosed⟩ := AnyObject.read_closes _ _ _ ((AnyObject.read_means h).read_eq htext.kept_eq hself)
    rw [List.append_nil] at hq
    rw [← AnyObject.read_dropWhile, (takeWhile_append_eq hhead).2, hq]
    exact hclosed site.rest
  have hfits : site.Fits AnyObject.read (site.start.takeWhile isBlank ++ (text ++ site.rest)) self := by
    refine ⟨?_, hnew⟩
    rw [head?_append_congr hhead, hstart]
  have hbody' : body' = p ++ (site.start.takeWhile isBlank ++ (text ++ site.rest)) := by
    simp only [withObject, hsite, Option.bind_eq_bind, Option.bind_some, Option.some.injEq] at hbody
    have hsplit : p ++ site.start = (p ++ site.start.takeWhile isBlank) ++ site.start.dropWhile isBlank := by
      rw [List.append_assoc, hstart]
    rw [← hbody, hsplit, List.length_append, Nat.add_sub_cancel, List.take_left]
    simp only [List.append_assoc]
  rw [hbody']
  exact hp _ _ hfits

end Admission

end ReadyPin

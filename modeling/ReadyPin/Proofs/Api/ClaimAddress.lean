import Mathlib.Data.List.TakeWhile
import ReadyPin.Api.ClaimLookup
import ReadyPin.Proofs.Readiness.EncodingRoundTrips

/-!
# Which claim is asked for

The names of a namespace and of a claim are put into the path of a request as they are, and the path is made a target.
That drops what comes after a number sign and refuses bytes that cannot stand where they are (`Uri.target_eq_ok`), but
a slash or a question mark in a name may stand there: it is sent, and read as the end of a piece, or of the path.

So a request addresses the claim it was made for exactly if none of the three characters is in the names
(`Addresses` and `IsSegment`, in `addresses_iff_isSegment`). Names as the API has them have none
(`addresses_of_inName`), but the claims of a pod are looked up before the API has seen their names.
-/

namespace ReadyPin

/-! ## 1. Targets -/

namespace Uri

theorem of_map_eq_ok {α β : Type} {x : Except Fault α} {f : α → β} {b : β} (h : x.map f = .ok b) :
    ∃ a, x = .ok a ∧ f a = b := by
  cases x with
  | ok a => exact ⟨a, rfl, Except.ok.inj h⟩
  | error fault => cases h

theorem toNat_lt_of_inQuery {b : UInt8} (h : inQuery b = true) : b.toNat < 0x80 := by
  simp only [inQuery, Bool.or_eq_true, Bool.and_eq_true, beq_iff_eq, decide_eq_true_eq, UInt8.le_iff_toNat_le,
    ← UInt8.toNat_inj, UInt8.reduceToNat] at h
  omega

theorem toNat_lt_of_inPath {b : UInt8} (h : inPath b = true) : b.toNat < 0x80 := by
  simp only [inPath, Bool.or_eq_true, Bool.and_eq_true, beq_iff_eq, decide_eq_true_eq, UInt8.le_iff_toNat_le,
    ← UInt8.toNat_inj, UInt8.reduceToNat] at h
  omega

/-- A query is its bytes up to the first number sign. -/
theorem query_eq_ok {bs sent : List UInt8} (h : query bs = .ok sent) :
    sent = bs.takeWhile (· ≠ 0x23) ∧ ∀ b ∈ sent, b.toNat < 0x80 := by
  induction bs generalizing sent with
  | nil =>
    cases h
    exact ⟨rfl, nofun⟩
  | cons b bs ih =>
    unfold query at h
    split at h
    · rename_i hb
      cases h
      rw [hb]
      exact ⟨rfl, nofun⟩
    rename_i hb
    split at h
    · rename_i hin
      obtain ⟨rest, hrest, rfl⟩ := of_map_eq_ok h
      obtain ⟨rfl, hascii⟩ := ih hrest
      rw [List.takeWhile_cons_of_pos (by simpa using hb)]
      exact ⟨rfl, List.forall_mem_cons.mpr ⟨toNat_lt_of_inQuery hin, hascii⟩⟩
    · cases h

/-- So is a path with the query after it. -/
theorem path_eq_ok {bs sent : List UInt8} (h : path bs = .ok sent) :
    sent = bs.takeWhile (· ≠ 0x23) ∧ ∀ b ∈ sent, b.toNat < 0x80 := by
  induction bs generalizing sent with
  | nil =>
    cases h
    exact ⟨rfl, nofun⟩
  | cons b bs ih =>
    unfold path at h
    split at h
    · rename_i hb
      cases h
      rw [hb]
      exact ⟨rfl, nofun⟩
    rename_i hb
    split at h
    · rename_i hmark
      obtain ⟨rest, hrest, rfl⟩ := of_map_eq_ok h
      obtain ⟨rfl, hascii⟩ := query_eq_ok hrest
      rw [List.takeWhile_cons_of_pos (by simpa using hb)]
      refine ⟨rfl, List.forall_mem_cons.mpr ⟨?_, hascii⟩⟩
      rw [hmark]
      decide
    split at h
    · rename_i hin
      obtain ⟨rest, hrest, rfl⟩ := of_map_eq_ok h
      obtain ⟨rfl, hascii⟩ := ih hrest
      rw [List.takeWhile_cons_of_pos (by simpa using hb)]
      exact ⟨rfl, List.forall_mem_cons.mpr ⟨toNat_lt_of_inPath hin, hascii⟩⟩
    · cases h

/-- What comes after a number sign is not looked at. -/
theorem query_takeWhile (bs : List UInt8) : query (bs.takeWhile (· ≠ 0x23)) = query bs := by
  induction bs with
  | nil => rfl
  | cons b bs ih =>
    by_cases hb : b = 0x23
    · rw [hb]
      rfl
    · rw [List.takeWhile_cons_of_pos (by simpa using hb), query, query, ih]

theorem path_takeWhile (bs : List UInt8) : path (bs.takeWhile (· ≠ 0x23)) = path bs := by
  induction bs with
  | nil => rfl
  | cons b bs ih =>
    by_cases hb : b = 0x23
    · rw [hb]
      rfl
    · rw [List.takeWhile_cons_of_pos (by simpa using hb), path, path, ih, query_takeWhile]

/-- A target is a text up to the first number sign. It is looked at byte by byte, so all of it must be ASCII. -/
theorem target_eq_ok {text sent : String} : target text = .ok sent ↔
    (Utf8.bytes text).length ≤ maxLength ∧ sent.toList = text.toList.takeWhile (· ≠ '#')
      ∧ path (Utf8.bytes sent) = .ok (Utf8.bytes sent) := by
  have hcut : (Utf8.bytes text).takeWhile (· ≠ 0x23) = Utf8.encode (text.toList.takeWhile (· ≠ '#')) :=
    Utf8.takeWhile_encode (c := '#') (by decide) text.toList
  constructor
  · intro h
    simp only [target] at h
    split at h
    · cases h
    rename_i hlength
    cases hpath : path (Utf8.bytes text) with
    | error fault =>
      rw [hpath] at h
      cases h
    | ok bs =>
      rw [hpath] at h
      obtain ⟨rfl, hascii⟩ := path_eq_ok hpath
      rw [hcut] at h hascii hpath
      have hsent : sent = String.ofList (text.toList.takeWhile (· ≠ '#')) := by
        rw [← Utf8.map_ofNat_encode hascii]
        exact (Except.ok.inj h).symm
      have hchars : sent.toList = text.toList.takeWhile (· ≠ '#') := by
        rw [hsent, String.toList_ofList]
      refine ⟨Nat.le_of_not_lt hlength, hchars, ?_⟩
      rw [Utf8.bytes, hchars, ← hpath, ← hcut, path_takeWhile]
  · intro h
    obtain ⟨hlength, hchars, hpath⟩ := h
    have hbytes : path (Utf8.bytes text) = .ok (Utf8.bytes sent) := by
      rw [← path_takeWhile, hcut, ← hchars]
      exact hpath
    unfold target
    rw [if_neg (Nat.not_lt.mpr hlength), hbytes]
    refine congrArg Except.ok ?_
    rw [Utf8.bytes, Utf8.map_ofNat_encode (path_eq_ok hpath).2, String.ofList_toList]

theorem path_eq_self {bs : List UInt8} (h : ∀ b ∈ bs, inPath b = true) : path bs = .ok bs := by
  induction bs with
  | nil => rfl
  | cons b bs ih =>
    obtain ⟨hb, hbs⟩ := List.forall_mem_cons.mp h
    have hsign : b ≠ 0x23 := by
      rintro rfl
      exact absurd hb (by decide)
    have hmark : b ≠ 0x3F := by
      rintro rfl
      exact absurd hb (by decide)
    rw [path, if_neg hsign, if_neg hmark, if_pos hb, ih hbs]
    rfl

/-- A text that is a path throughout is its own target. -/
theorem target_eq_self {text : String} (hlength : text.length ≤ maxLength)
    (hchars : ∀ c ∈ text.toList, c.toNat < 0x80 ∧ inPath (.ofNat c.toNat) = true) : target text = .ok text := by
  have hbytes : Utf8.bytes text = text.toList.map fun c => UInt8.ofNat c.toNat :=
    Utf8.encode_of_lt fun c hc => (hchars c hc).1
  refine target_eq_ok.mpr ⟨?_, ?_, path_eq_self ?_⟩
  · rwa [hbytes, List.length_map]
  · refine (List.takeWhile_eq_self_iff.mpr fun c hc => decide_eq_true ?_).symm
    rintro rfl
    exact absurd (hchars _ hc).2 (by decide)
  · rw [hbytes]
    intro b hb
    obtain ⟨c, hc, rfl⟩ := List.mem_map.mp hb
    exact (hchars c hc).2

end Uri

/-! ## 2. Pieces of a path -/

namespace Pointer

/-- A character that is no slash goes on with the piece after it. -/
theorem pieces_cons {c : Char} (hc : c ≠ '/') (cs : List Char) :
    ∃ p ps, pieces cs = p :: ps ∧ pieces (c :: cs) = (c :: p) :: ps := by
  cases hpieces : pieces cs with
  | nil => exact absurd hpieces (pieces_ne_nil cs)
  | cons p ps => exact ⟨p, ps, rfl, by simp [pieces, hpieces, hc]⟩

/-- No piece has a slash, and no character that is not in the whole. -/
theorem of_mem_pieces {cs p : List Char} (h : p ∈ pieces cs) : '/' ∉ p ∧ p ⊆ cs := by
  induction cs generalizing p with
  | nil =>
    obtain rfl : p = [] := List.mem_singleton.mp h
    exact ⟨List.not_mem_nil, List.Subset.refl _⟩
  | cons c cs ih =>
    by_cases hc : c = '/'
    · rw [hc, ← List.nil_append ('/' :: cs), pieces_append_slash List.not_mem_nil] at h
      rcases List.mem_cons.mp h with rfl | h
      · exact ⟨List.not_mem_nil, List.nil_subset _⟩
      · exact ⟨(ih h).1, List.subset_cons_of_subset _ (ih h).2⟩
    · obtain ⟨q, qs, hpieces, hcons⟩ := pieces_cons hc cs
      rw [hpieces] at ih
      rw [hcons] at h
      rcases List.mem_cons.mp h with rfl | h
      · obtain ⟨hslash, hsub⟩ := ih List.mem_cons_self
        exact ⟨List.not_mem_cons_of_ne_of_not_mem (Ne.symm hc) hslash, List.cons_subset_cons _ hsub⟩
      · obtain ⟨hslash, hsub⟩ := ih (List.mem_cons_of_mem _ h)
        exact ⟨hslash, List.subset_cons_of_subset _ hsub⟩

end Pointer

/-! ## 3. Addresses -/

/-- Whether a name can be a piece of a path: nothing in it ends a piece, the path or the target. -/
def IsSegment (name : String) : Prop := '/' ∉ name.toList ∧ '?' ∉ name.toList ∧ '#' ∉ name.toList

instance (name : String) : Decidable (IsSegment name) := inferInstanceAs (Decidable (_ ∧ _ ∧ _))

namespace ClaimRequest

/-- A request addresses a claim: it reads it, by a path with just these pieces, and asks for nothing else. -/
structure Addresses (inNamespace claim : String) (request : ApiRequest) : Prop where
  method : request.method = "GET"
  pieces : Pointer.pieces request.target.toList
    = ["", "api", "v1", "namespaces", inNamespace, "persistentvolumeclaims", claim].map String.toList
  no_query : '?' ∉ request.target.toList

/-- A request addresses no two claims. -/
theorem Addresses.unique {inNamespace claim otherNamespace other : String} {request : ApiRequest}
    (h : Addresses inNamespace claim request) (h' : Addresses otherNamespace other request) :
    otherNamespace = inNamespace ∧ other = claim := by
  have hnames := (List.map_inj_right fun _ _ => String.toList_inj.mp).mp (h'.pieces.symm.trans h.pieces)
  simpa only [List.cons.injEq, true_and, and_true] using hnames

theorem toList_path (inNamespace claim : String) : (path inNamespace claim).toList
    = (["api", "v1", "namespaces", inNamespace, "persistentvolumeclaims", claim].map String.toList).flatMap
      fun q => '/' :: q := by
  have hpath : path inNamespace claim
      = "/api/v1/namespaces/" ++ inNamespace ++ "/persistentvolumeclaims/" ++ claim := rfl
  rw [hpath]
  simp [String.toList_append]

theorem pieces_path {inNamespace claim : String} (hnamespace : '/' ∉ inNamespace.toList) (hclaim : '/' ∉ claim.toList) :
    Pointer.pieces (path inNamespace claim).toList
      = ["", "api", "v1", "namespaces", inNamespace, "persistentvolumeclaims", claim].map String.toList := by
  have hslash : ∀ q ∈ ["api", "v1", "namespaces", inNamespace, "persistentvolumeclaims", claim].map String.toList,
      '/' ∉ q := by
    simp [hnamespace, hclaim]
  have hpieces := Pointer.pieces_slashed List.not_mem_nil hslash
  rw [List.nil_append, ← toList_path] at hpieces
  exact hpieces

/-- A character is in a path if it is in one of the names, but for the characters that are in every path. -/
theorem mem_path {c : Char} (hc : c ∉ (path "" "").toList) (inNamespace claim : String) :
    c ∈ (path inNamespace claim).toList ↔ c ∈ inNamespace.toList ∨ c ∈ claim.toList := by
  rw [toList_path] at hc ⊢
  simp only [List.map_cons, List.map_nil, List.flatMap_cons, List.flatMap_nil, List.mem_append, List.mem_cons,
    List.append_nil, not_or] at hc ⊢
  obtain ⟨⟨hslash, hapi⟩, ⟨-, hv1⟩, ⟨-, hnamespaces⟩, -, ⟨-, hclaims⟩, -⟩ := hc
  simp only [hslash, hapi, hv1, hnamespaces, hclaims, false_or]

/-! ## 4. Requests -/

theorem mem_requests {inNamespace claim : String} {request : ApiRequest} : request ∈ requests inNamespace claim ↔
    request.method = "GET" ∧ target inNamespace claim = .ok request.target := by
  unfold requests
  cases target inNamespace claim with
  | ok sent =>
    obtain ⟨method, target⟩ := request
    simp [eq_comm]
  | error fault => simp

theorem requests_eq {inNamespace claim : String} {request : ApiRequest} (h : request ∈ requests inNamespace claim) :
    requests inNamespace claim = [request] := by
  unfold requests at h ⊢
  cases htarget : target inNamespace claim with
  | ok sent =>
    rw [htarget] at h
    rw [List.mem_singleton.mp h]
  | error fault =>
    rw [htarget] at h
    cases h

/-- Claims that are asked for by the same request have the same class, as far as can be seen from the answer. -/
theorem toOption_storageClass {inNamespace claim otherNamespace other : String} {request : ApiRequest}
    (hsent : request ∈ requests inNamespace claim) (hother : request ∈ requests otherNamespace other)
    (answer : ApiAnswer) :
    (storageClass otherNamespace other answer).toOption = (storageClass inNamespace claim answer).toOption := by
  simp only [storageClass, (mem_requests.mp hsent).2, (mem_requests.mp hother).2]
  cases answer.decode VolumeClaim.read with
  | ok found => rfl
  | error failure => rfl

/-- A target leads to a claim only if there was nothing to be lost or to be taken for something else in its names. -/
theorem addresses_iff {inNamespace claim : String} {request : ApiRequest} (hmethod : request.method = "GET")
    (htarget : request.target.toList = (path inNamespace claim).toList.takeWhile (· ≠ '#')) :
    Addresses inNamespace claim request ↔ IsSegment inNamespace ∧ IsSegment claim := by
  constructor
  · intro h
    have hsegment : ∀ name ∈ ["", "api", "v1", "namespaces", inNamespace, "persistentvolumeclaims", claim],
        IsSegment name := by
      intro name hname
      have hpiece : name.toList ∈ Pointer.pieces request.target.toList := by
        rw [h.pieces]
        exact List.mem_map_of_mem hname
      obtain ⟨hslash, hsub⟩ := Pointer.of_mem_pieces hpiece
      refine ⟨hslash, fun hmark => h.no_query (hsub hmark), fun hsign => ?_⟩
      have hkept := hsub hsign
      rw [htarget] at hkept
      simpa using List.mem_takeWhile_imp hkept
    exact ⟨hsegment _ (by simp), hsegment _ (by simp)⟩
  · intro h
    obtain ⟨⟨hslash, hmark, hsign⟩, ⟨hslash', hmark', hsign'⟩⟩ := h
    have hall : request.target.toList = (path inNamespace claim).toList := by
      rw [htarget, List.takeWhile_eq_self_iff]
      intro c hc
      rw [decide_eq_true_iff]
      rintro rfl
      exact ((mem_path (by decide) inNamespace claim).mp hc).elim hsign hsign'
    refine ⟨hmethod, ?_, fun hc => ?_⟩
    · rw [hall, pieces_path hslash hslash']
    · rw [hall] at hc
      exact ((mem_path (by decide) inNamespace claim).mp hc).elim hmark hmark'

/-- The characters of names in the API. -/
def inName (c : Char) : Bool := ('a' ≤ c && c ≤ 'z') || ('0' ≤ c && c ≤ '9') || c == '-' || c == '.'

theorem inPath_of_inName {c : Char} (h : inName c = true) : c.toNat < 0x80 ∧ Uri.inPath (.ofNat c.toNat) = true := by
  have hascii : c.toNat < 0x80 := by
    simp only [inName, Bool.or_eq_true, Bool.and_eq_true, decide_eq_true_eq, beq_iff_eq] at h
    rcases h with ((⟨-, h⟩ | ⟨-, h⟩) | rfl) | rfl
    · exact Nat.lt_of_le_of_lt (UInt32.le_iff_toNat_le.mp h) (by decide)
    · exact Nat.lt_of_le_of_lt (UInt32.le_iff_toNat_le.mp h) (by decide)
    · decide
    · decide
  have hall : ∀ n < 0x80, inName (.ofNat n) = true → Uri.inPath (.ofNat n) = true := by decide
  exact ⟨hascii, hall _ hascii (by rwa [Char.ofNat_toNat])⟩

theorem isSegment_of_inName {name : String} (h : ∀ c ∈ name.toList, inName c = true) : IsSegment name := by
  refine ⟨fun hc => ?_, fun hc => ?_, fun hc => ?_⟩
  all_goals exact absurd (h _ hc) (by decide)

/-- With names as the API has them a request is always sent, and addresses the claim. -/
theorem addresses_of_inName {inNamespace claim : String} (hnamespace : ∀ c ∈ inNamespace.toList, inName c = true)
    (hclaim : ∀ c ∈ claim.toList, inName c = true) (hlength : (path inNamespace claim).length ≤ Uri.maxLength) :
    ∃ request, requests inNamespace claim = [request] ∧ Addresses inNamespace claim request := by
  have hpath : ∀ c ∈ (path inNamespace claim).toList, c.toNat < 0x80 ∧ Uri.inPath (.ofNat c.toNat) = true := by
    intro c hc
    by_cases hfixed : c ∈ (path "" "").toList
    · have hall : ((path "" "").toList.all fun c => c.toNat < 0x80 && Uri.inPath (.ofNat c.toNat)) = true := rfl
      simpa using List.all_eq_true.mp hall c hfixed
    · rcases (mem_path hfixed inNamespace claim).mp hc with hc | hc
      · exact inPath_of_inName (hnamespace c hc)
      · exact inPath_of_inName (hclaim c hc)
  have hsent : { method := "GET", target := path inNamespace claim } ∈ requests inNamespace claim :=
    mem_requests.mpr ⟨rfl, Uri.target_eq_self hlength hpath⟩
  obtain ⟨-, htarget⟩ := mem_requests.mp hsent
  refine ⟨_, requests_eq hsent, (addresses_iff rfl (Uri.target_eq_ok.mp htarget).2.1).mpr ?_⟩
  exact ⟨isSegment_of_inName hnamespace, isSegment_of_inName hclaim⟩

/-- **The request for a claim.** Let a request be sent for a claim of a namespace.

* It is the only one, a GET of the path of the claim, without what comes after a number sign in it.
* It addresses the claim exactly if there is no slash, no question mark and no number sign in the two names.
* For another claim the same is sent exactly if the paths of the two agree up to the first number sign and that of the
  other is not too long. Then no answer can tell the two apart: both have the class that is found in it, or none.
* So it tells the claim from all others that it is sent for, as long as none of the three characters is in the names of
  either. -/
theorem addresses_iff_isSegment {inNamespace claim : String} {request : ApiRequest}
    (hsent : request ∈ requests inNamespace claim) :
    requests inNamespace claim = [request]
    ∧ request.method = "GET"
    ∧ request.target.toList = (path inNamespace claim).toList.takeWhile (· ≠ '#')
    ∧ (Addresses inNamespace claim request ↔ IsSegment inNamespace ∧ IsSegment claim)
    ∧ (∀ otherNamespace other, request ∈ requests otherNamespace other ↔
      (Utf8.bytes (path otherNamespace other)).length ≤ Uri.maxLength
      ∧ (path otherNamespace other).toList.takeWhile (· ≠ '#')
        = (path inNamespace claim).toList.takeWhile (· ≠ '#'))
    ∧ (∀ otherNamespace other answer, request ∈ requests otherNamespace other →
      (storageClass otherNamespace other answer).toOption = (storageClass inNamespace claim answer).toOption)
    ∧ ∀ otherNamespace other, request ∈ requests otherNamespace other → IsSegment inNamespace → IsSegment claim →
      IsSegment otherNamespace → IsSegment other → otherNamespace = inNamespace ∧ other = claim := by
  obtain ⟨hmethod, htarget⟩ := mem_requests.mp hsent
  obtain ⟨-, hkept, haccepted⟩ := Uri.target_eq_ok.mp htarget
  refine ⟨requests_eq hsent, hmethod, hkept, addresses_iff hmethod hkept, fun otherNamespace other => ?_,
    fun otherNamespace other answer hother => toOption_storageClass hsent hother answer, ?_⟩
  · rw [mem_requests, target, Uri.target_eq_ok, hkept]
    constructor
    · intro h
      exact ⟨h.2.1, h.2.2.1.symm⟩
    · intro h
      exact ⟨hmethod, h.1, h.2.symm, haccepted⟩
  · intro otherNamespace other hother hnamespace hclaim hotherNamespace hotherClaim
    obtain ⟨-, hotherTarget⟩ := mem_requests.mp hother
    obtain ⟨-, hotherKept, -⟩ := Uri.target_eq_ok.mp hotherTarget
    have haddressed := (addresses_iff hmethod hkept).mpr ⟨hnamespace, hclaim⟩
    exact haddressed.unique ((addresses_iff hmethod hotherKept).mpr ⟨hotherNamespace, hotherClaim⟩)

/-- The claim `data` is asked for by a request that addresses it. -/
theorem addresses_data :
    let request : ApiRequest := { method := "GET", target := "/api/v1/namespaces/team-a/persistentvolumeclaims/data" }
    request ∈ requests "team-a" "data" ∧ Addresses "team-a" "data" request := by
  intro request
  have hsent : request ∈ requests "team-a" "data" := by decide
  exact ⟨hsent, (addresses_iff_isSegment hsent).2.2.2.1.mpr (by decide)⟩

/-- The claims `data#old` and `data` are asked for by the same request. It does not address the first. -/
theorem sign_is_dropped :
    let request : ApiRequest := { method := "GET", target := "/api/v1/namespaces/team-a/persistentvolumeclaims/data" }
    requests "team-a" "data#old" = [request] ∧ requests "team-a" "data" = [request]
      ∧ ¬ Addresses "team-a" "data#old" request := by
  refine ⟨by decide, by decide, fun h => ?_⟩
  have hpieces := h.pieces
  revert hpieces
  decide

end ClaimRequest

end ReadyPin

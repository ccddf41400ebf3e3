import Mathlib.Tactic.Choose
import ReadyPin.Api.ClaimLookup
import ReadyPin.Proofs.Admission.ReviewValue

/-!
# What is read of a claim

A claim is read from the text of an answer in one pass, and only its storage class is kept. If the text is that of a
JSON value, then the class is the one that the value has in its place (`VolumeClaim.storageClass_of_read`): under
`storageClassName` in what is under `spec`, of several members with one key the last. A member that is missing, and one
that is null, name no class.

Both records, the claim and its specification, have one member that matters and others of which only the type does
(`Reader.Means.ofOne`).
-/

namespace ReadyPin

/-- The text of a value that is a string. -/
def Json.text? : Json → Option String
  | .string text => some text
  | _ => none

open Reader Json AdmissionReview

/-! ## 1. Records with one member that matters -/

namespace Reader

variable {α σ : Type}

/-- Only the type of a member matters. -/
def Checked (field : Field Reader σ) : Prop :=
  ∃ g : Json → Option Unit, ∀ before, Means (field.take before) fun v => (g v).map fun _ => before

theorem Checked.typed (key : String) (read : Reader α) [h : Faithful read] :
    Checked (Field.typed key read : Field Reader σ) := by
  obtain ⟨f, hf⟩ := h.means
  refine ⟨fun v => (orNull f v).map fun _ => (), fun before => ?_⟩
  simp only [Option.map_map]
  exact hf.nullable.map fun _ => before

theorem Checked.constant (key value : String) : Checked (Field.constant key value : Field Reader σ) := by
  refine ⟨fun v => v.text?.bind fun t => if t = value then some () else none, fun before => ?_⟩
  simp only [Option.map_bind]
  refine Means.bind (textAs_means _) fun t s a u => ?_
  by_cases ht : t = value
  · simp only [ht, if_true, Function.comp_apply, Option.map_some]
    rw [pure_eq_ok]
    simp [eq_comm]
  · simp [ht, Source.reject, mismatched]

theorem orNull_eq_some {f : Json → Option α} {v : Json} {a : Option α} (h : orNull f v = some a) :
    v = .null ∧ a = none ∨ ∃ b, f v = some b ∧ a = some b := by
  cases v with
  | null => exact .inl ⟨rfl, (Option.some.inj h).symm⟩
  | _ =>
    obtain ⟨b, hb, rfl⟩ := Option.map_eq_some_iff.mp h
    exact .inr ⟨b, hb, rfl⟩

/-- What a record does with a member. -/
def stepOf (fields : List (Field Reader σ)) (before : σ) (key : String) : Reader σ :=
  match fields.find? (·.key == key) with
  | some field => field.take before
  | none => do pass; pure before

theorem record_eq (expected : String) (start : σ) (fields : List (Field Reader σ)) :
    Source.record expected start fields = Reader.object expected start (stepOf fields) := by
  refine congrArg (Reader.object expected start) ?_
  funext before key
  unfold stepOf
  cases fields.find? (·.key == key) <;> rfl

/-- What is made of a member, if only the one under `key` matters. -/
def memberOfOne (key : String) (f : Json → Option α) (put : Option α → σ) (others : String → Json → Option Unit)
    (before : σ) (k : String) (v : Json) : Option σ :=
  if k = key then (orNull f v).map put else (others k v).map fun _ => before

/-- What is made of the value of such a record. -/
def ofOne (key : String) (f : Json → Option α) (put : Option α → σ) (others : String → Json → Option Unit) (start : σ) :
    Json → Option σ
  | .object ms => ms.foldlM (fun before m => memberOfOne key f put others before m.1 m.2) start
  | _ => none

/-- A record is read as its value, if one of its members matters and the others are only checked. -/
theorem Means.ofOne (fields : List (Field Reader σ)) [LocalFields fields] (key : String) {read : Reader α}
    {f : Json → Option α} {put : Option α → σ}
    (hfield : fields.find? (·.key == key) = some (.optional key read fun _ v => put v)) (hf : Means read f)
    (hothers : ∀ field ∈ fields, field.key ≠ key → Checked field) (expected : String) (start : σ) :
    ∃ others, Means (Source.record expected start fields) (Reader.ofOne key f put others start) := by
  have hchecked : ∀ k, ∃ g : Json → Option Unit, k ≠ key → ∀ before,
      Means (stepOf fields before k) fun v => (g v).map fun _ => before := by
    intro k
    unfold stepOf
    cases hfind : fields.find? (·.key == k) with
    | none => exact ⟨fun _ => some (), fun _ before => pass_means.map fun _ => before⟩
    | some field =>
      have hk : field.key = k := by simpa using List.find?_some hfind
      by_cases hkey : k = key
      · exact ⟨fun _ => none, fun hne => absurd hkey hne⟩
      · obtain ⟨g, hg⟩ := hothers field (List.mem_of_find?_eq_some hfind) (fun h => hkey (hk.symm.trans h))
        exact ⟨g, fun _ => hg⟩
  choose others hothers using hchecked
  have hlocal : ∀ before k, Local (stepOf fields before k) := by
    intro before k
    unfold stepOf
    cases hfind : fields.find? (·.key == k) with
    | none => exact inferInstanceAs (Local (pass >>= fun _ => pure before))
    | some field => exact LocalFields.take field (List.mem_of_find?_eq_some hfind) before
  have hstep : ∀ before k, Means (stepOf fields before k) (memberOfOne key f put others before k) := by
    intro before k
    unfold memberOfOne
    by_cases hk : k = key
    · subst hk
      simp only [stepOf, hfield, if_true]
      exact hf.nullable.map put
    · simp only [if_neg hk]
      exact hothers k hk before
  have hvalue : ∀ others, Reader.ofOne key f put others start = fun
      | .object ms => ms.foldlM (fun before m => memberOfOne key f put others before m.1 m.2) start
      | _ => none := by
    intro others
    funext v
    cases v <;> rfl
  refine ⟨others, ?_⟩
  rw [hvalue others, record_eq]
  exact Means.object hstep expected start

/-- The last of several members with the key counts. -/
theorem ofOne_eq_some {key : String} {f : Json → Option α} {put : Option α → σ} {others : String → Json → Option Unit}
    {start last : σ} {v : Json} (h : ofOne key f put others start v = some last) :
    match v.member? key with
    | none => last = start
    | some w => (orNull f w).map put = some last := by
  cases v with
  | object ms =>
    rw [ofOne] at h
    rw [member?]
    induction ms generalizing start with
    | nil =>
      cases h
      rfl
    | cons m ms ih =>
      obtain ⟨k, v⟩ := m
      rw [List.foldlM_cons] at h
      obtain ⟨next, hnext, hlast⟩ := Option.bind_eq_some_iff.mp h
      have hrest := ih hlast
      rw [lookup_cons]
      cases hlookup : lookup ms key with
      | some w =>
        rw [hlookup] at hrest
        exact hrest
      | none =>
        rw [hlookup] at hrest
        obtain rfl : last = next := hrest
        unfold memberOfOne at hnext
        by_cases hk : k = key
        · rw [if_pos hk] at hnext
          rw [if_pos hk.symm]
          exact hnext
        · rw [if_neg hk] at hnext
          rw [if_neg (Ne.symm hk)]
          obtain ⟨-, -, rfl⟩ := Option.map_eq_some_iff.mp hnext
          rfl
  | _ => cases h

/-- So either there is no such member, or it is null, or its value counts. -/
theorem ofOne_cases {key : String} {f : Json → Option α} {put : Option α → σ} {others : String → Json → Option Unit}
    {start last : σ} {v : Json} (h : ofOne key f put others start v = some last) :
    v.member? key = none ∧ last = start ∨ v.member? key = some .null ∧ last = put none
      ∨ ∃ w a, v.member? key = some w ∧ f w = some a ∧ last = put (some a) := by
  have hlast := ofOne_eq_some h
  cases hmember : v.member? key with
  | none =>
    rw [hmember] at hlast
    exact .inl ⟨rfl, hlast⟩
  | some w =>
    rw [hmember] at hlast
    obtain ⟨_, hw, rfl⟩ := Option.map_eq_some_iff.mp hlast
    rcases orNull_eq_some hw with ⟨rfl, rfl⟩ | ⟨a, ha, rfl⟩
    · exact .inr (.inl ⟨rfl, rfl⟩)
    · exact .inr (.inr ⟨w, a, rfl, ha, rfl⟩)

end Reader

/-! ## 2. The parts of a claim -/

namespace Cluster

instance : Takes (quantities : Reader (List (String × String))) := inferInstanceAs (Takes Source.textMap)

instance : Faithful (quantities : Reader (List (String × String))) := inferInstanceAs (Faithful Source.textMap)

instance : Takes (labelRequirement : Reader Unit) := by
  unfold labelRequirement
  infer_instance

instance : Faithful (labelRequirement : Reader Unit) := by
  unfold labelRequirement
  infer_instance

instance : Takes (labelSelector : Reader Unit) := by
  unfold labelSelector
  infer_instance

instance : Faithful (labelSelector : Reader Unit) := by
  unfold labelSelector
  infer_instance

instance (name : String) : Takes (condition name : Reader Unit) := by
  unfold condition
  infer_instance

instance (name : String) : Faithful (condition name : Reader Unit) := by
  unfold condition
  infer_instance

end Cluster

namespace VolumeClaim

instance (name : String) (keys : List String) : Takes (reference name keys : Reader Unit) := by
  unfold reference
  infer_instance

instance (name : String) (keys : List String) : Faithful (reference name keys : Reader Unit) := by
  unfold reference
  infer_instance

instance : Takes (resources : Reader Unit) := by
  unfold resources
  infer_instance

instance : Faithful (resources : Reader Unit) := by
  unfold resources
  infer_instance

instance : Takes (specification : Reader (Option String)) := by
  unfold specification
  infer_instance

instance : Takes (status : Reader Unit) := by
  unfold status
  infer_instance

instance : Faithful (status : Reader Unit) := by
  unfold status
  infer_instance

/-! ## 3. The class of a claim -/

/-- The name of the class that stands in the value of a claim, if one does. -/
def named? (v : Json) : Option String :=
  ((v.member? "spec").bind (·.member? "storageClassName")).bind text?

/-- The class of a specification is the one that is named in it last. -/
theorem specification_means : ∃ f : Json → Option (Option String), Means specification f
    ∧ ∀ v named, f v = some named → named = (v.member? "storageClassName").bind text? := by
  have hmeans : ∃ others, Means specification (ofOne "storageClassName" text? (fun v => v) others none) := by
    refine Means.ofOne _ "storageClassName" rfl (textAs_means _) ?_ _ _
    simp only [List.forall_mem_cons]
    and_intros
    all_goals first
      | exact fun _ => .typed ..
      | exact fun hne => absurd rfl hne
      | exact nofun
  obtain ⟨others, hmeans⟩ := hmeans
  refine ⟨_, hmeans, fun v named h => ?_⟩
  rcases ofOne_cases h with ⟨hmember, rfl⟩ | ⟨hmember, rfl⟩ | ⟨w, name, hmember, hname, rfl⟩ <;> rw [hmember]
  · rfl
  · rfl
  · exact hname.symm

/-- So is that of a claim, by what is under `spec`. -/
theorem read_means : ∃ f : Json → Option VolumeClaim, Means read f
    ∧ ∀ v claim, f v = some claim → claim.storageClass = named? v := by
  obtain ⟨f, hf, hnamed⟩ := specification_means
  have hmeans : ∃ others, Means read
      (ofOne "spec" f (fun v => ({ storageClass := v.join } : VolumeClaim)) others {}) := by
    refine Means.ofOne _ "spec" rfl hf ?_ _ _
    simp only [List.forall_mem_cons]
    and_intros
    all_goals first
      | exact fun _ => .typed ..
      | exact fun _ => .constant ..
      | exact fun hne => absurd rfl hne
      | exact nofun
  obtain ⟨others, hmeans⟩ := hmeans
  refine ⟨_, hmeans, fun v claim h => ?_⟩
  unfold named?
  rcases ofOne_cases h with ⟨hmember, rfl⟩ | ⟨hmember, rfl⟩ | ⟨w, named, hmember, hspec, rfl⟩ <;> rw [hmember]
  · rfl
  · rfl
  · exact hnamed w named hspec

/-- The class that is read of a claim is the one in its value. -/
theorem storageClass_of_read {body : List UInt8} {claim : VolumeClaim} {v : Json}
    (hclaim : Reader.all read body = .ok claim) (hv : Json.parse body = .ok v) : claim.storageClass = named? v := by
  obtain ⟨f, hf, hnamed⟩ := read_means
  obtain ⟨t, hkept, -⟩ := parse_eq_ok.mp hv
  obtain ⟨_, h⟩ := all_eq_ok.mp hclaim
  obtain ⟨claim', u, hread, h⟩ := bind_eq_ok.mp h
  obtain ⟨_, w, -, h⟩ := bind_eq_ok.mp h
  obtain ⟨rfl, -⟩ := pure_eq_ok.mp h
  exact hnamed v claim' (hf.eq hkept hread).1

end VolumeClaim

end ReadyPin

import ReadyPin.Admission.Review
import ReadyPin.Proofs.Json.Members
import ReadyPin.Proofs.Readiness.JsonPatch

/-!
# The pod of a patched object

A pod is read from the members of its object, the spec from the members under `spec`, and the node selector from those
inside. Each of the three reads on as before if another member is put into the innermost object; what changes is
the entry of the node selector (`AnyObject.toPod_pinned`). So the pod of a patched object has the ready
preference.
-/

namespace ReadyPin

open Json Readiness

/-! ## 1. Specs -/

namespace PodSpec

/-- The spec with a label in its node selector. -/
def pin (self : PodSpec) (label : String) : PodSpec :=
  { self with nodeSelector := OrderedMap.place label (fun _ => readyValue) self.nodeSelector }

/-- The members of which only the types matter spare all others. -/
theorem otherFields_spare {β : Type} {put : PodSpec → β → PodSpec} :
    ∀ field ∈ (otherFields : List (Field Held PodSpec)), Held.Spares field put := by
  unfold otherFields
  simp only [List.forall_mem_append, List.forall_mem_cons]
  and_intros
  all_goals first
    | exact Held.each_spares
    | exact Held.typed_spares
    | exact nofun

theorem apart : Held.Apart (fields : List (Field Held PodSpec)) "nodeSelector"
    fun (self : PodSpec) (v : Option (List (String × String))) => { self with nodeSelector := v.getD [] } := by
  intro field hfield hkey
  rcases List.mem_append.mp hfield with hfield | hfield
  · simp only [List.mem_cons, List.not_mem_nil, or_false] at hfield
    rcases hfield with rfl | rfl | rfl
    · exact Held.optional_spares fun _ _ _ => rfl
    · exact absurd rfl hkey
    · exact Held.optional_spares fun _ _ _ => rfl
  · exact otherFields_spare field hfield

variable {members selector : List (String × Json)} {spec : PodSpec}

/-- A node selector that is not null is an object. -/
theorem exists_selector (h : (read : Held PodSpec) (.object members) = .ok spec) {v : Json}
    (hv : lookup members "nodeSelector" = some v) (hne : v ≠ .null) : ∃ selector, v = .object selector := by
  obtain ⟨a, ha, -⟩ := Held.record_put apart (fun _ _ _ => rfl) rfl h hv
  cases v with
  | null => exact absurd rfl hne
  | object selector => exact ⟨selector, rfl⟩
  | _ => cases ha

theorem read_pin (h : (read : Held PodSpec) (.object members) = .ok spec)
    (hselector : lookup members "nodeSelector" = some (.object selector)) (label : String) :
    (read : Held PodSpec)
        (.object (put members "nodeSelector" (.object (put selector label (.string readyValue)))))
      = .ok (spec.pin label) := by
  obtain ⟨a, ha, hspec, hchanged⟩ := Held.record_put apart (fun _ _ _ => rfl) rfl h hselector
  rw [Held.nullable_object] at ha
  obtain ⟨entries, hentries, rfl⟩ := Held.map_some_eq_ok.mp ha
  have hnew := Held.textMap_put hentries label readyValue
  have hput := hchanged (.object (put selector label (.string readyValue))) _
    (by rw [Held.nullable_object, hnew]; rfl)
  rw [← hspec]
  exact hput

theorem mentions_pin (spec : PodSpec) (label : String) : (spec.pin label).mentions label = true := by
  have hmem : ∀ entries : List (String × String),
      (OrderedMap.place label (fun _ => readyValue) entries).any (·.1 == label) = true := by
    intro entries
    induction entries with
    | nil => simp [OrderedMap.place]
    | cons e entries ih =>
      rw [OrderedMap.place]
      split
      · simp
      · split
        · rw [List.any_cons, ih, Bool.or_true]
        · simp
  rw [mentions, pin, hmem, Bool.true_or]

end PodSpec

/-! ## 2. Pods -/

namespace AnyObject

variable {self : AnyObject} {pod : Pod} {spec selector : List (String × Json)}

theorem apart : Held.Apart (Pod.fields : List (Field Held Pod)) "spec" fun pod v => { pod with spec := v } := by
  intro field hfield hkey
  simp only [Pod.fields, List.mem_cons, List.not_mem_nil, or_false] at hfield
  rcases hfield with rfl | rfl | rfl | rfl
  · exact Held.constant_spares
  · exact Held.constant_spares
  · exact absurd rfl hkey
  · exact Held.optional_spares fun _ _ _ => rfl

theorem toPod_eq_ok : self.toPod = .ok pod ↔ ∃ read,
    (Source.record "Pod" {} Pod.fields : Held Pod) (.object self.members) = .ok read
      ∧ pod = { read with metadata := self.metadata } := by
  have htoPod : self.toPod = (Source.record "Pod" {} Pod.fields : Held Pod) (.object self.members) >>= fun read =>
      .ok { read with metadata := self.metadata } := rfl
  rw [htoPod]
  cases (Source.record "Pod" {} Pod.fields : Held Pod) (.object self.members) with
  | error cause =>
    constructor
    · intro h
      cases h
    · intro h
      obtain ⟨read, h, -⟩ := h
      cases h
  | ok read =>
    constructor
    · intro h
      exact ⟨read, rfl, (Except.ok.inj h).symm⟩
    · intro h
      obtain ⟨_, hread, rfl⟩ := h
      cases hread
      rfl

/-- A pod with a spec has it from an object under `spec`. -/
theorem exists_spec (h : self.toPod = .ok pod) {podSpec : PodSpec} (hspec : pod.spec = some podSpec) :
    ∃ spec, lookup self.members "spec" = some (.object spec)
      ∧ (PodSpec.read : Held PodSpec) (.object spec) = .ok podSpec := by
  obtain ⟨read, hread, rfl⟩ := toPod_eq_ok.mp h
  cases hv : lookup self.members "spec" with
  | none =>
    have hnone := Held.record_absent apart (b := none) rfl hread hv
    rw [← hnone] at hspec
    cases hspec
  | some v =>
    obtain ⟨a, ha, hput, -⟩ := Held.record_put apart (fun _ _ _ => rfl) rfl hread hv
    have hread : a = some podSpec := by
      rw [← hput] at hspec
      exact hspec
    subst hread
    cases v with
    | null => cases ha
    | object spec =>
      rw [Held.nullable_object] at ha
      obtain ⟨b, hb, hsome⟩ := Held.map_some_eq_ok.mp ha
      cases hsome
      exact ⟨spec, rfl, hb⟩
    | _ => cases ha

/-- The object with a label in its node selector is the same pod with the label in its spec. -/
theorem toPod_pinned (h : self.toPod = .ok pod) (hspec : lookup self.members "spec" = some (.object spec))
    (hselector : lookup spec "nodeSelector" = some (.object selector)) (label : String) :
    ({ self with members := pinned label self.members spec selector } : AnyObject).toPod
      = .ok { pod with spec := pod.spec.map (·.pin label) } := by
  obtain ⟨read, hread, rfl⟩ := toPod_eq_ok.mp h
  obtain ⟨a, ha, hput, hchanged⟩ := Held.record_put apart (fun _ _ _ => rfl) rfl hread hspec
  rw [Held.nullable_object] at ha
  obtain ⟨podSpec, hpodSpec, rfl⟩ := Held.map_some_eq_ok.mp ha
  have hnew := PodSpec.read_pin hpodSpec hselector label
  have hpod := hchanged (.object (put spec "nodeSelector" (.object (put selector label (.string readyValue))))) _
    (by rw [Held.nullable_object, hnew]; rfl)
  refine toPod_eq_ok.mpr ⟨_, hpod, ?_⟩
  rw [← hput]
  rfl

end AnyObject

end ReadyPin

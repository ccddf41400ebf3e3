import ReadyPin.Proofs.Json.Members
import ReadyPin.Proofs.Readiness.PatchDocument

/-!
# Applying a patch

A patch is a list of operations that are carried out in order; the one that matters here adds a value at a place. The
value above that place must be there and be an object, and so must all those further up. The patch of a driver
goes through the node selector of a pod (`apply_document`), so it fails on a pod without one.
-/

namespace ReadyPin

/-! ## 1. Operations -/

namespace JsonPatch

/-- Adds a value at the place under the given keys, in the stead of one that was there. -/
def addAt : List String → Json → Json → Option Json
  | [], new, _ => some new
  | [key], new, .object members => some (.object (Json.put members key new))
  | key :: keys, new, .object members => do
    let inner ← Json.lookup members key
    let changed ← addAt keys new inner
    some (.object (Json.put members key changed))
  | _, _, _ => none

/-- Carries out one operation on a value. -/
def operate (target operation : Json) : Option Json :=
  match operation.member? "op", operation.member? "path", operation.member? "value" with
  | some (.string "add"), some (.string pointer), some new => do addAt (← Pointer.keys? pointer) new target
  | _, _, _ => none

/-- Applies a patch to a value. -/
def apply (patch target : Json) : Option Json :=
  match patch with
  | .array operations => operations.foldlM operate target
  | _ => none

theorem addAt_last {key : String} {new target result : Json} :
    addAt [key] new target = some result ↔
      ∃ members, target = .object members ∧ result = .object (Json.put members key new) := by
  cases target with
  | object members =>
    constructor
    · intro h
      exact ⟨members, rfl, (Option.some.inj h).symm⟩
    · intro h
      obtain ⟨_, hmembers, rfl⟩ := h
      cases hmembers
      rfl
  | _ =>
    constructor
    · intro h
      cases h
    · intro h
      obtain ⟨_, hmembers, -⟩ := h
      cases hmembers

theorem addAt_inner {key next : String} {keys : List String} {new target result : Json} :
    addAt (key :: next :: keys) new target = some result ↔
      ∃ members inner changed, target = .object members ∧ Json.lookup members key = some inner
        ∧ addAt (next :: keys) new inner = some changed ∧ result = .object (Json.put members key changed) := by
  cases target with
  | object members =>
    rw [addAt]
    · simp only [Option.bind_eq_bind, Option.bind_eq_some_iff]
      constructor
      · intro h
        obtain ⟨inner, hinner, changed, hchanged, hresult⟩ := h
        exact ⟨members, inner, changed, rfl, hinner, hchanged, (Option.some.inj hresult).symm⟩
      · intro h
        obtain ⟨_, inner, changed, hmembers, hinner, hchanged, rfl⟩ := h
        cases hmembers
        exact ⟨inner, hinner, changed, hchanged, rfl⟩
    · nofun
  | _ =>
    constructor
    · intro h
      cases h
    · intro h
      obtain ⟨_, -, -, hmembers, -⟩ := h
      cases hmembers

end JsonPatch

/-! ## 2. The patch of a driver -/

namespace Readiness

/-- The members of an object once a label has been added to its node selector, given the members on the way. -/
def pinned (label : String) (members spec selector : List (String × Json)) : List (String × Json) :=
  Json.put members "spec"
    (.object (Json.put spec "nodeSelector" (.object (Json.put selector label (.string readyValue)))))

/-- The patch of a driver needs a node selector, and puts the label into it. -/
theorem apply_document {driver : String} {object patched : Json} :
    JsonPatch.apply (document driver) object = some patched ↔ ∃ members spec selector, object = .object members
      ∧ Json.lookup members "spec" = some (.object spec) ∧ Json.lookup spec "nodeSelector" = some (.object selector)
      ∧ patched = .object (pinned (label driver) members spec selector) := by
  have hoperate : JsonPatch.apply (document driver) object
      = JsonPatch.addAt ["spec", "nodeSelector", label driver] (.string readyValue) object := by
    show (do JsonPatch.addAt (← Pointer.keys? (target driver)) (.string readyValue) object : Option Json)
      >>= some = _
    rw [keys?_target]
    simp
  rw [hoperate]
  constructor
  · intro h
    obtain ⟨members, inner, changed, rfl, hspec, hbelow, rfl⟩ := JsonPatch.addAt_inner.mp h
    obtain ⟨spec, last, changed, rfl, hselector, hlast, rfl⟩ := JsonPatch.addAt_inner.mp hbelow
    obtain ⟨selector, rfl, rfl⟩ := JsonPatch.addAt_last.mp hlast
    exact ⟨members, spec, selector, rfl, hspec, hselector, rfl⟩
  · intro h
    obtain ⟨members, spec, selector, rfl, hspec, hselector, rfl⟩ := h
    refine JsonPatch.addAt_inner.mpr ⟨members, .object spec, _, rfl, hspec, ?_, rfl⟩
    refine JsonPatch.addAt_inner.mpr ⟨spec, .object selector, _, rfl, hselector, ?_, rfl⟩
    exact JsonPatch.addAt_last.mpr ⟨selector, rfl, rfl⟩

end Readiness

end ReadyPin

import Mathlib.Data.List.Forall2
import ReadyPin.Proofs.Json.Lookahead

/-!
# Mapping what is read

If the readers inside of another one give mapped results, then so does the whole: it takes the same bytes, fails
with the same faults, and gives the mapped result. `strictRecord_map` says so for strict records, member by member.

So it does not matter for the rest whether a value is read as such or together with where it stands
(`value_located`).
-/

namespace ReadyPin

namespace Reader

variable {ω α α' β β' σ σ' : Type}

/-! ## 1. Sequences and loops -/

theorem bind_map_eq {r : Reader α} {r' : Reader α'} {k : α → Reader β} {k' : α' → Reader β'} {f : α → α'} {g : β → β'}
    (hr : r' = f <$> r) (hk : ∀ a, k' (f a) = g <$> k a) : r' >>= k' = g <$> (r >>= k) := by
  rw [hr, bind_map_left, map_bind]
  exact congrArg (r >>= ·) (funext hk)

theorem same_bind_eq (r : Reader α) {k : α → Reader β} {k' : α → Reader β'} {g : β → β'} (hk : ∀ a, k' a = g <$> k a) :
    r >>= k' = g <$> (r >>= k) := by
  rw [map_bind]
  exact congrArg (r >>= ·) (funext hk)

theorem mismatched_map (cause : Mismatch) (g : α → β) : (mismatched cause : Reader β) = g <$> mismatched cause := rfl

theorem unexpected_map (kind : Kind) (expected : String) (g : α → β) :
    (unexpected kind expected : Reader β) = g <$> unexpected kind expected :=
  same_bind_eq (found kind) fun _ => mismatched_map _ g

theorem iterateWithin_map {step : σ → Reader (σ ⊕ α)} {step' : σ' → Reader (σ' ⊕ α')} (g : σ → σ') (f : α → α')
    (h : ∀ state, step' (g state) = Sum.map g f <$> step state) :
    ∀ bound state s, iterateWithin step' bound (g state) s = (f <$> iterateWithin step bound state : Reader α') s := by
  intro bound
  induction bound with
  | nil =>
    intro state s
    rw [iterateWithin_eq, h]
    simp only [Functor.map, StateT.map, bind, Except.bind]
    rw [iterateWithin_eq]
    cases step state s with
    | error fault => rfl
    | ok x =>
      obtain ⟨state' | result, t⟩ := x <;> rfl
  | cons b bound ih =>
    intro state s
    rw [iterateWithin_eq, h]
    simp only [Functor.map, StateT.map, bind, Except.bind]
    rw [iterateWithin_eq]
    cases step state s with
    | error fault => rfl
    | ok x =>
      obtain ⟨state' | result, t⟩ := x
      · exact ih state' t
      · rfl

theorem iterate_map {step : σ → Reader (σ ⊕ α)} {step' : σ' → Reader (σ' ⊕ α')} (g : σ → σ') (f : α → α')
    (h : ∀ state, step' (g state) = Sum.map g f <$> step state) (state : σ) :
    iterate step' (g state) = f <$> iterate step state := by
  funext s
  exact iterateWithin_map g f h s state s

/-! ## 2. Values, lists and objects -/

theorem nullable_map (read : Reader α) (f : α → β) : nullable (f <$> read) = Option.map f <$> nullable read := by
  unfold nullable
  refine same_bind_eq next fun o => ?_
  cases o with
  | none => simp
  | some b =>
    dsimp only
    split
    · simp
    · simp

theorem item?_map (read : Reader α) (f : α → β) (first : Bool) :
    item? (f <$> read) first = Option.map f <$> item? read first := by
  unfold item?
  refine same_bind_eq next fun o => ?_
  cases o with
  | none => rfl
  | some b =>
    dsimp only
    split
    · simp
    split
    · simp
    split
    · refine same_bind_eq drop fun _ => same_bind_eq next fun o => ?_
      cases o with
      | none => rfl
      | some b =>
        dsimp only
        split
        · rfl
        · simp
    · rfl

theorem members_map {step : σ → String → Reader σ} {step' : σ' → String → Reader σ'} (g : σ → σ')
    (h : ∀ state key, step' (g state) key = g <$> step state key) (start : σ) :
    members (g start) step' = g <$> members start step := by
  refine same_bind_eq drop fun _ => ?_
  refine iterate_map (Prod.map id g) g ?_ (true, start)
  intro state
  obtain ⟨first, before⟩ := state
  refine same_bind_eq (key? first) fun o => ?_
  cases o with
  | none => rfl
  | some key => exact bind_map_eq (h before key) fun after => rfl

/-! ## 3. Strict records -/

/-- Two slots do the same with what has been read, up to a map. -/
structure Mirrors (g : σ → σ') (slot : Slot σ) (slot' : Slot σ') : Prop where
  key : slot'.key = slot.key
  required : slot'.required = slot.required
  listed : slot'.listed = slot.listed
  take : ∀ before, slot'.take (g before) = g <$> slot.take before

theorem Mirrors.needed {g : σ → σ'} {key : String} {read : Reader α} {put : σ → α → σ} {put' : σ' → α → σ'}
    (h : ∀ before a, put' (g before) a = g (put before a)) : Mirrors g (.needed key read put) (.needed key read put') :=
  ⟨rfl, rfl, rfl, fun before => same_bind_eq read fun a => congrArg pure (h before a)⟩

theorem Mirrors.extra {g : σ → σ'} {key : String} {read : Reader α} {put : σ → α → σ} {put' : σ' → α → σ'}
    (h : ∀ before a, put' (g before) a = g (put before a)) : Mirrors g (.extra key read put) (.extra key read put') :=
  ⟨rfl, rfl, rfl, fun before => same_bind_eq read fun a => congrArg pure (h before a)⟩

theorem Mirrors.nullable {g : σ → σ'} {f : α → β} {key : String} {read : Reader α} {read' : Reader β}
    {put : σ → Option α → σ} {put' : σ' → Option β → σ'} (hread : read' = f <$> read)
    (h : ∀ before a, put' (g before) (a.map f) = g (put before a)) :
    Mirrors g (.nullable key read put) (.nullable key read' put') :=
  ⟨rfl, rfl, rfl, fun before => bind_map_eq (by rw [hread, nullable_map]) fun a => congrArg pure (h before a)⟩

variable {g : σ → σ'} {fields : List (Slot σ)} {fields' : List (Slot σ')}

theorem find?_mirrors (P : Slot σ → Bool) (P' : Slot σ' → Bool) (hP : ∀ s s', Mirrors g s s' → P' s' = P s)
    (h : List.Forall₂ (Mirrors g) fields fields') : Option.Rel (Mirrors g) (fields.find? P) (fields'.find? P') := by
  induction h with
  | nil => exact .none
  | cons hs _ ih =>
    rw [List.find?_cons, List.find?_cons, hP _ _ hs]
    split
    · exact .some hs
    · exact ih

theorem slot_map (h : List.Forall₂ (Mirrors g) fields fields') (state : σ × List String) (key : String) :
    slot fields' (Prod.map g id state) key = Prod.map g id <$> slot fields state key := by
  obtain ⟨before, seen⟩ := state
  have hrel := find?_mirrors (·.key == key) (·.key == key) (fun s s' hs => by simp only [hs.key]) h
  unfold slot
  dsimp only [Prod.map]
  cases hf : fields.find? (·.key == key) <;> cases hf' : fields'.find? (·.key == key) <;> rw [hf, hf'] at hrel
  · exact same_bind_eq colon fun _ => same_bind_eq pass fun _ => rfl
  · cases hrel
  · cases hrel
  · obtain ⟨hs⟩ := hrel
    dsimp only [id]
    split
    · rfl
    · exact same_bind_eq colon fun _ => bind_map_eq (hs.take before) fun after => rfl

theorem strictObject_map (h : List.Forall₂ (Mirrors g) fields fields') (start : σ) :
    strictObject (g start) fields' = g <$> strictObject start fields := by
  refine bind_map_eq (f := Prod.map g id) (members_map _ (slot_map h) (start, [])) fun state => ?_
  obtain ⟨result, seen⟩ := state
  have hrel := find?_mirrors (fun s => s.required && !seen.contains s.key) (fun s => s.required && !seen.contains s.key)
    (fun s s' hs => by simp only [hs.key, hs.required]) h
  dsimp only [Prod.map, id]
  cases hf : fields.find? (fun s => s.required && !seen.contains s.key) <;>
    cases hf' : fields'.find? (fun s => s.required && !seen.contains s.key) <;> rw [hf, hf'] at hrel
  · rfl
  · cases hrel
  · cases hrel
  · obtain ⟨hs⟩ := hrel
    dsimp only
    rw [hs.key]
    rfl

theorem findIdx?_mirrors (h : List.Forall₂ (Mirrors g) fields fields') :
    fields'.findIdx? (·.listed) = fields.findIdx? (·.listed) := by
  induction h with
  | nil => rfl
  | cons hs _ ih => rw [List.findIdx?_cons, List.findIdx?_cons, hs.listed, ih]

theorem slots_map (expected : String) (h : List.Forall₂ (Mirrors g) fields fields') :
    ∀ index before, slots expected index (g before) fields' = g <$> slots expected index before fields := by
  induction h with
  | nil =>
    intro index before
    exact same_bind_eq endOfList fun _ => rfl
  | cons hs htail ih =>
    intro index before
    refine bind_map_eq (by rw [hs.take, item?_map]) fun o => ?_
    cases o with
    | some after => exact ih _ _
    | none =>
      dsimp only [Option.map]
      rw [findIdx?_mirrors (.cons hs htail)]
      split <;> rfl

theorem strictRecord_map (name : String) (size : Nat) (h : List.Forall₂ (Mirrors g) fields fields') (start : σ) :
    strictRecord name size (g start) fields' = g <$> strictRecord name size start fields := by
  refine same_bind_eq kind fun k => ?_
  cases k
  case object => exact strictObject_map h start
  case list => exact same_bind_eq drop fun _ => slots_map _ h 0 start
  all_goals exact unexpected_map _ _ g

end Reader

end ReadyPin

import ReadyPin.Json.Source
import ReadyPin.Proofs.Text.OrderedMapTheorems

/-!
# Changing a member

`Json.put` gives a key of an object another value. What the object's members are after that is told twice: by
`lookup`, and by `settled`, the sorted form from which records are read. `Held.record_put` says what a record makes of
the change: if the fields under other keys have nothing to do with it, then the result changes in that one place.
-/

namespace ReadyPin

/-! ## 1. What counts under a key -/

namespace Json

variable {α : Type}

/-- The members in which a key has the given value, whatever it had before. -/
def put (members : List (String × α)) (key : String) (value : α) : List (String × α) :=
  members.filter (·.1 != key) ++ [(key, value)]

theorem lookup_nil (key : String) : lookup ([] : List (String × α)) key = none := rfl

theorem lookup_cons (e : String × α) (members : List (String × α)) (key : String) :
    lookup (e :: members) key = (lookup members key).or (if key = e.1 then some e.2 else none) := by
  rw [lookup, List.reverse_cons, List.lookup_append, OrderedMap.lookup_cons_eq_ite, List.lookup_nil]
  rfl

theorem lookup_append (members more : List (String × α)) (key : String) :
    lookup (members ++ more) key = (lookup more key).or (lookup members key) := by
  rw [lookup, List.reverse_append, List.lookup_append]
  rfl

theorem lookup_filter (members : List (String × α)) (key k : String) :
    lookup (members.filter (·.1 != key)) k = if k = key then none else lookup members k := by
  induction members with
  | nil => simp [lookup_nil]
  | cons e members ih =>
    rw [lookup_cons, List.filter_cons]
    by_cases he : e.1 = key
    · rw [if_neg (by simp [he]), ih]
      by_cases hk : k = key
      · simp [hk]
      · simp [hk, he]
    · rw [if_pos (by simp [he]), lookup_cons, ih]
      by_cases hk : k = key
      · have hne : key ≠ e.1 := fun h => he h.symm
        simp [hk, hne]
      · simp [hk]

/-- The key has the new value, and all others are left alone. -/
theorem lookup_put (members : List (String × α)) (key : String) (value : α) (k : String) :
    lookup (put members key value) k = if k = key then some value else lookup members k := by
  rw [put, lookup_append, lookup_filter, lookup_cons, lookup_nil]
  by_cases hk : k = key <;> simp [hk]

theorem find?_ofEntries (members : List (String × α)) (key : String) :
    (OrderedMap.ofEntries members).find? key = lookup members key := by
  induction members with
  | nil => rfl
  | cons e members ih =>
    have hstep : OrderedMap.ofEntries (e :: members)
        = (OrderedMap.ofEntries members).alter e.1 fun later => later.getD e.2 := rfl
    rw [hstep, OrderedMap.find?_alter, lookup_cons]
    by_cases hk : key = e.1
    · subst hk
      rw [if_pos rfl, if_pos rfl, ih]
      cases lookup members e.1 <;> rfl
    · rw [if_neg hk, if_neg hk, ih, Option.or_none]

theorem settled_increasing (members : List (String × α)) :
    (settled members).Pairwise fun e f => ByteOrder.before e.1 f.1 = true :=
  (OrderedMap.ofEntries members).increasing

theorem mem_settled_iff {members : List (String × α)} {e : String × α} :
    e ∈ settled members ↔ lookup members e.1 = some e.2 := by
  rw [settled, OrderedMap.mem_entries_iff, find?_ofEntries]

theorem settled_filter (members : List (String × α)) (key : String) :
    settled (members.filter (·.1 != key)) = (settled members).filter (·.1 != key) := by
  have heq : OrderedMap.ofEntries (members.filter (·.1 != key)) = (OrderedMap.ofEntries members).erase key := by
    apply OrderedMap.ext_find?
    intro k
    rw [OrderedMap.find?_erase, find?_ofEntries, find?_ofEntries, lookup_filter]
  exact congrArg OrderedMap.entries heq

theorem settled_put (members : List (String × α)) (key : String) (value : α) :
    settled (put members key value) = OrderedMap.place key (fun _ => value) (settled members) := by
  have heq : OrderedMap.ofEntries (put members key value) = (OrderedMap.ofEntries members).insert key value := by
    apply OrderedMap.ext_find?
    intro k
    rw [OrderedMap.find?_insert, find?_ofEntries, find?_ofEntries, lookup_put]
  exact congrArg OrderedMap.entries heq

/-- A member that has a value already is changed where it stands. -/
theorem exists_settled_put_eq {members : List (String × α)} {key : String} {old : α}
    (h : lookup members key = some old) : ∃ before after, settled members = before ++ (key, old) :: after
      ∧ (∀ e ∈ after, e.1 ≠ key) ∧ ∀ value, settled (put members key value) = before ++ (key, value) :: after := by
  have hold : (settled members).lookup key = some old := by
    rw [← h, ← find?_ofEntries]
    rfl
  obtain ⟨before, after, hmembers, hafter, hplace⟩ := OrderedMap.exists_place_eq (settled_increasing members) hold
  exact ⟨before, after, hmembers, hafter, fun value => (settled_put members key value).trans (hplace _)⟩

end Json

/-! ## 2. Records of a kept value -/

namespace Held

open Json

variable {σ α β : Type}

/-- What a record does with one member. -/
def recordStep (fields : List (Field Held σ)) (before : σ) (m : String × Json) : Except Mismatch σ :=
  (match fields.find? (·.key == m.1) with
    | some field => field.take before
    | none => do Source.pass; pure before : Held σ) m.2

theorem held_object (expected : String) (start : σ) (step : σ → String → Held σ) (members : List (String × Json)) :
    (Source.object expected start step : Held σ) (.object members)
      = (settled members).foldlM (fun before m => step before m.1 m.2) start := rfl

theorem record_object (expected : String) (start : σ) (fields : List (Field Held σ)) (members : List (String × Json)) :
    (Source.record expected start fields : Held σ) (.object members)
      = (settled members).foldlM (recordStep fields) start := by
  rw [Source.record, held_object]
  congr 1
  funext before m
  unfold recordStep
  cases fields.find? (·.key == m.1) <;> rfl

theorem nullable_object (read : Held α) (members : List (String × Json)) :
    (Source.nullable read : Held (Option α)) (.object members) = (read (.object members)).map some := rfl

theorem map_some_eq_ok {x : Except Mismatch α} {a : Option α} : x.map some = .ok a ↔ ∃ b, x = .ok b ∧ a = some b := by
  cases x with
  | error cause =>
    constructor
    · intro h
      cases h
    · intro h
      obtain ⟨b, h, -⟩ := h
      cases h
  | ok b =>
    constructor
    · intro h
      exact ⟨b, rfl, (Except.ok.inj h).symm⟩
    · intro h
      obtain ⟨_, hb, rfl⟩ := h
      cases hb
      rfl

/-- A field neither looks at what `put` changes nor changes it. -/
def Spares (field : Field Held σ) (put : σ → β → σ) : Prop :=
  ∀ before b v, field.take (put before b) v = (field.take before v).map fun after => put after b

/-- All fields under other keys leave alone what `put` changes. -/
def Apart (fields : List (Field Held σ)) (key : String) (put : σ → β → σ) : Prop :=
  ∀ field ∈ fields, field.key ≠ key → Spares field put

theorem take_optional (key : String) (read : Held α) (put : σ → Option α → σ) (before : σ) (v : Json) :
    (Field.optional key read put).take before v
      = ((Source.nullable read : Held (Option α)) v).map fun a => put before a := by
  show ((Source.nullable read : Held (Option α)) v >>= fun a => .ok (put before a)) = _
  cases (Source.nullable read : Held (Option α)) v <;> rfl

theorem optional_spares {key : String} {read : Held α} {put : σ → Option α → σ} {put' : σ → β → σ}
    (h : ∀ before a b, put (put' before b) a = put' (put before a) b) : Spares (.optional key read put) put' := by
  intro before b v
  rw [take_optional, take_optional]
  cases (Source.nullable read : Held (Option α)) v with
  | error cause => rfl
  | ok a => exact congrArg Except.ok (h before a b)

/-- A field of which only the type matters spares everything. -/
theorem typed_spares {key : String} {read : Held α} {put : σ → β → σ} : Spares (.typed key read) put :=
  optional_spares fun _ _ _ => rfl

theorem each_spares {read : Held α} {keys : List String} {put : σ → β → σ} :
    ∀ field ∈ Field.each read keys, Spares field put := by
  intro field hfield
  obtain ⟨key, -, rfl⟩ := List.mem_map.mp hfield
  exact typed_spares

theorem take_constant (key value : String) (before : σ) (v : Json) :
    (Field.constant key value : Field Held σ).take before v
      = (Source.text : Held String) v >>= fun t =>
        if t = value then .ok before else .error (.value (.string t) value) := by
  show ((Source.text : Held String) v >>= fun t =>
    (if t = value then pure before else Source.reject (.value (.string t) value) : Held σ) v) = _
  congr 1
  funext t
  split <;> rfl

theorem constant_spares {key value : String} {put : σ → β → σ} : Spares (.constant key value) put := by
  intro before b v
  rw [take_constant, take_constant]
  cases (Source.text : Held String) v with
  | error cause => rfl
  | ok t =>
    show (if t = value then .ok (put before b) else .error _)
      = Except.map _ (if t = value then .ok before else .error _)
    split <;> rfl

/-- A constant field takes its string, which changes nothing, and no other value. -/
theorem take_constant_eq_ok {key value : String} {before after : σ} {v : Json} :
    (Field.constant key value : Field Held σ).take before v = .ok after ↔ v = .string value ∧ after = before := by
  rw [take_constant]
  cases v with
  | string t =>
    show (if t = value then Except.ok before else .error _) = .ok after ↔ _
    by_cases h : t = value
    · simp [h, eq_comm]
    · simp [h]
  | _ => simp [Source.text, Source.textAs, unexpected, bind, Except.bind]

variable {fields : List (Field Held σ)} {key : String}

theorem recordStep_apart {put : σ → β → σ} (h : Apart fields key put) {m : String × Json} (hm : m.1 ≠ key) (before : σ)
    (b : β) : recordStep fields (put before b) m = (recordStep fields before m).map fun after => put after b := by
  unfold recordStep
  cases hf : fields.find? (·.key == m.1) with
  | none => rfl
  | some field =>
    have hkey : field.key = m.1 := by simpa using List.find?_some hf
    exact h field (List.mem_of_find?_eq_some hf) (hkey ▸ hm) before b m.2

theorem foldlM_apart {put : σ → β → σ} (h : Apart fields key put) {ms : List (String × Json)}
    (hms : ∀ m ∈ ms, m.1 ≠ key)
    (before : σ) (b : β) :
    ms.foldlM (recordStep fields) (put before b)
      = (ms.foldlM (recordStep fields) before).map fun after => put after b := by
  induction ms generalizing before with
  | nil => rfl
  | cons m ms ih =>
    rw [List.foldlM_cons, List.foldlM_cons, recordStep_apart h (hms m List.mem_cons_self)]
    cases recordStep fields before m with
    | error cause => rfl
    | ok after => exact ih (fun m hm => hms m (List.mem_cons_of_mem _ hm)) after

variable {expected : String} {start result : σ} {members : List (String × Json)}

/-- A member that is not there leaves what the record begins with. -/
theorem record_absent {put : σ → β → σ} (h : Apart fields key put) {b : β} (hstart : put start b = start)
    (hread : (Source.record expected start fields : Held σ) (.object members) = .ok result)
    (habsent : lookup members key = none) : put result b = result := by
  have hms : ∀ m ∈ settled members, m.1 ≠ key := by
    rintro m hm rfl
    rw [mem_settled_iff, habsent] at hm
    cases hm
  rw [record_object] at hread
  have hfold := foldlM_apart h hms start b
  rw [hstart, hread] at hfold
  exact (Except.ok.inj hfold).symm

/-- A member that is there has been read, and with another value the record has another result in one place. -/
theorem record_put {read : Held α} {put : σ → Option α → σ} (h : Apart fields key put)
    (hput : ∀ before a b, put (put before a) b = put before b)
    (hfield : fields.find? (·.key == key) = some (.optional key read put))
    (hread : (Source.record expected start fields : Held σ) (.object members) = .ok result) {old : Json}
    (hold : lookup members key = some old) :
    ∃ a, (Source.nullable read : Held (Option α)) old = .ok a ∧ put result a = result ∧
      ∀ new b, (Source.nullable read : Held (Option α)) new = .ok b →
        (Source.record expected start fields : Held σ) (.object (Json.put members key new)) = .ok (put result b) := by
  have hstep : ∀ before v, recordStep fields before (key, v)
      = ((Source.nullable read : Held (Option α)) v).map fun a => put before a := by
    intro before v
    unfold recordStep
    rw [hfield]
    exact take_optional key read put before v
  -- The members before the changed one give the same; those after it give the same but for the one place.
  obtain ⟨left, right, hsettled, hright, hchanged⟩ := exists_settled_put_eq hold
  have hfold : ∀ v a, (Source.nullable read : Held (Option α)) v = .ok a →
      (left ++ (key, v) :: right).foldlM (recordStep fields) start
        = ((left ++ right).foldlM (recordStep fields) start).map fun after => put after a := by
    intro v a ha
    rw [List.foldlM_append, List.foldlM_append]
    cases left.foldlM (recordStep fields) start with
    | error cause => rfl
    | ok before =>
      show (recordStep fields before (key, v) >>= fun s => right.foldlM (recordStep fields) s) = _
      rw [hstep, ha]
      exact foldlM_apart h hright before a
  rw [record_object, hsettled] at hread
  cases ha : (Source.nullable read : Held (Option α)) old with
  | error cause =>
    rw [List.foldlM_append] at hread
    cases hleft : left.foldlM (recordStep fields) start with
    | error cause' =>
      rw [hleft] at hread
      cases hread
    | ok before =>
      rw [hleft] at hread
      change (recordStep fields before (key, old) >>= fun s => right.foldlM (recordStep fields) s) = _ at hread
      rw [hstep, ha] at hread
      cases hread
  | ok a =>
    rw [hfold old a ha] at hread
    cases hrest : (left ++ right).foldlM (recordStep fields) start with
    | error cause =>
      rw [hrest] at hread
      cases hread
    | ok after =>
      rw [hrest] at hread
      obtain rfl : put after a = result := Except.ok.inj hread
      refine ⟨a, rfl, hput after a a, fun new b hb => ?_⟩
      rw [record_object, hchanged, hfold new b hb, hrest]
      exact congrArg Except.ok (hput after a b).symm

/-- A constant field has the say over its own key, and otherwise the record is read without it. -/
theorem record_constant {value : String} (hfield : fields.find? (·.key == key) = some (.constant key value)) :
    (Source.record expected start fields : Held σ) (.object members) = .ok result ↔
      (Source.record expected start fields : Held σ) (.object (members.filter (·.1 != key))) = .ok result
        ∧ ∀ v, lookup members key = some v → v = .string value := by
  have hfold : ∀ (ms : List (String × Json)) before, ms.foldlM (recordStep fields) before = .ok result ↔
      (ms.filter (·.1 != key)).foldlM (recordStep fields) before = .ok result
        ∧ ∀ m ∈ ms, m.1 = key → m.2 = .string value := by
    intro ms
    induction ms with
    | nil => simp
    | cons m ms ih =>
      intro before
      obtain ⟨k, v⟩ := m
      rw [List.foldlM_cons, List.filter_cons, List.forall_mem_cons]
      by_cases hk : k = key
      · subst hk
        have hstep : ∀ after, recordStep fields before (k, v) = .ok after ↔ v = .string value ∧ after = before := by
          intro after
          unfold recordStep
          rw [hfield]
          exact take_constant_eq_ok
        rw [if_neg (by simp)]
        cases hfirst : recordStep fields before (k, v) with
        | error cause =>
          have hv : v ≠ .string value := fun hv => by cases hfirst.symm.trans ((hstep before).mpr ⟨hv, rfl⟩)
          exact ⟨nofun, fun h => absurd (h.2.1 rfl) hv⟩
        | ok after =>
          obtain ⟨hv, rfl⟩ := (hstep after).mp hfirst
          exact (ih after).trans (and_congr_right fun _ => ⟨fun h => ⟨fun _ => hv, h⟩, fun h => h.2⟩)
      · rw [if_pos (by simp [hk]), List.foldlM_cons]
        cases recordStep fields before (k, v) with
        | error cause => exact ⟨nofun, fun h => nomatch h.1⟩
        | ok after =>
          exact (ih after).trans (and_congr_right fun _ => ⟨fun h => ⟨fun hkey => absurd hkey hk, h⟩, fun h => h.2⟩)
  rw [record_object, record_object, settled_filter, hfold]
  refine and_congr_right fun _ => ⟨fun h v hv => h (key, v) (mem_settled_iff.mpr hv) rfl, ?_⟩
  rintro h m hm rfl
  exact h m.2 (mem_settled_iff.mp hm)

/-! ## 3. Maps of strings -/

/-- Strings under keys, as members of an object. -/
def texts (entries : List (String × String)) : List (String × Json) := entries.map fun e => (e.1, .string e.2)

theorem foldlM_texts (ms : List (String × Json)) (before after : List (String × String)) :
    ms.foldlM (fun before m => ((Source.text : Held String) m.2).map fun t => (m.1, t) :: before) before = .ok after ↔
      ∃ more, ms = texts more ∧ after = more.reverse ++ before := by
  induction ms generalizing before with
  | nil =>
    constructor
    · intro h
      exact ⟨[], rfl, (Except.ok.inj h).symm⟩
    · intro h
      obtain ⟨more, hmore, rfl⟩ := h
      cases more with
      | nil => rfl
      | cons e more => cases hmore
  | cons m ms ih =>
    obtain ⟨key, v⟩ := m
    rw [List.foldlM_cons]
    constructor
    · intro h
      cases v with
      | string t =>
        obtain ⟨more, rfl, rfl⟩ := (ih _).mp h
        exact ⟨(key, t) :: more, rfl, by simp⟩
      | _ => cases h
    · intro h
      obtain ⟨more, hmore, rfl⟩ := h
      cases more with
      | nil => cases hmore
      | cons e more =>
        obtain ⟨hm, rfl⟩ := List.cons.inj hmore
        cases hm
        exact (ih ((e.1, e.2) :: before)).mpr ⟨more, rfl, by simp⟩

/-- Every member of such a map is a string, and they come in the order of their keys. -/
theorem textMap_eq_ok {members : List (String × Json)} {entries : List (String × String)} :
    (Source.textMap : Held (List (String × String))) (.object members) = .ok entries ↔
      settled members = texts entries := by
  have hmap : (Source.textMap : Held (List (String × String))) (.object members)
      = ((settled members).foldlM (fun before m =>
          ((Source.text : Held String) m.2).map fun t => (m.1, t) :: before) []).map List.reverse := by
    have hstep : (Source.textMap : Held (List (String × String))) (.object members)
        = ((settled members).foldlM (fun before m =>
          (Source.text : Held String) m.2 >>= fun t => .ok ((m.1, t) :: before)) []) >>= fun es => .ok es.reverse := rfl
    rw [hstep]
    have hbind : ∀ {γ δ : Type} (x : Except Mismatch γ) (f : γ → δ), (x >>= fun a => .ok (f a)) = x.map f := by
      intro γ δ x f
      cases x <;> rfl
    simp only [hbind]
  rw [hmap]
  cases hfold : (settled members).foldlM (fun before m =>
      ((Source.text : Held String) m.2).map fun t => (m.1, t) :: before) [] with
  | error cause =>
    constructor
    · intro h
      cases h
    · intro h
      rw [(foldlM_texts _ [] _).mpr ⟨entries, h, rfl⟩] at hfold
      cases hfold
  | ok after =>
    obtain ⟨more, hmore, rfl⟩ := (foldlM_texts _ _ _).mp hfold
    rw [hmore]
    constructor
    · intro h
      obtain rfl : more = entries := by simpa using Except.ok.inj h
      rfl
    · intro h
      have hinj : ∀ e f : String × String, (e.1, Json.string e.2) = (f.1, Json.string f.2) → e = f := by
        rintro ⟨a, b⟩ ⟨c, d⟩ h
        cases h
        rfl
      obtain rfl : more = entries := (List.map_inj_right hinj).mp h
      simp [Except.map]

theorem place_texts (key value : String) (entries : List (String × String)) :
    OrderedMap.place key (fun _ => .string value) (texts entries)
      = texts (OrderedMap.place key (fun _ => value) entries) := by
  induction entries with
  | nil => rfl
  | cons e entries ih =>
    rw [texts, List.map_cons, OrderedMap.place, OrderedMap.place]
    dsimp only
    split
    · rfl
    · split
      · rw [texts, List.map_cons]
        exact congrArg _ ih
      · rfl

/-- A string more makes one entry more. -/
theorem textMap_put {members : List (String × Json)} {entries : List (String × String)}
    (h : (Source.textMap : Held (List (String × String))) (.object members) = .ok entries) (key value : String) :
    (Source.textMap : Held (List (String × String))) (.object (put members key (.string value)))
      = .ok (OrderedMap.place key (fun _ => value) entries) := by
  rw [textMap_eq_ok] at h ⊢
  rw [settled_put, h, place_texts]

end Held

end ReadyPin

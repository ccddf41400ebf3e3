import ReadyPin.Proofs.Text.Utf8RoundTrip
import ReadyPin.Text.ByteOrder

/-!
# What an ordered map holds

`OrderedMap.place` finds its way by the order of bytes, while `find?` and `contains` compare keys. The two agree because
different strings have different bytes (`ByteOrder.eq_of_not_before`). From that one lemma on `place` come
the equations of every operation through `find?` and `contains`, and that a map is determined by what it holds
(`ext_find?`).
-/

namespace ReadyPin

namespace ByteOrder

/-- Of two different strings one comes before the other. -/
theorem eq_of_not_before {a b : String} (hab : before a b = false) (hba : before b a = false) : a = b :=
  Utf8.bytes_injective (before_or_after hab hba)

theorem ne_of_before {a b : String} (h : before a b = true) : a ≠ b := by
  intro he
  rw [he, before_irrefl] at h
  cases h

end ByteOrder

namespace OrderedMap

variable {α : Type}

theorem lookup_cons_eq_ite (k : String) (e : String × α) (l : List (String × α)) :
    (e :: l).lookup k = if k = e.1 then some e.2 else l.lookup k := by
  rw [List.lookup_cons]
  by_cases h : k = e.1 <;> simp [h, beq_false_of_ne]

/-- What comes before all keys is not among them. -/
theorem lookup_eq_none_of_before {key : String} {l : List (String × α)}
    (h : ∀ e ∈ l, ByteOrder.before key e.1 = true) : l.lookup key = none := by
  rw [List.lookup_eq_none_iff]
  intro e he
  simpa using ByteOrder.ne_of_before (h e he)

/-- Placing changes the value under its own key only. -/
theorem lookup_place (key : String) (value : Option α → α) (k : String) {l : List (String × α)}
    (h : l.Pairwise (fun e f => ByteOrder.before e.1 f.1 = true)) :
    (place key value l).lookup k = if k = key then some (value (l.lookup key)) else l.lookup k := by
  induction l with
  | nil => simp only [place, lookup_cons_eq_ite, List.lookup_nil]
  | cons e r ih =>
    obtain ⟨he, hr⟩ := List.pairwise_cons.1 h
    simp only [place]
    split
    · rename_i hlt
      have hnone : (e :: r).lookup key = none := by
        apply lookup_eq_none_of_before
        intro f hf
        rcases List.mem_cons.1 hf with rfl | hf
        · exact hlt
        · exact ByteOrder.before_trans hlt (he f hf)
      rw [hnone, lookup_cons_eq_ite]
    · split
      · rename_i _ hgt
        have hne : key ≠ e.1 := (ByteOrder.ne_of_before hgt).symm
        rw [lookup_cons_eq_ite, ih hr, lookup_cons_eq_ite, lookup_cons_eq_ite, if_neg hne]
        by_cases hk : k = key
        · rw [if_pos hk, if_pos hk, hk, if_neg hne]
        · simp only [if_neg hk]
      · rename_i h1 h2
        have heq : key = e.1 := ByteOrder.eq_of_not_before (by simpa using h1) (by simpa using h2)
        rw [lookup_cons_eq_ite, lookup_cons_eq_ite, lookup_cons_eq_ite, if_pos heq, ← heq]
        by_cases hk : k = key
        · rw [if_pos hk, if_pos hk]
        · rw [if_neg hk, if_neg hk, if_neg hk]

theorem find?_alter (m : OrderedMap α) (key : String) (value : Option α → α) (k : String) :
    (m.alter key value).find? k = if k = key then some (value (m.find? key)) else m.find? k :=
  lookup_place key value k m.increasing

theorem find?_insert (m : OrderedMap α) (key : String) (value : α) (k : String) :
    (m.insert key value).find? k = if k = key then some value else m.find? k :=
  find?_alter m key _ k

theorem contains_eq_isSome (m : OrderedMap α) (key : String) : m.contains key = (m.find? key).isSome := by
  rw [Bool.eq_iff_iff, contains, List.any_eq_true, find?, List.lookup_isSome_iff]
  simp

@[simp] theorem contains_empty (k : String) : ({} : OrderedMap α).contains k = false := rfl

theorem contains_insert (m : OrderedMap α) (key : String) (value : α) (k : String) :
    (m.insert key value).contains k = (k == key || m.contains k) := by
  rw [contains_eq_isSome, contains_eq_isSome, find?_insert]
  by_cases hk : k = key <;> simp [hk]

theorem contains_erase (m : OrderedMap α) (key k : String) :
    (m.erase key).contains k = (k != key && m.contains k) := by
  rw [Bool.eq_iff_iff]
  simp only [contains, erase, List.any_eq_true, List.mem_filter, Bool.and_eq_true, bne_iff_ne, beq_iff_eq]
  constructor
  · intro h
    obtain ⟨e, ⟨he, hne⟩, rfl⟩ := h
    exact ⟨hne, e, he, rfl⟩
  · intro h
    obtain ⟨hne, e, he, rfl⟩ := h
    exact ⟨e, ⟨he, hne⟩, rfl⟩

/-- Under a key that is kept, a list has the same when others are left out. -/
theorem lookup_filter (p : String → Bool) (l : List (String × α)) (k : String) :
    (l.filter fun e => p e.1).lookup k = if p k then l.lookup k else none := by
  induction l with
  | nil => simp
  | cons e l ih =>
    rw [lookup_cons_eq_ite, List.filter_cons]
    by_cases hk : k = e.1
    · subst hk
      cases hp : p e.1 <;> simp [lookup_cons_eq_ite, ih, hp]
    · cases hp : p e.1 <;> simp [lookup_cons_eq_ite, ih, hk]

theorem find?_erase (m : OrderedMap α) (key k : String) :
    (m.erase key).find? k = if k = key then none else m.find? k := by
  refine (lookup_filter (· != key) m.entries k).trans ?_
  by_cases hk : k = key <;> simp [hk, find?]

/-! ## Entries -/

/-- The key of an entry stands for it. -/
theorem mem_entries_iff {m : OrderedMap α} {e : String × α} : e ∈ m.entries ↔ m.find? e.1 = some e.2 := by
  obtain ⟨l, h⟩ := m
  show e ∈ l ↔ l.lookup e.1 = some e.2
  induction l with
  | nil => simp
  | cons f r ih =>
    obtain ⟨hf, hr⟩ := List.pairwise_cons.1 h
    rw [List.mem_cons, lookup_cons_eq_ite, ih hr]
    by_cases hk : e.1 = f.1
    · have hnone : r.lookup e.1 = none := by
        rw [hk]
        exact lookup_eq_none_of_before hf
      rw [if_pos hk, hnone]
      constructor
      · intro h
        rcases h with rfl | hcontra
        · rfl
        · cases hcontra
      · intro hv
        exact .inl (Prod.ext hk (Option.some.inj hv).symm)
    · rw [if_neg hk]
      constructor
      · intro h
        rcases h with rfl | hv
        · exact absurd rfl hk
        · exact hv
      · exact .inr

theorem eq_of_lookup_eq {l l' : List (String × α)} (h : l.Pairwise fun e f => ByteOrder.before e.1 f.1 = true)
    (h' : l'.Pairwise fun e f => ByteOrder.before e.1 f.1 = true) (heq : ∀ k, l.lookup k = l'.lookup k) : l = l' := by
  induction l generalizing l' with
  | nil =>
    cases l' with
    | nil => rfl
    | cons e' r' =>
      have := heq e'.1
      rw [lookup_cons_eq_ite, if_pos rfl] at this
      cases this
  | cons e r ih =>
    cases l' with
    | nil =>
      have := heq e.1
      rw [lookup_cons_eq_ite, if_pos rfl] at this
      cases this
    | cons e' r' =>
      obtain ⟨he, hr⟩ := List.pairwise_cons.1 h
      obtain ⟨he', hr'⟩ := List.pairwise_cons.1 h'
      -- A first key that comes before the other one would be missing from the other list.
      have first : ∀ {f g : String × α} {s t : List (String × α)},
          (∀ d ∈ t, ByteOrder.before g.1 d.1 = true) → (∀ k, (f :: s).lookup k = (g :: t).lookup k) →
          ByteOrder.before f.1 g.1 = false := by
        intro f g s t ht hst
        rw [Bool.eq_false_iff]
        intro hlt
        have hnone : (g :: t).lookup f.1 = none := by
          apply lookup_eq_none_of_before
          intro d hd
          rcases List.mem_cons.1 hd with rfl | hd
          · exact hlt
          · exact ByteOrder.before_trans hlt (ht d hd)
        rw [← hst, lookup_cons_eq_ite, if_pos rfl] at hnone
        cases hnone
      have hkey : e.1 = e'.1 :=
        ByteOrder.eq_of_not_before (first he' heq) (first he fun k => (heq k).symm)
      have hvalue : e.2 = e'.2 := by
        have := heq e.1
        rw [lookup_cons_eq_ite, if_pos rfl, lookup_cons_eq_ite, if_pos hkey] at this
        exact Option.some.inj this
      have htail : r = r' := by
        refine ih hr hr' fun k => ?_
        by_cases hk : k = e.1
        · rw [hk, lookup_eq_none_of_before he, hkey, lookup_eq_none_of_before he']
        · have := heq k
          rwa [lookup_cons_eq_ite, if_neg hk, lookup_cons_eq_ite, if_neg (hkey ▸ hk)] at this
      rw [Prod.ext hkey hvalue, htail]

/-- A map is determined by what it holds under each key. -/
theorem ext_find? {m n : OrderedMap α} (h : ∀ k, m.find? k = n.find? k) : m = n :=
  ext (eq_of_lookup_eq m.increasing n.increasing h)

/-- Under one key there is one entry at most. -/
theorem filter_entries (m : OrderedMap α) (key : String) :
    m.entries.filter (·.1 = key) = ((m.find? key).map (key, ·)).toList := by
  obtain ⟨l, h⟩ := m
  show l.filter (·.1 = key) = ((l.lookup key).map (key, ·)).toList
  induction l with
  | nil => rfl
  | cons e r ih =>
    obtain ⟨he, hr⟩ := List.pairwise_cons.1 h
    rw [lookup_cons_eq_ite]
    by_cases hk : e.1 = key
    · have hnone : r.lookup key = none := by
        rw [← hk]
        exact lookup_eq_none_of_before he
      rw [List.filter_cons_of_pos (by simpa using hk), ih hr, hnone, if_pos hk.symm, ← hk]
      rfl
    · rw [List.filter_cons_of_neg (by simpa using hk), ih hr, if_neg (Ne.symm hk)]

/-- The map of its own entries is the map. -/
theorem ofEntries_entries (m : OrderedMap α) : ofEntries m.entries = m := by
  obtain ⟨l, h⟩ := m
  refine ext (?_ : (ofEntries l).entries = l)
  induction l with
  | nil => rfl
  | cons e r ih =>
    obtain ⟨he, hr⟩ := List.pairwise_cons.1 h
    show place e.1 _ (ofEntries r).entries = e :: r
    rw [ih hr]
    cases r with
    | nil => rfl
    | cons f r => rw [place, if_pos (he f List.mem_cons_self)]; rfl

/-- Placing under a key that is there changes one entry and leaves those around it. -/
theorem exists_place_eq {key : String} {old : α} {l : List (String × α)}
    (h : l.Pairwise fun e f => ByteOrder.before e.1 f.1 = true) (hold : l.lookup key = some old) :
    ∃ before after, l = before ++ (key, old) :: after ∧ (∀ e ∈ after, e.1 ≠ key)
      ∧ ∀ value, place key value l = before ++ (key, value (some old)) :: after := by
  induction l with
  | nil => cases hold
  | cons e r ih =>
    obtain ⟨he, hr⟩ := List.pairwise_cons.1 h
    rw [lookup_cons_eq_ite] at hold
    by_cases hk : key = e.1
    · rw [if_pos hk] at hold
      obtain rfl : e.2 = old := Option.some.inj hold
      have hself : ByteOrder.before e.1 e.1 = false := ByteOrder.before_irrefl e.1
      refine ⟨[], r, by rw [hk]; rfl, fun f hf hfk => ?_, fun value => ?_⟩
      · have := he f hf
        rw [hfk, hk, hself] at this
        cases this
      · simp [place, hk, hself]
    · rw [if_neg hk] at hold
      obtain ⟨before, after, hr', hafter, hplace⟩ := ih hr hold
      have hmem : (key, old) ∈ r := by
        rw [hr']
        exact List.mem_append_right _ List.mem_cons_self
      have hlt := he _ hmem
      have hgt : ByteOrder.before key e.1 = false := by
        rw [Bool.eq_false_iff]
        intro hgt
        exact absurd (ByteOrder.before_trans hlt hgt) (by rw [ByteOrder.before_irrefl]; exact Bool.false_ne_true)
      refine ⟨e :: before, after, by rw [hr']; rfl, hafter, fun value => ?_⟩
      rw [place, if_neg (by rw [hgt]; exact Bool.false_ne_true), if_pos hlt, hplace]
      rfl

end OrderedMap

end ReadyPin

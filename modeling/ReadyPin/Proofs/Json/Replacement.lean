import Mathlib.Data.List.Forall2
import ReadyPin.Proofs.Json.Lookahead

/-!
# Replacing a value in a text

A reader that contains another one, for a value somewhere inside, can be run with two different readers for that value.
`Swaps` compares the two runs. On a text in which the first reader finds the value at a `Site`, the second one does
the same as far as the site, reads whatever has been put there in place of the value, and goes on with the bytes after
it. So what the outer reader gives for the changed text is what it gave for the original one, with the new value in
the place of the old.

The comparison holds for sequences and loops if it holds for their parts. A strict record keeps it because no member
can come twice: the value that has been found is never read again.
-/

namespace ReadyPin

namespace Reader

variable {ω υ α α' β β' σ σ' : Type}

/-- Where a value stands in a text: the bytes from its beginning on, and those after it. -/
structure Site (read : Reader ω) where
  start : List UInt8
  rest : List UInt8
  value : ω
  reads : read start = .ok (value, rest)

/-- Reads a value and tells where it stands. -/
def located (read : Reader ω) : Reader (Site read) := fun s =>
  match h : read s with
  | .error fault => .error fault
  | .ok (a, t) => .ok (⟨s, t, a, h⟩, t)

variable {read : Reader ω} {read' : Reader υ}

/-- The new bytes from the beginning of a site on begin like the old ones, and a value is read from them that ends
where the old one did. -/
def Site.Fits (site : Site read) (read' : Reader υ) (new : List UInt8) (v : υ) : Prop :=
  new.head? = site.start.head? ∧ read' new = .ok (v, site.rest)

/-- Compares two readers: the first one locates a value, of which `sited` tells the site, and the second one reads with
`read'` in its place and gives the result that `change` makes. Either no site is new in the result of the first, where
it was `held` before; then both take the same bytes. Or there is a new one; then they agree up to it and after it. -/
def Swaps (read' : Reader υ) (sited : α → Option (Site read)) (change : υ → α → α') (held : Option (Site read))
    (r : Reader α) (r' : υ → Reader α') : Prop :=
  ∀ s a t, r s = .ok (a, t) →
    (sited a = held ∧ ∃ p, s = p ++ t
      ∧ ∀ v t', t'.head? = t.head? → r' v (p ++ t') = .ok (change v a, t'))
    ∨ (held = none ∧ ∃ site, sited a = some site ∧ t.length ≤ site.start.length ∧ ∃ p, s = p ++ site.start
      ∧ ∀ v new, site.Fits read' new v → r' v (p ++ new) = .ok (change v a, t))

/-! ## 1. Sequences -/

section Sequences

variable {sited : α → Option (Site read)} {change : υ → α → α'} {held : Option (Site read)}
  {sited₂ : β → Option (Site read)} {change₂ : υ → β → β'}

theorem head?_append_congr {p s t : List UInt8} (h : s.head? = t.head?) : (p ++ s).head? = (p ++ t).head? := by
  cases p with
  | nil => exact h
  | cons b p => rfl

theorem Swaps.shrinks {r : Reader α} {r' : υ → Reader α'} (hr : Swaps read' sited change held r r') : Shrinks r where
  length_le s a t h := by
    rcases hr s a t h with ⟨-, p, rfl, -⟩ | ⟨-, site, -, hlen, p, rfl, -⟩
    · simp
    · rw [List.length_append]
      omega

theorem Swaps.pure {a : α} (h : sited a = held) :
    Swaps read' sited change held (pure a) fun v => pure (change v a) := by
  intro s b t hb
  obtain ⟨rfl, rfl⟩ := pure_eq_ok.mp hb
  exact .inl ⟨h, [], rfl, fun v t' _ => rfl⟩

theorem Swaps.never {r : Reader α} {r' : υ → Reader α'} (h : ∀ s x, r s ≠ .ok x) :
    Swaps read' sited change held r r' := by
  intro s a t ha
  exact absurd ha (h s (a, t))

/-- A reader that has nothing to do with the value. -/
theorem Swaps.same (r : Reader α) [Local r] :
    Swaps read' (fun _ => held) (fun _ a => a) held r fun _ => r := by
  intro s a t ha
  obtain ⟨p, hs, hp⟩ := Local.replays (r := r) s a t ha
  exact .inl ⟨rfl, p, hs, fun _ => hp⟩

/-- The second part may rely on the results that the first one can have. -/
theorem Swaps.bind_of {r : Reader α} {r' : υ → Reader α'} {k : α → Reader β} {k' : υ → α' → Reader β'}
    (hr : Swaps read' sited change held r r')
    (hk : ∀ a s t, r s = .ok (a, t) → Swaps read' sited₂ change₂ (sited a) (k a) fun v => k' v (change v a)) :
    Swaps read' sited₂ change₂ held (r >>= k) fun v => r' v >>= k' v := by
  intro s b u h
  obtain ⟨a, t, ha, hb⟩ := bind_eq_ok.mp h
  have hka := hk a s t ha t b u hb
  rcases hr s a t ha with ⟨hsame, p, rfl, hp⟩ | ⟨hnone, site, hsite, hlen, p, rfl, hp⟩
  · rcases hka with ⟨hsame', q, rfl, hq⟩ | ⟨hnone', site, hsite, hlen, q, rfl, hq⟩
    · refine .inl ⟨hsame'.trans hsame, p ++ q, by simp, fun v u' hu => bind_eq_ok.mpr ?_⟩
      refine ⟨change v a, q ++ u', ?_, hq v u' hu⟩
      rw [List.append_assoc]
      exact hp v _ (head?_append_congr hu)
    · refine .inr ⟨hsame ▸ hnone', site, hsite, hlen, p ++ q, by simp, fun v new hnew => bind_eq_ok.mpr ?_⟩
      refine ⟨change v a, q ++ new, ?_, hq v new hnew⟩
      rw [List.append_assoc]
      exact hp v _ (head?_append_congr hnew.1)
  · rcases hka with ⟨hsame', q, rfl, hq⟩ | ⟨hnone', -⟩
    · have hle : u.length ≤ site.start.length := by
        rw [List.length_append] at hlen
        omega
      exact .inr ⟨hnone, site, hsame'.trans hsite, hle, p, rfl, fun v new hnew =>
        bind_eq_ok.mpr ⟨change v a, q ++ u, hp v new hnew, hq v u rfl⟩⟩
    · rw [hsite] at hnone'
      cases hnone'

theorem Swaps.bind {r : Reader α} {r' : υ → Reader α'} {k : α → Reader β} {k' : υ → α' → Reader β'}
    (hr : Swaps read' sited change held r r')
    (hk : ∀ a, Swaps read' sited₂ change₂ (sited a) (k a) fun v => k' v (change v a)) :
    Swaps read' sited₂ change₂ held (r >>= k) fun v => r' v >>= k' v :=
  hr.bind_of fun a _ _ _ => hk a

theorem Swaps.map {r : Reader α} {r' : υ → Reader α'} {f : α → β} {f' : α' → β'}
    (hr : Swaps read' sited change held r r') (hs : ∀ a, sited₂ (f a) = sited a)
    (hf : ∀ v a, f' (change v a) = change₂ v (f a)) :
    Swaps read' sited₂ change₂ held (f <$> r) fun v => f' <$> r' v := by
  intro s b t hb
  obtain ⟨a, ha, rfl⟩ := map_eq_ok.mp hb
  rcases hr s a t ha with ⟨hsame, p, rfl, hp⟩ | ⟨hnone, site, hsite, hlen, p, rfl, hp⟩
  · exact .inl ⟨(hs a).trans hsame, p, rfl, fun v t' ht => map_eq_ok.mpr ⟨_, hp v t' ht, hf v a⟩⟩
  · exact .inr ⟨hnone, site, (hs a).trans hsite, hlen, p, rfl, fun v new hnew =>
      map_eq_ok.mpr ⟨_, hp v new hnew, hf v a⟩⟩

instance [h : Shrinks read] : Shrinks (located read) where
  length_le s x t hx := by
    simp only [located] at hx
    split at hx
    · cases hx
    · cases hx
      exact h.length_le _ _ _ ‹_›

instance [Shrinks read] : Shrinks (Reader.nullable read) := by
  have : ∀ b : Option UInt8, Shrinks (match b with
      | some b => if b = 0x6E then do nullWord; Pure.pure none else some <$> read
      | none => some <$> read : Reader (Option ω)) := by
    intro b
    cases b with
    | none => infer_instance
    | some b =>
      dsimp only
      split
      · infer_instance
      · infer_instance
  exact inferInstanceAs (Shrinks (next >>= _))

theorem Swaps.located [h : Shrinks read] :
    Swaps read' some (fun v _ => v) none (located read) fun _ => read' := by
  intro s x t hx
  simp only [Reader.located] at hx
  split at hx
  · cases hx
  · rename_i a u ha
    cases hx
    exact .inr ⟨rfl, ⟨s, t, a, ha⟩, rfl, h.length_le s a t ha, [], rfl, fun v new hnew => hnew.2⟩

/-- A value that can be null: then there is no site in it. -/
theorem Swaps.nullable {r : Reader α} {r' : υ → Reader α'} (hr : Swaps read' sited change none r r') :
    Swaps read' (fun o => o.bind sited) (fun v o => o.map (change v)) none (nullable r) fun v => nullable (r' v) := by
  have hread : Swaps read' (fun o : Option α => o.bind sited) (fun v o => o.map (change v)) none (some <$> r)
      fun v => some <$> r' v := hr.map (fun _ => rfl) fun _ _ => rfl
  refine (Swaps.same next).bind fun b => ?_
  cases b with
  | none => exact hread
  | some b =>
    dsimp only
    split
    · exact (Swaps.same nullWord).bind fun _ => .pure rfl
    · exact hread

/-- The next item of a list; the end of the list leaves the site as it is. -/
theorem Swaps.item {r : Reader α} {r' : υ → Reader α'} (hr : Swaps read' sited change held r r') (first : Bool) :
    Swaps read' (fun o => o.elim held sited) (fun v o => o.map (change v)) held (item? r first)
      fun v => item? (r' v) first := by
  have hread : Swaps read' (fun o : Option α => o.elim held sited) (fun v o => o.map (change v)) held (some <$> r)
      fun v => some <$> r' v := hr.map (fun _ => rfl) fun _ _ => rfl
  refine (Swaps.same next).bind fun b => ?_
  cases b with
  | none => exact .never fun _ _ => malformed_ne_ok
  | some b =>
    dsimp only
    split
    · exact (Swaps.same drop).bind fun _ => .pure rfl
    split
    · exact hread
    split
    · refine (Swaps.same drop).bind fun _ => (Swaps.same next).bind fun b => ?_
      cases b with
      | none => exact .never fun _ _ => malformed_ne_ok
      | some b =>
        dsimp only
        split
        · exact .never fun _ _ => malformed_ne_ok
        · exact hread
    · exact .never fun _ _ => malformed_ne_ok

end Sequences

/-! ## 2. Loops -/

section Loops

variable (sited : σ → Option (Site read)) (change : υ → σ → σ') {sited₂ : α → Option (Site read)} {change₂ : υ → α → α'}
  (Keeps : σ → Prop)

/-- A loop keeps the comparison if its steps do. `Keeps` is what the steps may rely on. -/
theorem Swaps.loop {step : σ → Reader (σ ⊕ α)} {step' : σ' → Reader (σ' ⊕ α')}
    (hadv : Advances step) (hadv' : Advances step')
    (hstep : ∀ state, Keeps state → Swaps read' (Sum.elim sited sited₂)
      (fun v => Sum.map (change v) (change₂ v)) (sited state) (step state) fun v => step' (change v state))
    (hkeeps : ∀ state s state' t, Keeps state → step state s = .ok (.inl state', t) → Keeps state')
    (state : σ) (hstate : Keeps state) :
    Swaps read' sited₂ change₂ (sited state) (iterate step state) fun v => iterate step' (change v state) := by
  intro s a u hu
  have hr := (runs_iff hadv).mpr hu
  clear hu
  induction hr with
  | last hend =>
    rcases hstep _ hstate _ _ _ hend with ⟨hsame, p, rfl, hp⟩ | ⟨hnone, site, hsite, hlen, p, rfl, hp⟩
    · exact .inl ⟨hsame, p, rfl, fun v u' hu' => (iterate_eq_ok hadv').mpr (.inl (hp v u' hu'))⟩
    · exact .inr ⟨hnone, site, hsite, hlen, p, rfl, fun v new hnew =>
        (iterate_eq_ok hadv').mpr (.inl (hp v new hnew))⟩
  | @next state state' s t u a hgo _ ih =>
    have hrest := ih (hkeeps state s state' t hstate hgo)
    rcases hstep state hstate s _ t hgo with ⟨hsame, p, rfl, hp⟩ | ⟨hnone, site, hsite, hlen, p, rfl, hp⟩
    · have hsame : sited state' = sited state := hsame
      rcases hrest with ⟨hsame', q, rfl, hq⟩ | ⟨hnone', site, hsite, hlen, q, rfl, hq⟩
      · refine .inl ⟨hsame'.trans hsame, p ++ q, by simp, fun v u' hu' => (iterate_eq_ok hadv').mpr (.inr ?_)⟩
        refine ⟨change v state', q ++ u', ?_, hq v u' hu'⟩
        rw [List.append_assoc]
        exact hp v _ (head?_append_congr hu')
      · refine .inr ⟨hsame ▸ hnone', site, hsite, hlen, p ++ q, by simp, fun v new hnew =>
          (iterate_eq_ok hadv').mpr (.inr ?_)⟩
        refine ⟨change v state', q ++ new, ?_, hq v new hnew⟩
        rw [List.append_assoc]
        exact hp v _ (head?_append_congr hnew.1)
    · have hsite : sited state' = some site := hsite
      rcases hrest with ⟨hsame', q, rfl, hq⟩ | ⟨hnone', -⟩
      · have hle : u.length ≤ site.start.length := by
          rw [List.length_append] at hlen
          omega
        exact .inr ⟨hnone, site, hsame'.trans hsite, hle, p, rfl, fun v new hnew =>
          (iterate_eq_ok hadv').mpr (.inr ⟨change v state', q ++ u, hp v new hnew, hq v u rfl⟩)⟩
      · rw [hsite] at hnone'
        cases hnone'

/-- The members of an object keep the comparison if each of them does. -/
theorem Swaps.ofMembers {step : σ → String → Reader σ} {step' : σ' → String → Reader σ'}
    [∀ state key, Local (step' state key)]
    [∀ state key, Shrinks (step state key)]
    (hstep : ∀ state key, Keeps state →
      Swaps read' sited change (sited state) (step state key) fun v => step' (change v state) key)
    (hkeeps : ∀ state key s state' t, Keeps state → step state key s = .ok (state', t) → Keeps state')
    (start : σ) (hstart : Keeps start) :
    Swaps read' sited change (sited start) (members start step) fun v => members (change v start) step' := by
  refine (Swaps.same drop).bind fun _ => ?_
  refine Swaps.loop (fun state => sited state.2) (fun v state => (state.1, change v state.2))
    (fun state => Keeps state.2) (memberStep_advances step) (memberStep_advances step') ?_ ?_ (true, start) hstart
  · rintro ⟨first, state⟩ hstate
    refine (Swaps.same (key? first)).bind fun key => ?_
    cases key with
    | none => exact .pure rfl
    | some key => exact (hstep state key hstate).bind fun state' => .pure rfl
  · rintro ⟨first, state⟩ s ⟨first', state'⟩ t hstate h
    obtain ⟨key, u, -, h⟩ := bind_eq_ok.mp h
    cases key with
    | none => cases (pure_eq_ok.mp h).1
    | some key =>
      obtain ⟨state'', w, h, hpure⟩ := bind_eq_ok.mp h
      obtain ⟨heq, -⟩ := pure_eq_ok.mp hpure
      cases heq
      exact hkeeps state key u state' w hstate h

end Loops

/-! ## 3. Strict records -/

section Records

variable (read' : Reader υ) (sited : σ → Option (Site read)) (change : υ → σ → σ') (name : String)

/-- Members of two strict records that correspond: under `name` stands the value that is replaced, and the other members
have nothing to do with it. -/
structure Corresponds (slot : Slot σ) (slot' : Slot σ') : Prop where
  key : slot'.key = slot.key
  required : slot'.required = slot.required
  listed : slot'.listed = slot.listed
  take : ∀ before, (slot.key = name → sited before = none) →
    Swaps read' sited change (sited before) (slot.take before) fun v => slot'.take (change v before)
  shrinks : ∀ before, Shrinks (slot.take before)
  keeps : slot.key ≠ name → ∀ before s after t, slot.take before s = .ok (after, t) → sited after = sited before

variable {read' sited change name}

/-- A member that has nothing to do with the value. -/
theorem Corresponds.aside {slot : Slot σ} {slot' : Slot σ'} (r : Reader α) [Local r] (put : σ → α → σ)
    (put' : σ' → α → σ') (htake : ∀ before, slot.take before = r >>= fun v => Pure.pure (put before v))
    (htake' : ∀ before, slot'.take before = r >>= fun v => Pure.pure (put' before v))
    (hkey : slot'.key = slot.key) (hrequired : slot'.required = slot.required) (hlisted : slot'.listed = slot.listed)
    (hsited : ∀ before v, sited (put before v) = sited before)
    (hchange : ∀ w before v, put' (change w before) v = change w (put before v)) :
    Corresponds read' sited change name slot slot' where
  key := hkey
  required := hrequired
  listed := hlisted
  take before _ := by
    simp only [htake, htake']
    refine (Swaps.same r).bind fun v => ?_
    simp only [hchange]
    exact .pure (hsited before v)
  shrinks before := by
    rw [htake]
    infer_instance
  keeps _ before s after t h := by
    rw [htake] at h
    obtain ⟨v, u, -, h⟩ := bind_eq_ok.mp h
    obtain ⟨rfl, -⟩ := pure_eq_ok.mp h
    exact hsited before v

section Aside

variable {key : String} {r : Reader α} [Takes r]

theorem Corresponds.needed {put : σ → α → σ} {put' : σ' → α → σ'}
    (hsited : ∀ before v, sited (put before v) = sited before)
    (hchange : ∀ w before v, put' (change w before) v = change w (put before v)) :
    Corresponds read' sited change name (.needed key r put) (.needed key r put') :=
  .aside r put put' (fun _ => rfl) (fun _ => rfl) rfl rfl rfl hsited hchange

theorem Corresponds.extra {put : σ → α → σ} {put' : σ' → α → σ'}
    (hsited : ∀ before v, sited (put before v) = sited before)
    (hchange : ∀ w before v, put' (change w before) v = change w (put before v)) :
    Corresponds read' sited change name (.extra key r put) (.extra key r put') :=
  .aside r put put' (fun _ => rfl) (fun _ => rfl) rfl rfl rfl hsited hchange

theorem Corresponds.nullable {put : σ → Option α → σ} {put' : σ' → Option α → σ'}
    (hsited : ∀ before v, sited (put before v) = sited before)
    (hchange : ∀ w before v, put' (change w before) v = change w (put before v)) :
    Corresponds read' sited change name (.nullable key r put) (.nullable key r put') :=
  .aside (Reader.nullable r) put put' (fun _ => rfl) (fun _ => rfl) rfl rfl rfl hsited hchange

end Aside

theorem find?_corresponds (P : Slot σ → Bool) (P' : Slot σ' → Bool)
    (hP : ∀ slot slot', Corresponds read' sited change name slot slot' → P' slot' = P slot)
    {slots : List (Slot σ)} {slots' : List (Slot σ')}
    (h : List.Forall₂ (Corresponds read' sited change name) slots slots') :
    Option.Rel (Corresponds read' sited change name) (slots.find? P) (slots'.find? P') := by
  induction h with
  | nil => exact .none
  | @cons slot slot' slots slots' hs _ ih =>
    rw [List.find?_cons, List.find?_cons, hP slot slot' hs]
    cases P slot with
    | true => exact .some hs
    | false => exact ih

/-- Once there is a site, the member that it belongs to has been read. -/
def SiteSeen (sited : σ → Option (Site read)) (name : String) (state : σ × List String) : Prop :=
  sited state.1 ≠ none → name ∈ state.2

theorem Swaps.slot {slots : List (Slot σ)} {slots' : List (Slot σ')}
    (h : List.Forall₂ (Corresponds read' sited change name) slots slots') {state : σ × List String}
    (hseen : SiteSeen sited name state) (key : String) :
    Swaps read' (fun state => sited state.1) (fun v state => (change v state.1, state.2)) (sited state.1)
      (Reader.slot slots state key) fun v => Reader.slot slots' (change v state.1, state.2) key := by
  obtain ⟨before, seen⟩ := state
  have hrel := find?_corresponds (·.key == key) (·.key == key)
    (fun s s' hs => by simp only [hs.key]) h
  unfold Reader.slot
  cases hf : slots.find? (·.key == key) with
  | none =>
    rw [hf] at hrel
    cases hf' : slots'.find? (·.key == key) with
    | some s' =>
      rw [hf'] at hrel
      cases hrel
    | none => exact (Swaps.same colon).bind fun _ => (Swaps.same pass).bind fun _ => .pure rfl
  | some s =>
    rw [hf] at hrel
    cases hf' : slots'.find? (·.key == key) with
    | none =>
      rw [hf'] at hrel
      cases hrel
    | some s' =>
      rw [hf'] at hrel
      obtain ⟨hs⟩ := hrel
      have hkey : s.key = key := by simpa using List.find?_some hf
      dsimp only
      by_cases hmem : seen.contains key = true
      · simp only [if_pos hmem]
        exact .never fun _ _ => mismatched_ne_ok
      · simp only [if_neg hmem]
        refine (Swaps.same colon).bind fun _ => (hs.take before fun hname => ?_).bind fun after => .pure rfl
        by_contra hsite
        have := hseen hsite
        rw [← hname, hkey] at this
        simp [this] at hmem

theorem slot_siteSeen {slots : List (Slot σ)} {slots' : List (Slot σ')}
    (h : List.Forall₂ (Corresponds read' sited change name) slots slots') {state state' : σ × List String}
    (hseen : SiteSeen sited name state) {key : String} {s t : List UInt8}
    (hs : Reader.slot slots state key s = .ok (state', t)) : SiteSeen sited name state' := by
  obtain ⟨before, seen⟩ := state
  have hrel := find?_corresponds (·.key == key) (·.key == key)
    (fun s s' hs => by simp only [hs.key]) h
  unfold Reader.slot at hs
  cases hf : slots.find? (·.key == key) with
  | none =>
    rw [hf] at hs
    obtain ⟨_, t₁, -, hs⟩ := bind_eq_ok.mp hs
    obtain ⟨_, t₂, -, hs⟩ := bind_eq_ok.mp hs
    obtain ⟨rfl, -⟩ := pure_eq_ok.mp hs
    exact hseen
  | some sl =>
    rw [hf] at hs hrel
    have hkey : sl.key = key := by simpa using List.find?_some hf
    dsimp only at hs
    split at hs
    · exact absurd hs mismatched_ne_ok
    · obtain ⟨_, t₁, -, hs⟩ := bind_eq_ok.mp hs
      obtain ⟨after, t₂, htake, hs⟩ := bind_eq_ok.mp hs
      obtain ⟨rfl, -⟩ := pure_eq_ok.mp hs
      intro hsite
      by_cases hname : sl.key = name
      · simp [← hname, hkey]
      · cases hf' : slots'.find? (·.key == key) with
        | none =>
          rw [hf'] at hrel
          cases hrel
        | some sl' =>
          rw [hf'] at hrel
          obtain ⟨hc⟩ := hrel
          rw [hc.keeps hname before t₁ after t₂ htake] at hsite
          exact List.mem_cons_of_mem _ (hseen hsite)

theorem slot_shrinks {slots : List (Slot σ)} {slots' : List (Slot σ')}
    (h : List.Forall₂ (Corresponds read' sited change name) slots slots') (state : σ × List String) (key : String) :
    Shrinks (Reader.slot slots state key) := by
  obtain ⟨before, seen⟩ := state
  have hrel := find?_corresponds (·.key == key) (·.key == key)
    (fun s s' hs => by simp only [hs.key]) h
  unfold Reader.slot
  cases hf : slots.find? (·.key == key) with
  | none => exact inferInstanceAs (Shrinks (colon >>= fun _ => pass >>= fun _ => Pure.pure _))
  | some s =>
    rw [hf] at hrel
    cases hf' : slots'.find? (·.key == key) with
    | none =>
      rw [hf'] at hrel
      cases hrel
    | some s' =>
      rw [hf'] at hrel
      obtain ⟨hs⟩ := hrel
      have := hs.shrinks before
      dsimp only
      split
      · infer_instance
      · infer_instance

theorem Swaps.strictObject {slots : List (Slot σ)} {slots' : List (Slot σ')} [TakesSlots slots']
    (h : List.Forall₂ (Corresponds read' sited change name) slots slots') {start : σ} (hstart : sited start = none) :
    Swaps read' sited change none (Reader.strictObject start slots) fun v =>
      Reader.strictObject (change v start) slots' := by
  have hshrinks := slot_shrinks h
  have hmembers : Swaps read' (fun state => sited state.1) (fun v state => (change v state.1, state.2)) (sited start)
      (Reader.members (start, []) (Reader.slot slots)) fun v =>
        Reader.members (change v start, []) (Reader.slot slots') :=
    Swaps.ofMembers (fun state => sited state.1) (fun v state => (change v state.1, state.2)) (SiteSeen sited name)
      (fun state key hseen => Swaps.slot h hseen key)
      (fun state key s state' t hseen hs => slot_siteSeen h hseen hs) (start, []) fun hsite => absurd hstart hsite
  rw [hstart] at hmembers
  refine hmembers.bind fun state => ?_
  obtain ⟨result, seen⟩ := state
  have hrel := find?_corresponds (fun s => s.required && !seen.contains s.key)
    (fun s => s.required && !seen.contains s.key) (fun s s' hs => by simp only [hs.key, hs.required]) h
  dsimp only
  cases hf : slots.find? fun s => s.required && !seen.contains s.key with
  | some s => exact .never fun _ _ => mismatched_ne_ok
  | none =>
    rw [hf] at hrel
    cases hf' : slots'.find? fun s => s.required && !seen.contains s.key with
    | some s' =>
      rw [hf'] at hrel
      cases hrel
    | none => exact .pure rfl

theorem findIdx?_listed {slots : List (Slot σ)} {slots' : List (Slot σ')}
    (h : List.Forall₂ (Corresponds read' sited change name) slots slots') :
    slots'.findIdx? (·.listed) = slots.findIdx? (·.listed) := by
  induction h with
  | nil => rfl
  | cons hs _ ih => rw [List.findIdx?_cons, List.findIdx?_cons, hs.listed, ih]

theorem eq_of_item? {r : Reader α} {first : Bool} {s t : List UInt8} {a : α} (h : item? r first s = .ok (some a, t)) :
    ∃ s', r s' = .ok (a, t) := by
  have hread : ∀ s', (some <$> r) s' = .ok (some a, t) → ∃ s', r s' = .ok (a, t) := by
    intro s' h
    obtain ⟨a', h, ha⟩ := map_eq_ok.mp h
    exact ⟨s', Option.some.inj ha ▸ h⟩
  obtain ⟨b, u, -, h⟩ := bind_eq_ok.mp h
  cases b with
  | none => exact absurd h malformed_ne_ok
  | some b =>
    dsimp only at h
    split at h
    · obtain ⟨_, w, -, h⟩ := bind_eq_ok.mp h
      cases (pure_eq_ok.mp h).1
    split at h
    · exact hread u h
    split at h
    · obtain ⟨_, w, -, h⟩ := bind_eq_ok.mp h
      obtain ⟨c, x, -, h⟩ := bind_eq_ok.mp h
      cases c with
      | none => exact absurd h malformed_ne_ok
      | some c =>
        dsimp only at h
        split at h
        · exact absurd h malformed_ne_ok
        · exact hread x h
    · exact absurd h malformed_ne_ok

/-- In a list the members stand in the order of the record, so that the value comes only once if the keys differ. -/
theorem Swaps.slots (expected : String) {rest : List (Slot σ)} {rest' : List (Slot σ')}
    (h : List.Forall₂ (Corresponds read' sited change name) rest rest') (hnodup : (rest.map (·.key)).Nodup) :
    ∀ (index : Nat) (before : σ), (sited before ≠ none → name ∉ rest.map (·.key)) →
      Swaps read' sited change (sited before) (Reader.slots expected index before rest) fun v =>
        Reader.slots expected index (change v before) rest' := by
  induction h with
  | nil =>
    intro index before _
    exact (Swaps.same endOfList).bind fun _ => .pure rfl
  | @cons slot slot' rest rest' hs hrest ih =>
    intro index before hbefore
    rw [List.map_cons, List.nodup_cons] at hnodup
    have htake : Swaps read' sited change (sited before) (slot.take before) fun v => slot'.take (change v before) := by
      refine hs.take before fun hname => ?_
      by_contra hsite
      exact hbefore hsite (by simp [hname])
    refine (htake.item (index == 0)).bind_of fun o s t ho => ?_
    cases o with
    | some after =>
      refine ih hnodup.2 (index + 1) after fun hsite hmem => ?_
      by_cases hname : slot.key = name
      · exact hnodup.1 (hname ▸ hmem)
      · obtain ⟨s', htaken⟩ := eq_of_item? ho
        rw [hs.keeps hname before s' after t htaken] at hsite
        exact hbefore hsite (List.mem_cons_of_mem _ hmem)
    | none =>
      have hidx := findIdx?_listed (.cons hs hrest)
      dsimp only [Option.map_none]
      rw [hidx]
      cases (slot :: rest).findIdx? (·.listed) with
      | some i => exact .never fun _ _ => mismatched_ne_ok
      | none => exact .pure rfl

/-- A strict record, as an object or as a list. -/
theorem Swaps.strictRecord {slots : List (Slot σ)} {slots' : List (Slot σ')} [TakesSlots slots']
    (h : List.Forall₂ (Corresponds read' sited change name) slots slots') (hnodup : (slots.map (·.key)).Nodup)
    {start : σ} (hstart : sited start = none) (title : String) (size : Nat) :
    Swaps read' sited change none (Reader.strictRecord title size start slots) fun v =>
      Reader.strictRecord title size (change v start) slots' := by
  refine (Swaps.same kind).bind fun k => ?_
  cases k
  case object => exact Swaps.strictObject h hstart
  case list =>
    refine (Swaps.same drop).bind fun _ => ?_
    have hslots := Swaps.slots s!"struct {title} with {size} elements" h hnodup 0 start
      fun hsite => absurd hstart hsite
    rw [hstart] at hslots
    exact hslots
  all_goals exact .never fun _ _ => unexpected_ne_ok

end Records

end Reader

end ReadyPin

import ReadyPin.Proofs.Json.Lookahead

/-!
# Single steps of the readers

What a step of a reader can do, said once. For each of the steps there is the list of ways in which it succeeds, by
the byte that comes next: `kind_eq_ok` for the kind of a value, `item?_eq_ok` and `key?_eq_ok` for lists and objects.
A whole list is an induction over its `Items`, a whole object one over its `Members`. A kept value is its kind and what
the kind calls for (`kept_eq_ok`).

A value in braces ends with the last of them, so what follows does not matter at all, not even its first byte
(`members_closes`).
-/

namespace ReadyPin

/-- The kind of a value. -/
def Kind.ofJson : Json → Kind
  | .null => .null
  | .bool true => .yes
  | .bool false => .no
  | .number _ => .numeral
  | .string _ => .text
  | .array _ => .list
  | .object _ => .object

theorem Kind.ofByte_null {b : UInt8} : Kind.ofByte b = some .null ↔ b = 0x6E := by
  by_cases hb : b = 0x6E
  · simp [hb, Kind.ofByte]
  · have hne : Kind.ofByte b ≠ some .null := by
      simp only [Kind.ofByte, if_neg hb]
      repeat' split
      all_goals nofun
    simp [hb, hne]

theorem Kind.ofByte_text {b : UInt8} (h : Kind.ofByte b = some .text) : b = 0x22 := by
  unfold Kind.ofByte at h
  repeat' split at h
  all_goals first | assumption | cases h

theorem Kind.ofByte_object {b : UInt8} (h : Kind.ofByte b = some .object) : b = 0x7B := by
  unfold Kind.ofByte at h
  repeat' split at h
  all_goals first | assumption | cases h

namespace Reader

variable {α σ : Type}

/-! ## 1. The next byte -/

theorem next_bind (k : Option UInt8 → Reader α) (s : List UInt8) :
    (next >>= k) s = k (s.dropWhile isBlank).head? (s.dropWhile isBlank) := by
  rfl

theorem next_bind_eq_ok {k : Option UInt8 → Reader α} {s : List UInt8} {x : α × List UInt8} :
    (next >>= k) s = .ok x ↔ k (s.dropWhile isBlank).head? (s.dropWhile isBlank) = .ok x := by
  rfl

theorem drop_bind (r : Reader α) (b : UInt8) (s : List UInt8) : (drop >>= fun _ => r) (b :: s) = r s := by
  rfl

theorem drop_bind_eq_ok {r : Reader α} {b : UInt8} {s : List UInt8} {x : α × List UInt8} :
    (drop >>= fun _ => r) (b :: s) = .ok x ↔ r s = .ok x := by
  rfl

theorem kind_eq_ok {s t : List UInt8} {k : Kind} :
    kind s = .ok (k, t) ↔ ∃ b u, s.dropWhile isBlank = b :: u ∧ Kind.ofByte b = some k ∧ t = b :: u := by
  unfold kind
  rw [next_bind_eq_ok]
  cases s.dropWhile isBlank with
  | nil => simp [malformed]
  | cons b u =>
    cases hb : Kind.ofByte b with
    | none => simp [hb, malformed]
    | some k' =>
      simp only [List.head?_cons, hb]
      rw [pure_eq_ok]
      constructor
      · intro h
        obtain ⟨rfl, rfl⟩ := h
        exact ⟨b, u, rfl, hb, rfl⟩
      · intro h
        obtain ⟨b', u', heq, hk, rfl⟩ := h
        cases heq
        exact ⟨Option.some.inj (hb.symm.trans hk), rfl⟩

theorem dropWhile_dropWhile (s : List UInt8) :
    (s.dropWhile isBlank).dropWhile isBlank = s.dropWhile isBlank := by
  induction s with
  | nil => rfl
  | cons b s ih =>
    by_cases hb : isBlank b = true
    · rw [List.dropWhile_cons_of_pos hb, ih]
    · rw [List.dropWhile_cons_of_neg hb, List.dropWhile_cons_of_neg hb]

/-- Blanks in front of a value are skipped. -/
theorem kind_dropWhile (s : List UInt8) : kind (s.dropWhile isBlank) = kind s := by
  simp only [kind, next, bind, StateT.bind, dropWhile_dropWhile]

/-! ## 2. Lists -/

theorem some_map_eq_ok {read : Reader α} {s t : List UInt8} {o : Option α} :
    (some <$> read) s = .ok (o, t) ↔ ∃ a, o = some a ∧ read s = .ok (a, t) := by
  rw [map_eq_ok]
  constructor
  · intro h
    obtain ⟨a, h, rfl⟩ := h
    exact ⟨a, rfl, h⟩
  · intro h
    obtain ⟨a, rfl, h⟩ := h
    exact ⟨a, h, rfl⟩

/-- After a comma another item follows, and not the end of the list. -/
theorem afterComma_eq_ok {read : Reader α} {s t : List UInt8} {o : Option α} :
    (next >>= fun
      | none => malformed .endInValue
      | some b => if b = 0x5D then malformed .trailingComma else some <$> read : Reader (Option α)) s = .ok (o, t)
      ↔ ∃ b u, s.dropWhile isBlank = b :: u ∧ b ≠ 0x5D ∧ ∃ a, o = some a ∧ read (b :: u) = .ok (a, t) := by
  rw [next_bind_eq_ok]
  cases s.dropWhile isBlank with
  | nil => simp [malformed]
  | cons b u =>
    by_cases hb : b = 0x5D
    · simp [hb, malformed]
    · simp only [List.head?_cons, if_neg hb, some_map_eq_ok]
      constructor
      · intro h
        exact ⟨b, u, rfl, hb, h⟩
      · intro h
        obtain ⟨b', u', heq, -, h⟩ := h
        cases heq
        exact h

theorem item?_eq_ok {read : Reader α} {first : Bool} {s t : List UInt8} {o : Option α} :
    item? read first s = .ok (o, t) ↔ ∃ b u, s.dropWhile isBlank = b :: u ∧
      (b = 0x5D ∧ o = none ∧ t = u
        ∨ b ≠ 0x5D ∧ first = true ∧ (∃ a, o = some a ∧ read (b :: u) = .ok (a, t))
        ∨ b = 0x2C ∧ first = false ∧ ∃ c w, u.dropWhile isBlank = c :: w ∧ c ≠ 0x5D
          ∧ ∃ a, o = some a ∧ read (c :: w) = .ok (a, t)) := by
  unfold item?
  rw [next_bind_eq_ok]
  cases s.dropWhile isBlank with
  | nil => simp [malformed]
  | cons b u =>
    have hsplit : ∀ P : UInt8 → List UInt8 → Prop,
        (∃ b' u', b :: u = b' :: u' ∧ P b' u') ↔ P b u := by
      intro P
      constructor
      · intro h
        obtain ⟨b', u', heq, h⟩ := h
        cases heq
        exact h
      · intro h
        exact ⟨b, u, rfl, h⟩
    rw [hsplit]
    dsimp only [List.head?_cons]
    by_cases hb : b = 0x5D
    · subst hb
      rw [if_pos rfl, drop_bind_eq_ok, pure_eq_ok]
      simp [eq_comm]
    rw [if_neg hb]
    cases first with
    | true => simp [hb, some_map_eq_ok]
    | false =>
      by_cases hc : b = 0x2C
      · subst hc
        rw [if_neg Bool.false_ne_true, if_pos rfl, drop_bind_eq_ok]
        refine Iff.trans afterComma_eq_ok ?_
        simp
      · simp [hb, hc, malformed]

/-- Where an item stands does not depend on how it is read. -/
theorem item?_place {β : Type} {read : Reader α} {first : Bool} {s t : List UInt8} {a : α}
    (h : item? read first s = .ok (some a, t)) : ∃ w, read w = .ok (a, t) ∧
      ∀ (read' : Reader β) (o : Option β) (u : List UInt8),
        item? read' first s = .ok (o, u) ↔ ∃ b, o = some b ∧ read' w = .ok (b, u) := by
  obtain ⟨b, u, hb, ⟨-, ho, -⟩ | ⟨hne, hfirst, a', ha', hread⟩ | ⟨hcomma, hfirst, c, w, hc, hne, a', ha', hread⟩⟩ :=
    item?_eq_ok.mp h
  · cases ho
  · cases ha'
    refine ⟨b :: u, hread, fun read' o u' => item?_eq_ok.trans ⟨?_, ?_⟩⟩
    · intro h
      obtain ⟨b', x, hb', ⟨rfl, -⟩ | ⟨-, -, h⟩ | ⟨-, hfirst', -⟩⟩ := h
      · exact absurd (by simpa [hb] using hb') (fun h : b = 0x5D ∧ u = x => hne h.1)
      · rw [hb] at hb'
        cases hb'
        exact h
      · rw [hfirst] at hfirst'
        cases hfirst'
    · exact fun h => ⟨b, u, hb, .inr (.inl ⟨hne, hfirst, h⟩)⟩
  · cases ha'
    refine ⟨c :: w, hread, fun read' o u' => item?_eq_ok.trans ⟨?_, ?_⟩⟩
    · intro h
      obtain ⟨b', x, hb', ⟨rfl, -⟩ | ⟨-, hfirst', -⟩ | ⟨-, -, c', w', hc', -, h⟩⟩ := h
      · rw [hb, hcomma] at hb'
        cases hb'
      · rw [hfirst] at hfirst'
        cases hfirst'
      · rw [hb] at hb'
        cases hb'
        rw [hc] at hc'
        cases hc'
        exact h
    · exact fun h => ⟨b, u, hb, .inr (.inr ⟨hcomma, hfirst, c, w, hc, hne, h⟩)⟩

/-- Neither does the end of the list. -/
theorem item?_end {β : Type} {read : Reader α} (read' : Reader β) {first : Bool} {s t : List UInt8}
    (h : item? read first s = .ok (none, t)) : item? read' first s = .ok (none, t) := by
  obtain ⟨b, u, hb, ⟨rfl, -, rfl⟩ | ⟨-, -, a, ha, -⟩ | ⟨-, -, c, w, -, -, a, ha, -⟩⟩ := item?_eq_ok.mp h
  · exact item?_eq_ok.mpr ⟨_, _, hb, .inl ⟨rfl, rfl, rfl⟩⟩
  · cases ha
  · cases ha

/-- A step of a list reads one more item, or the closing bracket. -/
theorem itemStep_eq_ok {read : Reader α} {before : List α} {s t : List UInt8} {next : List α ⊕ List α} :
    itemStep read before s = .ok (next, t) ↔
      (next = .inr before.reverse ∧ item? read before.isEmpty s = .ok (none, t))
        ∨ ∃ a, next = .inl (a :: before) ∧ item? read before.isEmpty s = .ok (some a, t) := by
  unfold itemStep
  rw [bind_eq_ok]
  constructor
  · intro h
    obtain ⟨o, u, ho, h⟩ := h
    cases o with
    | none =>
      obtain ⟨rfl, rfl⟩ := pure_eq_ok.mp h
      exact .inl ⟨rfl, ho⟩
    | some a =>
      obtain ⟨rfl, rfl⟩ := pure_eq_ok.mp h
      exact .inr ⟨a, rfl, ho⟩
  · intro h
    rcases h with ⟨rfl, ho⟩ | ⟨a, rfl, ho⟩
    · exact ⟨none, t, ho, rfl⟩
    · exact ⟨some a, t, ho, rfl⟩

/-- The items that follow in a list, up to the bracket that closes it. -/
inductive Items (read : Reader α) : Bool → List UInt8 → List α → List UInt8 → Prop where
  | last {first : Bool} {s t : List UInt8} : item? read first s = .ok (none, t) → Items read first s [] t
  | more {first : Bool} {s t u : List UInt8} {a : α} {as : List α} : item? read first s = .ok (some a, t) →
      Items read false t as u → Items read first s (a :: as) u

theorem runs_itemStep {read : Reader α} {before : List α} {s u : List UInt8} {xs : List α} :
    Runs (itemStep read) before s xs u ↔ ∃ as, xs = before.reverse ++ as ∧ Items read before.isEmpty s as u := by
  constructor
  · intro h
    induction h with
    | last hend =>
      rcases itemStep_eq_ok.mp hend with ⟨hxs, hnone⟩ | ⟨a, hcontra, -⟩
      · cases hxs
        exact ⟨[], by simp, .last hnone⟩
      · cases hcontra
    | next hgo _ ih =>
      rcases itemStep_eq_ok.mp hgo with ⟨hcontra, -⟩ | ⟨a, hstate, hsome⟩
      · cases hcontra
      · cases hstate
        obtain ⟨as, rfl, has⟩ := ih
        exact ⟨a :: as, by simp, .more hsome has⟩
  · intro h
    obtain ⟨as, rfl, has⟩ := h
    generalize hfirst : before.isEmpty = first at has
    induction has generalizing before with
    | last hnone =>
      rw [← hfirst] at hnone
      rw [List.append_nil]
      exact .last (itemStep_eq_ok.mpr (.inl ⟨rfl, hnone⟩))
    | @more _ _ _ _ a as hsome _ ih =>
      rw [← hfirst] at hsome
      have hrest := @ih (a :: before) rfl
      rw [List.reverse_cons, List.append_assoc] at hrest
      exact .next (itemStep_eq_ok.mpr (.inr ⟨a, rfl, hsome⟩)) hrest

theorem items_eq_ok {read : Reader α} [Takes read] {s t : List UInt8} {xs : List α} :
    items read s = .ok (xs, t) ↔ Items read true (s.drop 1) xs t := by
  refine (runs_iff (itemStep_advances read)).symm.trans (runs_itemStep.trans ?_)
  simp

/-! ## 3. Objects -/

theorem colon_eq_ok {s t : List UInt8} : colon s = .ok ((), t) ↔ s.dropWhile isBlank = 0x3A :: t := by
  unfold colon
  rw [next_bind_eq_ok]
  cases s.dropWhile isBlank with
  | nil => simp [malformed]
  | cons b u =>
    by_cases hb : b = 0x3A
    · simp [hb, drop]
    · simp [hb, malformed]

/-- After a comma another key follows, and not the end of the object. -/
theorem keyAfterComma_eq_ok {s t : List UInt8} {o : Option String} :
    (next >>= fun
      | none => malformed .endInValue
      | some b =>
        if b = 0x22 then some <$> text
        else if b = 0x7D then malformed .trailingComma
        else malformed .keyNotString : Reader (Option String)) s = .ok (o, t)
      ↔ ∃ u, s.dropWhile isBlank = 0x22 :: u ∧ ∃ key, o = some key ∧ text (0x22 :: u) = .ok (key, t) := by
  rw [next_bind_eq_ok]
  cases s.dropWhile isBlank with
  | nil => simp [malformed]
  | cons b u =>
    by_cases hb : b = 0x22
    · simp only [hb, List.head?_cons, if_pos, some_map_eq_ok]
      simp
    · by_cases hc : b = 0x7D <;> simp [hb, hc, malformed]

theorem key?_eq_ok {first : Bool} {s t : List UInt8} {o : Option String} :
    key? first s = .ok (o, t) ↔
      (s.dropWhile isBlank = 0x7D :: t ∧ o = none)
      ∨ (first = true ∧ ∃ u, s.dropWhile isBlank = 0x22 :: u ∧ ∃ key, o = some key ∧ text (0x22 :: u) = .ok (key, t))
      ∨ (first = false ∧ ∃ w, s.dropWhile isBlank = 0x2C :: w
        ∧ ∃ u, w.dropWhile isBlank = 0x22 :: u ∧ ∃ key, o = some key ∧ text (0x22 :: u) = .ok (key, t)) := by
  unfold key?
  rw [next_bind_eq_ok]
  cases s.dropWhile isBlank with
  | nil => simp [malformed]
  | cons b u =>
    dsimp only [List.head?_cons]
    by_cases hb : b = 0x7D
    · subst hb
      rw [if_pos rfl, drop_bind_eq_ok, pure_eq_ok]
      simp [eq_comm, and_comm]
    rw [if_neg hb]
    cases first with
    | true =>
      by_cases hq : b = 0x22
      · simp only [hq, if_true, some_map_eq_ok]
        simp
      · simp [hb, hq, malformed]
    | false =>
      by_cases hc : b = 0x2C
      · subst hc
        rw [if_neg Bool.false_ne_true, if_pos rfl, drop_bind_eq_ok]
        refine Iff.trans keyAfterComma_eq_ok ?_
        simp
      · simp [hb, hc, malformed]

/-- A step of an object reads one more member, or the closing brace. -/
theorem memberStep_eq_ok {step : σ → String → Reader σ} {first : Bool} {before : σ} {s t : List UInt8}
    {next : (Bool × σ) ⊕ σ} :
    memberStep step (first, before) s = .ok (next, t) ↔
      (next = .inr before ∧ key? first s = .ok (none, t))
        ∨ ∃ key after u, next = .inl (false, after) ∧ key? first s = .ok (some key, u)
          ∧ step before key u = .ok (after, t) := by
  unfold memberStep
  rw [bind_eq_ok]
  constructor
  · intro h
    obtain ⟨o, u, ho, h⟩ := h
    cases o with
    | none =>
      obtain ⟨rfl, rfl⟩ := pure_eq_ok.mp h
      exact .inl ⟨rfl, ho⟩
    | some key =>
      obtain ⟨after, w, hstep, h⟩ := bind_eq_ok.mp h
      obtain ⟨rfl, rfl⟩ := pure_eq_ok.mp h
      exact .inr ⟨key, after, u, rfl, ho, hstep⟩
  · intro h
    rcases h with ⟨rfl, ho⟩ | ⟨key, after, u, rfl, ho, hstep⟩
    · exact ⟨none, t, ho, rfl⟩
    · exact ⟨some key, u, ho, bind_eq_ok.mpr ⟨after, t, hstep, rfl⟩⟩

/-- What comes of the members that follow in an object, up to the brace that closes it. -/
inductive Members (step : σ → String → Reader σ) : Bool → σ → List UInt8 → σ → List UInt8 → Prop where
  | last {first : Bool} {before : σ} {s t : List UInt8} : key? first s = .ok (none, t) →
      Members step first before s before t
  | more {first : Bool} {before after result : σ} {s t u w : List UInt8} {key : String} :
      key? first s = .ok (some key, t) → step before key t = .ok (after, u) →
      Members step false after u result w → Members step first before s result w

theorem runs_memberStep {step : σ → String → Reader σ} {first : Bool} {before result : σ} {s u : List UInt8} :
    Runs (memberStep step) (first, before) s result u ↔ Members step first before s result u := by
  constructor
  · intro h
    generalize hstate : (first, before) = state at h
    induction h generalizing first before with
    | last hend =>
      subst hstate
      rcases memberStep_eq_ok.mp hend with ⟨hresult, hnone⟩ | ⟨key, after, w, hcontra, -⟩
      · cases hresult
        exact .last hnone
      · cases hcontra
    | next hgo _ ih =>
      subst hstate
      rcases memberStep_eq_ok.mp hgo with ⟨hcontra, -⟩ | ⟨key, after, w, hnext, hkey, hmember⟩
      · cases hcontra
      · cases hnext
        exact .more hkey hmember (ih rfl)
  · intro h
    induction h with
    | last hnone => exact .last (memberStep_eq_ok.mpr (.inl ⟨rfl, hnone⟩))
    | more hkey hmember _ ih => exact .next (memberStep_eq_ok.mpr (.inr ⟨_, _, _, rfl, hkey, hmember⟩)) ih

theorem members_eq_ok {step : σ → String → Reader σ} [∀ before key, Local (step before key)] {start result : σ}
    {s t : List UInt8} :
    members start step s = .ok (result, t) ↔ Members step true start (s.drop 1) result t :=
  (runs_iff (memberStep_advances step)).symm.trans runs_memberStep

/-! ## 4. Kept values -/

/-- What is kept of a value whose kind is known. -/
def keptOf (depth : Nat) : Kind → Reader Json
  | .null => do nullWord; pure .null
  | .yes => do trueWord; pure (.bool true)
  | .no => do falseWord; pure (.bool false)
  | .numeral => .number <$> Numeral.read
  | .text => .string <$> text
  | .list =>
    match depth with
    | 0 => malformed .nestedTooDeep
    | depth + 1 => .array <$> items (kept depth)
  | .object =>
    match depth with
    | 0 => malformed .nestedTooDeep
    | depth + 1 => (fun ms => .object ms.reverse) <$> members [] (keptMember (kept depth))

theorem kept_eq (depth : Nat) : kept depth = kind >>= keptOf depth := by
  cases depth <;> rfl

/-- Blanks in front of a value are skipped. -/
theorem kept_dropWhile (depth : Nat) (s : List UInt8) : kept depth (s.dropWhile isBlank) = kept depth s := by
  simp only [kept_eq, bind, StateT.bind, kind_dropWhile]

/-- How a value is kept, by the value. -/
def KeptAs (depth : Nat) (s t : List UInt8) : Json → Prop
  | .null => nullWord s = .ok ((), t)
  | .bool true => trueWord s = .ok ((), t)
  | .bool false => falseWord s = .ok ((), t)
  | .number n => Numeral.read s = .ok (n, t)
  | .string x => text s = .ok (x, t)
  | .array vs => ∃ d, depth = d + 1 ∧ items (kept d) s = .ok (vs, t)
  | .object ms => ∃ d, depth = d + 1 ∧ members [] (keptMember (kept d)) s = .ok (ms.reverse, t)

theorem word_then_eq_ok {r : Reader Unit} {w v : Json} {s t : List UInt8} :
    (do r; pure w : Reader Json) s = .ok (v, t) ↔ w = v ∧ r s = .ok ((), t) := by
  rw [bind_eq_ok]
  constructor
  · intro h
    obtain ⟨⟨⟩, u, hr, h⟩ := h
    obtain ⟨rfl, rfl⟩ := pure_eq_ok.mp h
    exact ⟨rfl, hr⟩
  · intro h
    obtain ⟨rfl, hr⟩ := h
    exact ⟨(), t, hr, rfl⟩

theorem keptAs_of_keptOf {depth : Nat} {k : Kind} {s t : List UInt8} {v : Json} (h : keptOf depth k s = .ok (v, t)) :
    k = Kind.ofJson v ∧ KeptAs depth s t v := by
  cases k
  case null | yes | no =>
    obtain ⟨rfl, hr⟩ := word_then_eq_ok.mp h
    exact ⟨rfl, hr⟩
  case numeral | text =>
    obtain ⟨a, ha, rfl⟩ := map_eq_ok.mp h
    exact ⟨rfl, ha⟩
  case list =>
    cases depth with
    | zero => cases h
    | succ d =>
      obtain ⟨vs, hvs, rfl⟩ := map_eq_ok.mp h
      exact ⟨rfl, d, rfl, hvs⟩
  case object =>
    cases depth with
    | zero => cases h
    | succ d =>
      obtain ⟨ms, hms, rfl⟩ := map_eq_ok.mp h
      exact ⟨rfl, d, rfl, by rwa [List.reverse_reverse]⟩

theorem keptOf_of_keptAs {depth : Nat} {s t : List UInt8} {v : Json} (h : KeptAs depth s t v) :
    keptOf depth (Kind.ofJson v) s = .ok (v, t) := by
  cases v with
  | null => exact word_then_eq_ok.mpr ⟨rfl, h⟩
  | bool b => cases b <;> exact word_then_eq_ok.mpr ⟨rfl, h⟩
  | number n => exact map_eq_ok.mpr ⟨n, h, rfl⟩
  | string x => exact map_eq_ok.mpr ⟨x, h, rfl⟩
  | array vs =>
    obtain ⟨d, rfl, hvs⟩ := h
    exact map_eq_ok.mpr ⟨vs, hvs, rfl⟩
  | object ms =>
    obtain ⟨d, rfl, hms⟩ := h
    exact map_eq_ok.mpr ⟨ms.reverse, hms, by rw [List.reverse_reverse]⟩

/-- A value is kept by its kind. -/
theorem kept_eq_ok {depth : Nat} {s t : List UInt8} {v : Json} :
    kept depth s = .ok (v, t) ↔ ∃ u, kind s = .ok (Kind.ofJson v, u) ∧ KeptAs depth u t v := by
  rw [kept_eq, bind_eq_ok]
  constructor
  · intro h
    obtain ⟨k, u, hk, hv⟩ := h
    obtain ⟨rfl, has⟩ := keptAs_of_keptOf hv
    exact ⟨u, hk, has⟩
  · intro h
    obtain ⟨u, hk, has⟩ := h
    exact ⟨Kind.ofJson v, u, hk, keptOf_of_keptAs has⟩

theorem keptMember_eq_ok {value : Reader Json} {before after : List (String × Json)} {key : String}
    {s t : List UInt8} :
    keptMember value before key s = .ok (after, t) ↔
      ∃ u v, colon s = .ok ((), u) ∧ value u = .ok (v, t) ∧ after = (key, v) :: before := by
  unfold keptMember
  rw [bind_eq_ok]
  constructor
  · intro h
    obtain ⟨_, u, hcolon, h⟩ := h
    obtain ⟨v, w, hv, h⟩ := bind_eq_ok.mp h
    obtain ⟨rfl, rfl⟩ := pure_eq_ok.mp h
    exact ⟨u, v, hcolon, hv, rfl⟩
  · intro h
    obtain ⟨u, v, hcolon, hv, rfl⟩ := h
    exact ⟨(), u, hcolon, bind_eq_ok.mpr ⟨v, t, hv, rfl⟩⟩

/-! ## 5. The closing brace -/

/-- What is read is told by the taken bytes alone, of which there is one at least. -/
def Closes (r : Reader α) : Prop :=
  ∀ s a t, r s = .ok (a, t) → ∃ p, p ≠ [] ∧ s = p ++ t ∧ ∀ t', r (p ++ t') = .ok (a, t')

theorem Closes.never {r : Reader α} (h : ∀ s x, r s ≠ .ok x) : Closes r :=
  fun s a t ha => absurd ha (h s (a, t))

theorem Closes.map {β : Type} {r : Reader α} (h : Closes r) (f : α → β) : Closes (f <$> r) := by
  intro s b t hb
  obtain ⟨a, ha, rfl⟩ := map_eq_ok.mp hb
  obtain ⟨p, hne, rfl, hp⟩ := h s a t ha
  exact ⟨p, hne, rfl, fun t' => map_eq_ok.mpr ⟨a, hp t', rfl⟩⟩

/-- What comes before may look at the first byte of the rest. -/
theorem Closes.after {β : Type} {r : Reader α} [Local r] {k : α → Reader β} (h : ∀ a, Closes (k a)) :
    Closes (r >>= k) := by
  intro s b u hb
  obtain ⟨a, t, ha, hb⟩ := bind_eq_ok.mp hb
  obtain ⟨q, hne, rfl, hq⟩ := h a t b u hb
  obtain ⟨p, rfl, hp⟩ := Local.replays (r := r) s a _ ha
  refine ⟨p ++ q, by simp [hne], by simp, fun u' => bind_eq_ok.mpr ⟨a, q ++ u', ?_, hq u'⟩⟩
  obtain ⟨c, w, rfl⟩ := List.exists_cons_of_ne_nil hne
  rw [List.append_assoc]
  exact hp _ rfl

/-- The end of an object is told by its brace. -/
theorem key?_closes {first : Bool} {s t : List UInt8} (h : key? first s = .ok (none, t)) :
    ∃ p, p ≠ [] ∧ s = p ++ t ∧ ∀ t', key? first (p ++ t') = .ok (none, t') := by
  rcases key?_eq_ok.mp h with ⟨hbrace, -⟩ | ⟨-, u, -, key, hcontra, -⟩ | ⟨-, w, -, u, -, key, hcontra, -⟩
  · refine ⟨s.takeWhile isBlank ++ [0x7D], by simp, ?_, fun t' => ?_⟩
    · rw [List.append_assoc, List.singleton_append, ← hbrace, List.takeWhile_append_dropWhile]
    · have hdrop : (s.takeWhile isBlank ++ [0x7D] ++ t').dropWhile isBlank = 0x7D :: t' := by
        rw [List.append_assoc]
        refine (takeWhile_append_eq ?_).2
        rw [hbrace]
        rfl
      exact key?_eq_ok.mpr (.inl ⟨hdrop, rfl⟩)
  · cases hcontra
  · cases hcontra

theorem runs_memberStep_closes {step : σ → String → Reader σ} [∀ before key, Local (step before key)]
    {state : Bool × σ} {s t : List UInt8} {a : σ} (h : Runs (memberStep step) state s a t) :
    ∃ p, p ≠ [] ∧ s = p ++ t ∧ ∀ t', Runs (memberStep step) state (p ++ t') a t' := by
  induction h with
  | last hend =>
    rcases memberStep_eq_ok.mp hend with ⟨hresult, hnone⟩ | ⟨key, after, u, hcontra, -⟩
    · obtain ⟨p, hne, rfl, hp⟩ := key?_closes hnone
      exact ⟨p, hne, rfl, fun t' => .last (memberStep_eq_ok.mpr (.inl ⟨hresult, hp t'⟩))⟩
    · cases hcontra
  | @next state state' s u t a hgo _ ih =>
    obtain ⟨q, hne, rfl, hq⟩ := ih
    obtain ⟨p, rfl, hp⟩ := Local.replays (r := memberStep step state) s _ _ hgo
    obtain ⟨c, w, rfl⟩ := List.exists_cons_of_ne_nil hne
    refine ⟨p ++ c :: w, by simp, by simp, fun t' => .next ?_ (hq t')⟩
    rw [List.append_assoc]
    exact hp _ rfl

/-- The members of an object end with its brace. -/
theorem members_closes (start : σ) (step : σ → String → Reader σ) [∀ before key, Local (step before key)] :
    Closes (members start step) := by
  refine .after fun _ => ?_
  intro s a t h
  obtain ⟨p, hne, hs, hp⟩ := runs_memberStep_closes ((runs_iff (memberStep_advances step)).mpr h)
  exact ⟨p, hne, hs, fun t' => (runs_iff (memberStep_advances step)).mp (hp t')⟩

end Reader

end ReadyPin

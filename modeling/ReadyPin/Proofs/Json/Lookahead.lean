import ReadyPin.Json.StrictRecord

/-!
# How far a reader looks

A reader sees all the bytes that are left, but what it does depends on few of them: those that it takes, and the
first one after them. `Replays` says so. If the bytes after the taken ones are exchanged for others with the same
first byte, the same is read and the others are left. So a text can be changed in one place, and what is read in
front of that place stays what it was.

One byte of lookahead is needed because blanks, digits and the parts of a numeral end where a byte of another kind
comes. Every reader is built from a few that look further by `next` only, and sequences, loops and case
distinctions keep the property. A loop is bounded by the bytes that are left; `Runs` has its steps without the bound.
-/

namespace ReadyPin

namespace Reader

variable {ε α β σ : Type}

/-! ## 1. When a sequence succeeds -/

theorem pure_eq_ok {s u : List UInt8} {a b : α} :
    (pure a : Reader α) s = .ok (b, u) ↔ a = b ∧ s = u := by
  show Except.ok (a, s) = _ ↔ _
  simp

theorem bind_eq_ok {r : Reader α} {k : α → Reader β} {s u : List UInt8} {b : β} :
    (r >>= k) s = .ok (b, u) ↔ ∃ a t, r s = .ok (a, t) ∧ k a t = .ok (b, u) := by
  cases h : r s with
  | error fault => simp [bind, StateT.bind, Except.bind, h]
  | ok pair =>
    obtain ⟨a, t⟩ := pair
    simp only [bind, StateT.bind, Except.bind, h, Except.ok.injEq, Prod.mk.injEq]
    constructor
    · intro hk
      exact ⟨a, t, ⟨rfl, rfl⟩, hk⟩
    · intro h
      obtain ⟨a', t', ⟨rfl, rfl⟩, hk⟩ := h
      exact hk

theorem map_eq_ok {r : Reader α} {f : α → β} {s u : List UInt8} {b : β} :
    (f <$> r) s = .ok (b, u) ↔ ∃ a, r s = .ok (a, u) ∧ f a = b := by
  cases h : r s with
  | error fault => simp [Functor.map, StateT.map, bind, Except.bind, h]
  | ok pair =>
    obtain ⟨a, t⟩ := pair
    simp only [Functor.map, StateT.map, bind, Except.bind, h, pure, Except.pure, Except.ok.injEq, Prod.mk.injEq]
    constructor
    · intro h
      obtain ⟨rfl, rfl⟩ := h
      exact ⟨a, ⟨rfl, rfl⟩, rfl⟩
    · intro h
      obtain ⟨a', ⟨rfl, rfl⟩, rfl⟩ := h
      exact ⟨rfl, rfl⟩

theorem malformed_ne_ok {cause : Malformed} {s : List UInt8} {x : α × List UInt8} :
    (malformed cause : Reader α) s ≠ .ok x := nofun

theorem mismatched_ne_ok {cause : Mismatch} {s : List UInt8} {x : α × List UInt8} :
    (mismatched cause : Reader α) s ≠ .ok x := nofun

theorem unexpected_ne_ok {kind : Kind} {expected : String} {s : List UInt8} {x : α × List UInt8} :
    (unexpected kind expected : Reader α) s ≠ .ok x := by
  intro h
  obtain ⟨f, t, -, h⟩ := bind_eq_ok.mp h
  exact mismatched_ne_ok h

/-! ## 2. The bytes that are taken -/

/-- What is read and how much of the bytes is taken depends on the taken bytes and the next one. -/
def Replays (f : List UInt8 → Except ε (α × List UInt8)) : Prop :=
  ∀ s a t, f s = .ok (a, t) →
    ∃ p, s = p ++ t ∧ ∀ t', t'.head? = t.head? → f (p ++ t') = .ok (a, t')

theorem replays_pure (a : α) : Replays (ε := ε) fun s => .ok (a, s) := by
  intro s b t h
  cases h
  exact ⟨[], rfl, fun t' _ => rfl⟩

theorem replays_error (e : ε) : Replays (α := α) fun _ => .error e := by
  intro s b t h
  cases h

theorem Replays.bind {f : List UInt8 → Except ε (α × List UInt8)}
    {k : α → List UInt8 → Except ε (β × List UInt8)} (hf : Replays f) (hk : ∀ a, Replays (k a)) :
    Replays fun s => f s >>= fun x => k x.1 x.2 := by
  intro s b u h
  cases hs : f s with
  | error e =>
    simp only [hs] at h
    cases h
  | ok x =>
    obtain ⟨a, t⟩ := x
    simp only [hs] at h
    obtain ⟨p, rfl, hp⟩ := hf s a t hs
    obtain ⟨q, rfl, hq⟩ := hk a t b u h
    refine ⟨p ++ q, by simp, fun u' hu => ?_⟩
    have ht : (q ++ u').head? = (q ++ u).head? := by
      cases q with
      | nil => simpa using hu
      | cons c q => rfl
    simp only [List.append_assoc, hp _ ht]
    exact hq u' hu

theorem Replays.length_le {f : List UInt8 → Except ε (α × List UInt8)} (hf : Replays f) {s t : List UInt8} {a : α}
    (h : f s = .ok (a, t)) : t.length ≤ s.length := by
  obtain ⟨p, rfl, -⟩ := hf s a t h
  simp

/-- At least one byte is taken if there is any. -/
def Shortens (f : List UInt8 → Except ε (α × List UInt8)) : Prop :=
  ∀ s a t, s ≠ [] → f s = .ok (a, t) → t.length < s.length

theorem Shortens.bind {f : List UInt8 → Except ε (α × List UInt8)}
    {k : α → List UInt8 → Except ε (β × List UInt8)} (hf : Shortens f) (hk : ∀ a, Replays (k a)) :
    Shortens fun s => f s >>= fun x => k x.1 x.2 := by
  intro s b u hs h
  cases hfs : f s with
  | error e =>
    simp only [hfs] at h
    cases h
  | ok x =>
    simp only [hfs] at h
    exact Nat.lt_of_le_of_lt ((hk x.1).length_le h) (hf s x.1 x.2 hs hfs)

theorem Shortens.after {f : List UInt8 → Except ε (α × List UInt8)}
    {k : α → List UInt8 → Except ε (β × List UInt8)} (hf : Replays f) (hk : ∀ a, Shortens (k a))
    (hk' : ∀ a, Replays (k a)) : Shortens fun s => f s >>= fun x => k x.1 x.2 := by
  intro s b u hs h
  cases hfs : f s with
  | error e =>
    simp only [hfs] at h
    cases h
  | ok x =>
    simp only [hfs] at h
    have hle := hf.length_le hfs
    have hpos := List.length_pos_iff.mpr hs
    by_cases ht : x.2 = []
    · have hu := (hk' x.1).length_le h
      simp only [ht, List.length_nil] at hu
      omega
    · have hlt := hk x.1 x.2 b u ht h
      omega

/-- The shape of an optional part: the first byte says whether it is there. -/
theorem replays_marked {P : UInt8 → Prop} [DecidablePred P] {k : List UInt8 → Except ε (α × List UInt8)}
    (hk : Replays k) (missing : α) : Replays fun s =>
      match s with
      | b :: r => if P b then k r else .ok (missing, s)
      | [] => .ok (missing, []) := by
  intro s x t h
  cases s with
  | nil =>
    cases h
    refine ⟨[], rfl, fun t' ht => ?_⟩
    obtain rfl : t' = [] := by simpa using ht
    rfl
  | cons b r =>
    by_cases hb : P b
    · simp only [if_pos hb] at h
      obtain ⟨p, rfl, hr⟩ := hk r x t h
      exact ⟨b :: p, rfl, fun t' ht => by simpa [hb] using hr t' ht⟩
    · simp only [if_neg hb] at h
      cases h
      refine ⟨[], rfl, fun t' ht => ?_⟩
      cases t' with
      | nil => simp at ht
      | cons c t' =>
        obtain rfl : c = b := by simpa using ht
        simp [hb]

/-- The shape of a sign: a look at the first byte, which is taken in some cases. -/
theorem replays_sign (g : Option UInt8 → α) (taken : Option UInt8 → Bool) :
    Replays (ε := ε) fun s => .ok (g s.head?, if taken s.head? then s.drop 1 else s) := by
  intro s x t h
  cases s with
  | nil =>
    obtain ⟨rfl, rfl⟩ : g none = x ∧ [] = t := by simpa using h
    refine ⟨[], rfl, fun t' ht => ?_⟩
    obtain rfl : t' = [] := by simpa using ht
    simp
  | cons b r =>
    by_cases hb : taken (some b) = true
    · simp only [List.head?_cons, hb, if_true] at h
      cases h
      exact ⟨[b], rfl, fun t' ht => by simp [hb]⟩
    · simp only [List.head?_cons, hb] at h
      cases h
      refine ⟨[], rfl, fun t' ht => ?_⟩
      have ht : t'.head? = some b := ht
      simp [ht, hb]

theorem takeWhile_append_eq {f : UInt8 → Bool} {s t : List UInt8} (h : t.head? = (s.dropWhile f).head?) :
    (s.takeWhile f ++ t).takeWhile f = s.takeWhile f ∧ (s.takeWhile f ++ t).dropWhile f = t := by
  induction s with
  | nil =>
    obtain rfl : t = [] := by simpa using h
    simp
  | cons b s ih =>
    by_cases hb : f b = true
    · rw [List.dropWhile_cons_of_pos hb] at h
      simpa [hb] using ih h
    · rw [List.dropWhile_cons_of_neg hb] at h
      cases t with
      | nil => simp at h
      | cons c t =>
        obtain rfl : c = b := by simpa using h
        simp [hb]

end Reader

/-! ## 3. Numerals -/

namespace Numeral

open Reader

theorem someDigits_replays (atEnd : Malformed) : Replays (someDigits atEnd) := by
  intro s ds t h
  cases s with
  | nil => cases h
  | cons b s =>
    simp only [someDigits] at h
    split at h
    · rename_i hb
      obtain ⟨rfl, rfl⟩ : (digits (b :: s)).1 = ds ∧ (digits (b :: s)).2 = t := by
        simpa [Prod.ext_iff] using Except.ok.inj h
      refine ⟨(b :: s).takeWhile isDigit, List.takeWhile_append_dropWhile.symm, fun t' ht => ?_⟩
      obtain ⟨htake, hdrop⟩ := takeWhile_append_eq ht
      have hcons : (b :: s).takeWhile isDigit ++ t' = b :: (s.takeWhile isDigit ++ t') := by simp [hb]
      rw [hcons] at htake hdrop ⊢
      simp only [someDigits, if_pos hb, digits, htake, hdrop]
    · cases h

theorem noLeadingZero_replays (ds : List Nat) : Replays (noLeadingZero ds) := by
  unfold noLeadingZero
  split
  · exact replays_error _
  · exact replays_pure _

theorem wholePart_replays (atEnd : Malformed) : Replays (wholePart atEnd) :=
  (someDigits_replays atEnd).bind noLeadingZero_replays

theorem fractionPart_replays (atEnd : Malformed) : Replays (fractionPart atEnd) :=
  replays_marked ((someDigits_replays atEnd).bind fun ds => replays_pure (some ds)) none

theorem exponentPart_replays (atEnd : Malformed) : Replays (exponentPart atEnd) :=
  replays_marked ((replays_sign (· == some 0x2D) (·.any fun b => b == 0x2B || b == 0x2D)).bind fun negative =>
    (someDigits_replays atEnd).bind fun ds => replays_pure (some (negative, ds))) none

theorem afterWhole_replays (atEnd : Malformed) (negative : Bool) (whole : List Nat) :
    Replays fun s => (do
      let (fraction, s) ← fractionPart atEnd s
      let (exponent, s) ← exponentPart atEnd s
      .ok (⟨negative, whole, fraction, exponent⟩, s) : Except Malformed (Numeral × List UInt8)) :=
  (fractionPart_replays atEnd).bind fun _ => (exponentPart_replays atEnd).bind fun _ => replays_pure _

theorem scan_replays (atEnd : Malformed) : Replays (scan atEnd) :=
  (replays_sign (· == some 0x2D) (· == some 0x2D)).bind fun negative =>
    (wholePart_replays atEnd).bind fun whole => afterWhole_replays atEnd negative whole

theorem read_replays : Replays read := by
  intro s x t h
  simp only [read] at h
  split at h
  · cases h
  · rename_i n u hs
    obtain ⟨p, rfl, hp⟩ := scan_replays .endInValue s n u hs
    split at h
    · cases h
    · rename_i v hv
      cases h
      exact ⟨p, rfl, fun t' ht => by simp only [read, hp t' ht, hv]⟩

theorem pass_replays : Replays pass := by
  intro s x t h
  simp only [pass] at h
  split at h
  · cases h
  · rename_i n u hs
    obtain ⟨p, rfl, hp⟩ := scan_replays .invalidNumber s n u hs
    cases h
    exact ⟨p, rfl, fun t' ht => by simp only [pass, hp t' ht]⟩

theorem someDigits_shortens (atEnd : Malformed) : Shortens (someDigits atEnd) := by
  intro s ds t hs h
  cases s with
  | nil => cases h
  | cons b s =>
    simp only [someDigits] at h
    split at h
    · rename_i hb
      have ht : s.dropWhile isDigit = t := by
        simpa [digits, hb] using congrArg Prod.snd (Except.ok.inj h)
      have hle := (List.dropWhile_suffix (p := isDigit) (l := s)).length_le
      rw [ht] at hle
      simpa using Nat.lt_succ_of_le hle
    · cases h

theorem wholePart_shortens (atEnd : Malformed) : Shortens (wholePart atEnd) :=
  (someDigits_shortens atEnd).bind noLeadingZero_replays

theorem scan_shortens (atEnd : Malformed) : Shortens (scan atEnd) :=
  .after (replays_sign (· == some 0x2D) (· == some 0x2D))
    (fun negative => (wholePart_shortens atEnd).bind fun whole => afterWhole_replays atEnd negative whole)
    (fun negative => (wholePart_replays atEnd).bind fun whole => afterWhole_replays atEnd negative whole)

theorem read_shortens : Shortens read := by
  intro s x t hne h
  simp only [read] at h
  split at h
  · cases h
  · rename_i n u hs
    split at h
    · cases h
    · cases h
      exact scan_shortens .endInValue s n t hne hs

theorem pass_shortens : Shortens pass := by
  intro s x t hne h
  simp only [pass] at h
  split at h
  · cases h
  · rename_i n u hs
    cases h
    exact scan_shortens .invalidNumber s n t hne hs

end Numeral

namespace Reader

variable {ε α β σ : Type}

/-! ## 4. Readers -/

/-- What a reader does depends on the bytes that it takes and the next one. -/
class Local (r : Reader α) : Prop where
  replays : Replays r

/-- The same, and it takes at least one byte if there is any. -/
class Takes (r : Reader α) : Prop extends Local r where
  shortens : Shortens r

/-- No bytes are put back in front of those that are left. -/
class Shrinks (r : Reader α) : Prop where
  length_le : ∀ s a t, r s = .ok (a, t) → t.length ≤ s.length

section Instances

variable {r r' : Reader α} {k : α → Reader β} {f : α → β}

instance [h : Local r] : Shrinks r := ⟨fun _ _ _ => h.replays.length_le⟩

instance [h : Shrinks r] [hk : ∀ a, Shrinks (k a)] : Shrinks (r >>= k) where
  length_le s b u hs := by
    obtain ⟨a, t, ha, hb⟩ := bind_eq_ok.mp hs
    exact Nat.le_trans ((hk a).length_le t b u hb) (h.length_le s a t ha)

instance [h : Shrinks r] : Shrinks (f <$> r) where
  length_le s b u hs := by
    obtain ⟨a, ha, -⟩ := map_eq_ok.mp hs
    exact h.length_le s a u ha

instance (a : α) : Local (pure a : Reader α) := ⟨replays_pure a⟩

instance [Local r] [∀ a, Local (k a)] : Local (r >>= k) :=
  ⟨Local.replays.bind fun _ => Local.replays⟩

instance [Local r] : Local (f <$> r) :=
  ⟨(Local.replays (r := r)).bind fun a => replays_pure (f a)⟩

instance {c : Prop} [Decidable c] [Local r] [Local r'] : Local (if c then r else r') := by
  split <;> assumption

instance [Takes r] : Takes (f <$> r) :=
  ⟨(Takes.shortens (r := r)).bind fun a => replays_pure (f a)⟩

instance {c : Prop} [Decidable c] [Takes r] [Takes r'] : Takes (if c then r else r') := by
  split <;> assumption

theorem Local.bind [Local r] (h : ∀ a, Local (k a)) : Local (r >>= k) := inferInstance

/-- A sequence takes a byte if its first part does. -/
theorem Takes.bind [Takes r] (h : ∀ a, Local (k a)) : Takes (r >>= k) :=
  ⟨Shortens.bind Takes.shortens fun _ => Local.replays⟩

/-- A sequence takes a byte if its second part does. -/
theorem Takes.after [Local r] (h : ∀ a, Takes (k a)) : Takes (r >>= k) :=
  ⟨Shortens.after Local.replays (fun _ => Takes.shortens) fun _ => Local.replays⟩

instance [Takes r] [h : ∀ a, Local (k a)] : Takes (r >>= k) := .bind h

/-- A reader that never succeeds. -/
theorem Takes.never (h : ∀ s x, r s ≠ .ok x) : Takes r where
  replays s a t hs := absurd hs (h s (a, t))
  shortens s a t _ hs := absurd hs (h s (a, t))

end Instances

instance (cause : Malformed) : Takes (malformed cause : Reader α) := .never fun _ _ => malformed_ne_ok

instance (cause : Mismatch) : Takes (mismatched cause : Reader α) := .never fun _ _ => mismatched_ne_ok

instance (kind : Kind) (expected : String) : Takes (unexpected kind expected : Reader α) :=
  .never fun _ _ => unexpected_ne_ok

instance : Local next where
  replays s b t h := by
    obtain ⟨rfl, rfl⟩ : (s.dropWhile isBlank).head? = b ∧ s.dropWhile isBlank = t := by
      simpa [next] using h
    refine ⟨s.takeWhile isBlank, List.takeWhile_append_dropWhile.symm, fun t' ht => ?_⟩
    simp [next, (takeWhile_append_eq ht).2, ht]

instance : Takes drop where
  replays := replays_sign (fun _ => ()) fun _ => true
  shortens s a t hne h := by
    obtain rfl : s.drop 1 = t := by simpa [drop] using h
    cases s with
    | nil => exact absurd rfl hne
    | cons b s => simp

instance wordLocal (w : List UInt8) : Local (word w) where
  replays := by
    induction w with
    | nil => exact replays_pure ()
    | cons b w ih =>
      intro s a t h
      cases s with
      | nil => cases h
      | cons c s =>
        simp only [word] at h
        split at h
        · rename_i hc
          obtain ⟨p, rfl, hp⟩ := ih s a t h
          exact ⟨c :: p, rfl, fun t' ht => by simpa [word, hc] using hp t' ht⟩
        · cases h

instance (b : UInt8) (w : List UInt8) : Takes (word (b :: w)) where
  shortens s a t _ h := by
    cases s with
    | nil => cases h
    | cons c s =>
      simp only [word] at h
      split at h
      · exact Nat.lt_succ_of_le ((wordLocal w).replays.length_le h)
      · cases h

instance : Takes nullWord := inferInstanceAs (Takes (word _))

instance : Takes trueWord := inferInstanceAs (Takes (word _))

instance : Takes falseWord := inferInstanceAs (Takes (word _))

instance : Takes Numeral.read where
  replays := Numeral.read_replays
  shortens := Numeral.read_shortens

instance : Takes Numeral.pass where
  replays := Numeral.pass_replays
  shortens := Numeral.pass_shortens

section Instances

variable {k : Option UInt8 → Reader α}

theorem Local.onNext (hn : Local (k none)) (hs : ∀ b, Local (k (some b))) : Local (next >>= k) :=
  .bind fun b => b.casesOn hn hs

theorem Takes.onNext (hn : Takes (k none)) (hs : ∀ b, Takes (k (some b))) : Takes (next >>= k) :=
  .after fun b => b.casesOn hn hs

end Instances

instance : Local kind := by
  unfold kind
  refine .onNext ?_ fun b => ?_
  · infer_instance
  · cases hb : Kind.ofByte b <;> simp only [hb] <;> infer_instance

/-! ## 5. Strings -/

/-- Whole bytes are taken from the front, whatever comes after them. -/
def Cuts (f : List UInt8 → Except ε (α × List UInt8)) (s : List UInt8) (x : Except ε (α × List UInt8)) : Prop :=
  ∀ a t, x = .ok (a, t) → ∃ p, p ≠ [] ∧ s = p ++ t ∧ ∀ t', f (p ++ t') = .ok (a, t')

theorem Cuts.error {f : List UInt8 → Except ε (α × List UInt8)} {s : List UInt8} {e : ε} :
    Cuts f s (.error e) := by
  intro a t h
  cases h

theorem Cuts.step {f g : List UInt8 → Except ε (α × List UInt8)} {s : List UInt8}
    {x : Except ε (α × List UInt8)} (piece : List UInt8) (hf : ∀ t, f (piece ++ t) = g t) (h : Cuts g s x) :
    Cuts f (piece ++ s) x := by
  intro a t hs
  obtain ⟨p, hp, rfl, hg⟩ := h a t hs
  refine ⟨piece ++ p, by simp [hp], by simp, fun t' => ?_⟩
  rw [List.append_assoc, hf, hg]

theorem textBytes_cuts (before s : List UInt8) : Cuts (textBytes before) s (textBytes before s) := by
  fun_induction textBytes before s
  case case2 before s =>
    intro bytes t h
    cases h
    exact ⟨[0x22], by simp, rfl, fun t' => by rw [List.singleton_append, textBytes.eq_def]; rfl⟩
  case case4 before b s hq hc he ih =>
    refine ih.step [b] fun t => ?_
    rw [List.singleton_append, textBytes.eq_def]
    simp [hq, hc, he]
  case case6 before b hq hc he e s c hesc ih =>
    refine ih.step [b, e] fun t => ?_
    rw [textBytes.eq_def]
    simp [hq, hc, he, hesc]
  case case15 before b hq hc he e hesc hu h₁ h₂ h₃ h₄ n hn hnt hl p hp u hpu t₁ t₂ t₃ t₄ s m hm hmt ih =>
    refine ih.step [b, e, h₁, h₂, h₃, h₄, p, u, t₁, t₂, t₃, t₄] fun t => ?_
    rw [textBytes.eq_def]
    simp [hq, hc, he, hesc, hu, hn, hnt, hl, hp, hpu, hm, hmt]
  case case18 before b hq hc he e hesc hu h₁ h₂ h₃ h₄ s n hn hnt hl ih =>
    refine ih.step [b, e, h₁, h₂, h₃, h₄] fun t => ?_
    rw [textBytes.eq_def]
    simp [hq, hc, he, hesc, hu, hn, hnt, hl]
  all_goals exact Cuts.error

/-- `passText` in the shape of a reader. -/
def passTail (s : List UInt8) : Except Fault (Unit × List UInt8) := (passText s).map fun t => ((), t)

theorem passTail_cuts (s : List UInt8) : Cuts passTail s (passTail s) := by
  unfold passTail
  fun_induction passText s
  case case2 s =>
    intro a t h
    cases h
    refine ⟨[0x22], by simp, rfl, fun t' => ?_⟩
    rw [List.singleton_append]
    simp only [passText.eq_def (0x22 :: t')]
    rfl
  case case4 b s hq hc he ih =>
    refine ih.step [b] fun t => ?_
    rw [List.singleton_append, passText.eq_def]
    simp [hq, hc, he]
  case case6 b hq hc he e s hesc ih =>
    refine ih.step [b, e] fun t => ?_
    rw [List.cons_append, passText.eq_def]
    simp [hq, hc, he, hesc]
  case case8 b hq hc he e hesc hu h₁ h₂ h₃ h₄ s hn ih =>
    refine ih.step [b, e, h₁, h₂, h₃, h₄] fun t => ?_
    rw [List.cons_append, passText.eq_def]
    simp [hq, hc, he, hesc, hu, hn]
  all_goals exact Cuts.error

/-- A reader that drops a quote and takes whole bytes after it. -/
theorem Takes.quoted {r : Reader α} (h : ∀ s a t, r s = .ok (a, t) →
    ∃ p, p ≠ [] ∧ s.drop 1 = p ++ t ∧ ∀ b t', r (b :: (p ++ t')) = .ok (a, t')) : Takes r where
  replays s a t hs := by
    obtain ⟨p, hp, hd, hr⟩ := h s a t hs
    cases s with
    | nil => simp [hp] at hd
    | cons b s =>
      obtain rfl : s = p ++ t := hd
      exact ⟨b :: p, rfl, fun t' _ => hr b t'⟩
  shortens s a t _ hs := by
    obtain ⟨p, hp, hd, -⟩ := h s a t hs
    have hlen := congrArg List.length hd
    have hpos := List.length_pos_iff.mpr hp
    rw [List.length_drop, List.length_append] at hlen
    omega

instance : Takes text := by
  refine .quoted fun s a t h => ?_
  simp only [text] at h
  split at h
  · cases h
  · rename_i bytes u hb
    obtain ⟨p, hp, hd, hcut⟩ := textBytes_cuts [] (s.drop 1) bytes u hb
    split at h <;> cases h
    rename_i hu
    exact ⟨p, hp, hd, fun b t' => by simp only [text, List.drop_succ_cons, List.drop_zero, hcut t', hu]⟩

instance : Takes passString := by
  refine .quoted fun s a t h => ?_
  have hs : ∀ s, passString s = passTail (s.drop 1) := by
    intro s
    simp only [passString, passTail]
    cases passText (s.drop 1) <;> rfl
  rw [hs] at h
  obtain ⟨p, hp, hd, hcut⟩ := passTail_cuts (s.drop 1) a t h
  exact ⟨p, hp, hd, fun b t' => by rw [hs]; exact hcut t'⟩

/-! ## 6. Loops -/

/-- Every step that does not end the loop takes a byte. -/
def Advances (step : σ → Reader (σ ⊕ α)) : Prop :=
  ∀ state s state' t, step state s = .ok (.inl state', t) → t.length < s.length

theorem iterateWithin_eq (step : σ → Reader (σ ⊕ α)) (bound : List UInt8) (state : σ) (s : List UInt8) :
    iterateWithin step bound state s =
      match step state s with
      | .error fault => .error fault
      | .ok (.inr result, t) => .ok (result, t)
      | .ok (.inl state', t) =>
        match bound with
        | [] => .error (.malformed .endInValue)
        | _ :: bound => iterateWithin step bound state' t := by
  rw [iterateWithin.eq_def]
  dsimp only
  cases step state s with
  | error fault => rfl
  | ok x =>
    obtain ⟨state' | result, t⟩ := x
    · cases bound <;> rfl
    · rfl

/-- Two bounds that both suffice give the same. -/
theorem iterateWithin_congr {step : σ → Reader (σ ⊕ α)} (h : Advances step) :
    ∀ (bound bound' : List UInt8) (state : σ) (s : List UInt8), s.length ≤ bound.length →
      s.length ≤ bound'.length → iterateWithin step bound state s = iterateWithin step bound' state s := by
  intro bound
  induction bound with
  | nil =>
    intro bound' state s hs _
    rw [iterateWithin_eq, iterateWithin_eq step bound']
    cases hstep : step state s with
    | error fault => rfl
    | ok x =>
      obtain ⟨state' | result, t⟩ := x
      · have ht := h state s state' t hstep
        simp only [List.length_nil] at hs
        omega
      · rfl
  | cons b bound ih =>
    intro bound' state s hs hs'
    rw [iterateWithin_eq, iterateWithin_eq step bound']
    cases hstep : step state s with
    | error fault => rfl
    | ok x =>
      obtain ⟨state' | result, t⟩ := x
      · have ht := h state s state' t hstep
        cases bound' with
        | nil =>
          simp only [List.length_nil] at hs'
          omega
        | cons b' bound' =>
          simp only [List.length_cons] at hs hs'
          exact ih bound' state' t (by omega) (by omega)
      · rfl

/-- A loop is its first step and, unless that ends it, the loop from there on. -/
theorem iterate_eq {step : σ → Reader (σ ⊕ α)} (h : Advances step) (state : σ) (s : List UInt8) :
    iterate step state s =
      match step state s with
      | .error fault => .error fault
      | .ok (.inl state', t) => iterate step state' t
      | .ok (.inr result, t) => .ok (result, t) := by
  rw [iterate, iterateWithin_eq]
  cases hstep : step state s with
  | error fault => rfl
  | ok x =>
    obtain ⟨state' | result, t⟩ := x
    · have ht := h state s state' t hstep
      cases s with
      | nil => simp at ht
      | cons b s => exact iterateWithin_congr h s t state' t (by simpa using Nat.le_of_lt_succ ht) (Nat.le_refl _)
    · rfl

/-- A loop goes on after a step, or ends with it. -/
theorem iterate_eq_ok {step : σ → Reader (σ ⊕ α)} (h : Advances step) {state : σ} {s u : List UInt8} {a : α} :
    iterate step state s = .ok (a, u) ↔
      step state s = .ok (.inr a, u)
        ∨ ∃ state' t, step state s = .ok (.inl state', t) ∧ iterate step state' t = .ok (a, u) := by
  rw [iterate_eq h]
  cases hstep : step state s with
  | error fault => simp
  | ok x =>
    obtain ⟨state' | result, t⟩ := x
    · constructor
      · intro hu
        exact .inr ⟨state', t, rfl, hu⟩
      · intro h
        rcases h with hend | ⟨state'', t', hstep', hu⟩
        · cases hend
        · cases hstep'
          exact hu
    · simp

/-- What a loop comes to, step by step. -/
inductive Runs (step : σ → Reader (σ ⊕ α)) : σ → List UInt8 → α → List UInt8 → Prop where
  | last {state : σ} {s u : List UInt8} {a : α} : step state s = .ok (.inr a, u) → Runs step state s a u
  | next {state state' : σ} {s t u : List UInt8} {a : α} : step state s = .ok (.inl state', t) →
      Runs step state' t a u → Runs step state s a u

theorem runs_iff {step : σ → Reader (σ ⊕ α)} (h : Advances step) {state : σ} {s u : List UInt8} {a : α} :
    Runs step state s a u ↔ iterate step state s = .ok (a, u) := by
  constructor
  · intro hr
    induction hr with
    | last hend => exact (iterate_eq_ok h).mpr (.inl hend)
    | next hstep _ ih => exact (iterate_eq_ok h).mpr (.inr ⟨_, _, hstep, ih⟩)
  · -- A loop goes on only as long as it takes bytes, so this is along their number.
    induction hn : s.length using Nat.strongRecOn generalizing state s with
    | ind n ih =>
      intro hu
      rcases (iterate_eq_ok h).mp hu with hend | ⟨state', t, hstep, hrest⟩
      · exact .last hend
      · have ht := h state s state' t hstep
        exact .next hstep (ih t.length (by omega) rfl hrest)

theorem iterate_local {step : σ → Reader (σ ⊕ α)} (h : Advances step) (hl : ∀ state, Local (step state))
    (state : σ) : Local (iterate step state) := by
  refine ⟨fun s a u hu => ?_⟩
  have hr := (runs_iff h).mpr hu
  clear hu
  induction hr with
  | @last state s u a hend =>
    obtain ⟨p, rfl, hp⟩ := (hl state).replays s _ u hend
    exact ⟨p, rfl, fun u' hu' => (iterate_eq_ok h).mpr (.inl (hp u' hu'))⟩
  | @next state state' s t u a hstep _ ih =>
    obtain ⟨q, rfl, hq⟩ := ih
    obtain ⟨p, rfl, hp⟩ := (hl state).replays s _ _ hstep
    refine ⟨p ++ q, by simp, fun u' hu' => ?_⟩
    have hhead : (q ++ u').head? = (q ++ u).head? := by
      cases q with
      | nil => simpa using hu'
      | cons c q => rfl
    rw [List.append_assoc]
    exact (iterate_eq_ok h).mpr (.inr ⟨state', q ++ u', hp _ hhead, hq u' hu'⟩)

theorem iterate_takes {step : σ → Reader (σ ⊕ α)} (h : Advances step) (hl : ∀ state, Local (step state))
    {state : σ} (ht : Takes (step state)) : Takes (iterate step state) where
  replays := (iterate_local h hl state).replays
  shortens s a u hne hs := by
    rcases (iterate_eq_ok h).mp hs with hend | ⟨state', t, hstep, hrest⟩
    · exact ht.shortens s _ u hne hend
    · exact Nat.lt_of_le_of_lt ((iterate_local h hl state').replays.length_le hrest)
        (h state s state' t hstep)

theorem advances_of_takes {step : σ → Reader (σ ⊕ α)} (h : ∀ state, Takes (step state))
    (hnil : ∀ state x, step state [] ≠ .ok x) : Advances step := by
  intro state s state' t hstep
  cases s with
  | nil => exact absurd hstep (hnil state _)
  | cons b s => exact (h state).shortens _ _ _ nofun hstep

/-! ## 7. Lists and objects -/

instance {read : Reader α} [Takes read] (first : Bool) : Takes (item? read first) := by
  unfold item?
  refine .onNext inferInstance fun b => ?_
  dsimp only
  split
  · infer_instance
  split
  · infer_instance
  split
  · exact .bind fun _ => .onNext inferInstance fun _ => by dsimp only; infer_instance
  · infer_instance

instance itemStepTakes {read : Reader α} [Takes read] (before : List α) : Takes (itemStep read before) := by
  unfold itemStep
  exact .bind fun a => by cases a <;> infer_instance

theorem itemStep_advances (read : Reader α) [Takes read] : Advances (itemStep read) :=
  advances_of_takes inferInstance fun _ _ => nofun

instance {read : Reader α} [Takes read] : Takes (items read) :=
  .bind fun _ => iterate_local (itemStep_advances read) inferInstance []

instance : Takes colon := by
  unfold colon
  exact .onNext inferInstance fun _ => by dsimp only; infer_instance

instance (first : Bool) : Takes (key? first) := by
  unfold key?
  refine .onNext inferInstance fun b => ?_
  dsimp only
  split
  · infer_instance
  split
  · infer_instance
  split
  · exact .bind fun _ => .onNext inferInstance fun _ => by dsimp only; infer_instance
  · infer_instance

instance memberStepTakes {step : σ → String → Reader σ} [h : ∀ read key, Local (step read key)] (state : Bool × σ) :
    Takes (memberStep step state) := by
  unfold memberStep
  exact .bind fun key => by cases key <;> infer_instance

theorem memberStep_advances (step : σ → String → Reader σ) [∀ read key, Shrinks (step read key)] :
    Advances (memberStep step) := by
  intro state s state' t h
  obtain ⟨key, u, hkey, h⟩ := bind_eq_ok.mp h
  have hlt : u.length < s.length := by
    cases s with
    | nil => cases hkey
    | cons b s => exact Takes.shortens _ _ _ nofun hkey
  cases key with
  | none => cases (pure_eq_ok.mp h).1
  | some key =>
    obtain ⟨read, w, hstep, h⟩ := bind_eq_ok.mp h
    obtain ⟨-, rfl⟩ := pure_eq_ok.mp h
    exact Nat.lt_of_le_of_lt (Shrinks.length_le _ _ _ hstep) hlt

instance {start : σ} {step : σ → String → Reader σ} [∀ read key, Local (step read key)] :
    Takes (members start step) :=
  .bind fun _ => iterate_local (memberStep_advances step) inferInstance (true, start)

/-! ## 8. Values of any kind -/

instance {list object : Reader Json} [Takes list] [Takes object] : Takes (keptBy list object) := by
  unfold keptBy
  exact .after fun k => by cases k <;> infer_instance

instance {value : Reader Json} [Local value] (before : List (String × Json)) (key : String) :
    Local (keptMember value before key) :=
  inferInstanceAs (Local (colon >>= fun _ => value >>= fun _ => pure _))

instance keptTakes (depth : Nat) : Takes (kept depth) := by
  induction depth with
  | zero => exact inferInstanceAs (Takes (keptBy (malformed _) (malformed _)))
  | succ depth ih => exact inferInstanceAs (Takes (keptBy (_ <$> items _) (_ <$> members _ _)))

instance (bracket : Bracket) : Local (passKey bracket) := by
  unfold passKey
  cases bracket with
  | square => infer_instance
  | curly => exact .onNext inferInstance fun _ => by dsimp only; infer_instance

instance (bracket : Bracket) (outer : List Bracket) : Takes (passOpening bracket outer) := by
  unfold passOpening
  exact .bind fun _ => .onNext inferInstance fun _ => by dsimp only; infer_instance

instance passValueTakes (brackets : List Bracket) : Takes (passStep (.value, brackets)) := by
  unfold passStep
  exact .after fun k => by cases k <;> infer_instance

instance passCommaTakes (bracket : Bracket) (outer : List Bracket) : Takes (passStep (.comma, bracket :: outer)) := by
  unfold passStep
  exact .onNext inferInstance fun _ => by dsimp only; infer_instance

instance passStepLocal (state : Passing × List Bracket) : Local (passStep state) := by
  obtain ⟨_ | _, brackets⟩ := state
  · exact (passValueTakes brackets).toLocal
  · cases brackets with
    | nil => exact inferInstanceAs (Local (pure _))
    | cons bracket outer => exact (passCommaTakes bracket outer).toLocal

theorem passStep_advances : Advances passStep := by
  rintro ⟨_ | _, brackets⟩ s state' t h
  · cases s with
    | nil => cases h
    | cons b s => exact (passValueTakes brackets).shortens _ _ _ nofun h
  · cases brackets with
    | nil => cases h
    | cons bracket outer =>
      cases s with
      | nil => cases h
      | cons b s => exact (passCommaTakes bracket outer).shortens _ _ _ nofun h

instance : Takes pass := iterate_takes passStep_advances inferInstance (passValueTakes [])

/-! ## 9. Typed values -/

instance (expected : String) : Takes (textAs expected) := by
  unfold textAs
  exact .after fun k => by cases k <;> infer_instance

instance : Takes flag := by
  unfold flag
  exact .after fun k => by cases k <;> infer_instance

instance (expected : String) (least greatest : Int) : Takes (integer expected least greatest) := by
  unfold integer
  refine .after fun k => ?_
  cases k
  case numeral => exact .bind fun n => by cases n <;> infer_instance
  all_goals infer_instance

instance {read : Reader α} [Takes read] : Takes (nullable read) := by
  unfold nullable
  exact .onNext inferInstance fun _ => by dsimp only; infer_instance

instance {read : Reader α} [Takes read] : Takes (list read) := by
  unfold list
  exact .after fun k => by cases k <;> infer_instance

instance {expected : String} {start : σ} {step : σ → String → Reader σ} [∀ read key, Local (step read key)] :
    Takes (object expected start step) := by
  unfold object
  exact .after fun k => by cases k <;> infer_instance

end Reader

/-! ## 10. Records -/

open Reader

section Records

variable {α σ : Type}

instance (expected : String) : Takes (Source.textAs expected) := inferInstanceAs (Takes (textAs expected))

instance : Takes Source.text := inferInstanceAs (Takes (textAs _))

instance : Takes Source.flag := inferInstanceAs (Takes flag)

instance (expected : String) (least greatest : Int) : Takes (Source.integer expected least greatest) :=
  inferInstanceAs (Takes (integer expected least greatest))

instance : Takes Source.int64 := inferInstanceAs (Takes (integer _ _ _))

instance : Takes Source.word16 := inferInstanceAs (Takes (integer _ _ _))

instance (outside : Nat) : Takes (Source.kept outside) :=
  inferInstanceAs (Takes (kept (maxDepth - outside) >>= fun _ => pure ()))

instance {read : Reader α} [Takes read] : Takes (Source.nullable read) := inferInstanceAs (Takes (nullable read))

instance {read : Reader α} [Takes read] : Takes (Source.list read) := inferInstanceAs (Takes (list read))

instance {cause : Mismatch} : Takes (Source.reject cause : Reader α) := inferInstanceAs (Takes (mismatched cause))

instance sourceObjectTakes {expected : String} {start : σ} {step : σ → String → Reader σ}
    [h : ∀ read key, Local (step read key)] : Takes (Source.object expected start step) :=
  inferInstanceAs (Takes (object expected start step))

instance : Takes Source.timestamp := by
  unfold Source.timestamp
  exact .bind fun t => by cases Timestamp.check t <;> infer_instance

instance {read : Reader α} [Takes read] : Takes (Source.mapOf read) := by
  unfold Source.mapOf
  infer_instance

instance : Takes Source.textMap := inferInstanceAs (Takes (Source.mapOf _))

/-- All members of a record are read with one byte of lookahead. -/
class LocalFields (fields : List (Field Reader σ)) : Prop where
  take : ∀ field ∈ fields, ∀ before, Local (field.take before)

instance : LocalFields (σ := σ) [] := ⟨nofun⟩

instance {field : Field Reader σ} {fields : List (Field Reader σ)} [h : ∀ before, Local (field.take before)]
    [hs : LocalFields fields] : LocalFields (field :: fields) where
  take := by
    intro f hf before
    rcases List.mem_cons.mp hf with rfl | hf
    · exact h before
    · exact hs.take f hf before

instance (key : String) (read : Reader α) [Takes read] (put : σ → Option α → σ) (before : σ) :
    Local ((Field.optional key read put).take before) :=
  inferInstanceAs (Local (nullable read >>= fun v => pure (put before v)))

instance (key : String) (read : Reader α) [Takes read] (before : σ) : Local ((Field.typed key read).take before) :=
  inferInstanceAs (Local (nullable read >>= fun _ => pure before))

instance (key value : String) (before : σ) : Local ((Field.constant key value : Field Reader σ).take before) := by
  unfold Field.constant
  infer_instance

instance (read : Reader α) [Takes read] (keys : List String) : LocalFields (σ := σ) (Field.each read keys) where
  take := by
    intro field hfield before
    obtain ⟨key, -, rfl⟩ := List.mem_map.mp hfield
    infer_instance

instance {fields more : List (Field Reader σ)} [h : LocalFields fields] [h' : LocalFields more] :
    LocalFields (fields ++ more) where
  take field hfield := (List.mem_append.mp hfield).elim (h.take field) (h'.take field)

instance {expected : String} {start : σ} {fields : List (Field Reader σ)} [h : LocalFields fields] :
    Takes (Source.record expected start fields) := by
  refine sourceObjectTakes (h := fun read key => ?_)
  cases hf : fields.find? (·.key == key) with
  | some field => exact h.take field (List.mem_of_find?_eq_some hf) read
  | none => exact inferInstanceAs (Local (pass >>= fun _ => pure read))

instance {expected : String} {fields : List (Field Reader Unit)} [LocalFields fields] :
    Takes (Source.shape expected fields) := inferInstanceAs (Takes (Source.record _ _ _))

end Records

namespace Reader

variable {α σ : Type}

/-- All members of a strict record are read with one byte of lookahead, and take at least one. -/
class TakesSlots (slots : List (Slot σ)) : Prop where
  take : ∀ slot ∈ slots, ∀ before, Takes (slot.take before)

instance : TakesSlots (σ := σ) [] := ⟨nofun⟩

instance {slot : Slot σ} {slots : List (Slot σ)} [h : ∀ before, Takes (slot.take before)] [hs : TakesSlots slots] :
    TakesSlots (slot :: slots) where
  take := by
    intro s hmem before
    rcases List.mem_cons.mp hmem with rfl | hmem
    · exact h before
    · exact hs.take s hmem before

instance {slots more : List (Slot σ)} [h : TakesSlots slots] [h' : TakesSlots more] : TakesSlots (slots ++ more) where
  take slot hslot := (List.mem_append.mp hslot).elim (h.take slot) (h'.take slot)

instance (key : String) (read : Reader α) [Takes read] (put : σ → α → σ) (before : σ) :
    Takes ((Slot.needed key read put).take before) :=
  inferInstanceAs (Takes (read >>= fun v => pure (put before v)))

instance (key : String) (read : Reader α) [Takes read] (put : σ → α → σ) (before : σ) :
    Takes ((Slot.extra key read put).take before) :=
  inferInstanceAs (Takes (read >>= fun v => pure (put before v)))

instance (key : String) (read : Reader α) [Takes read] (put : σ → Option α → σ) (before : σ) :
    Takes ((Slot.nullable key read put).take before) :=
  inferInstanceAs (Takes (Reader.nullable read >>= fun v => pure (put before v)))

instance {slots : List (Slot σ)} [h : TakesSlots slots] (state : σ × List String) (key : String) :
    Local (slot slots state key) := by
  obtain ⟨before, seen⟩ := state
  unfold slot
  cases hf : slots.find? (·.key == key) with
  | some s =>
    have := h.take s (List.mem_of_find?_eq_some hf) before
    dsimp only
    infer_instance
  | none =>
    dsimp only
    infer_instance

instance {start : σ} {slots : List (Slot σ)} [TakesSlots slots] : Takes (strictObject start slots) := by
  unfold strictObject
  refine .bind fun x => ?_
  dsimp only
  cases slots.find? fun s => s.required && !x.2.contains s.key <;> infer_instance

instance : Takes endOfList := by
  unfold endOfList
  exact .onNext inferInstance fun _ => by dsimp only; infer_instance

theorem slots_takes (expected : String) (fields : List (Slot σ)) : TakesSlots fields →
    ∀ (index : Nat) (read : σ), Takes (slots expected index read fields) := by
  induction fields with
  | nil =>
    intro _ index read
    unfold slots
    infer_instance
  | cons s rest ih =>
    intro h index read
    have := h.take s List.mem_cons_self
    have := ih ⟨fun f hf => h.take f (List.mem_cons_of_mem s hf)⟩
    unfold slots
    refine .bind fun o => ?_
    cases o with
    | some read => infer_instance
    | none => cases (s :: rest).findIdx? (·.listed) <;> infer_instance

instance {expected : String} (index : Nat) (read : σ) (fields : List (Slot σ)) [h : TakesSlots fields] :
    Takes (slots expected index read fields) := slots_takes expected fields h index read

instance {name : String} {size : Nat} {start : σ} {fields : List (Slot σ)} [TakesSlots fields] :
    Takes (strictRecord name size start fields) := by
  unfold strictRecord
  exact .after fun k => by cases k <;> infer_instance

instance : Takes unit := by
  unfold unit
  exact .after fun k => by cases k <;> infer_instance

instance {names : List (String × α)} {name : String} : Local (nameOf names name) := by
  unfold nameOf
  cases names.lookup name <;> infer_instance

instance {names : List (String × α)} : Takes (choice names) := by
  unfold choice
  refine .onNext inferInstance fun b => ?_
  dsimp only
  split
  · infer_instance
  split
  · refine .bind fun _ => .bind fun name => .bind fun v => .bind fun _ => .bind fun _ => ?_
    exact .onNext inferInstance fun _ => by dsimp only; infer_instance
  · infer_instance

end Reader

end ReadyPin

import ReadyPin.Proofs.Json.Steps

/-!
# Values passed over

Passing over a value checks less than keeping it, and it keeps no calls open: a list of brackets stands for the values
around the present one. Where a value can be kept, passing over it takes the same bytes: `pass_of_kept`.
-/

namespace ReadyPin

variable {ε α β : Type}

/-! ## 1. Numerals and strings -/

namespace Numeral

/-- Where the first succeeds, the second does the same. -/
def Covers (f g : List UInt8 → Except ε α) : Prop := ∀ s x, f s = .ok x → g s = .ok x

theorem Covers.bind {f f' : List UInt8 → Except ε (α × List UInt8)} {k k' : α → List UInt8 → Except ε β}
    (hf : Covers f f') (hk : ∀ a, Covers (k a) (k' a)) :
    Covers (fun s => f s >>= fun x => k x.1 x.2) fun s => f' s >>= fun x => k' x.1 x.2 := by
  intro s y h
  cases hs : f s with
  | error e =>
    simp only [hs] at h
    cases h
  | ok x =>
    simp only [hs] at h
    simp only [hf s x hs]
    exact hk x.1 x.2 y h

theorem Covers.refl (f : List UInt8 → Except ε α) : Covers f f := fun _ _ h => h

variable (e e' : Malformed)

theorem someDigits_covers : Covers (someDigits e) (someDigits e') := by
  intro s x h
  cases s with
  | nil => cases h
  | cons b s => exact h

theorem wholePart_covers : Covers (wholePart e) (wholePart e') :=
  (someDigits_covers e e').bind fun _ => .refl _

theorem fractionPart_covers : Covers (fractionPart e) (fractionPart e') := by
  intro s x h
  cases s with
  | nil => exact h
  | cons b s =>
    simp only [fractionPart] at h ⊢
    split at h
    · rename_i hb
      rw [if_pos hb]
      exact (someDigits_covers e e').bind (fun ds => .refl fun s => .ok (some ds, s)) s x h
    · rename_i hb
      rw [if_neg hb]
      exact h

theorem exponentPart_covers : Covers (exponentPart e) (exponentPart e') := by
  intro s x h
  cases s with
  | nil => exact h
  | cons b s =>
    simp only [exponentPart] at h ⊢
    split at h
    · rename_i hb
      rw [if_pos hb]
      exact (someDigits_covers e e').bind (fun ds => .refl fun r => .ok (some (s.head? == some 0x2D, ds), r)) _ x h
    · rename_i hb
      rw [if_neg hb]
      exact h

theorem scan_covers : Covers (scan e) (scan e') := by
  intro s
  exact (wholePart_covers e e').bind (fun whole => (fractionPart_covers e e').bind fun fraction =>
    (exponentPart_covers e e').bind fun exponent => .refl fun r =>
      .ok ((⟨s.head? == some 0x2D, whole, fraction, exponent⟩ : Numeral), r)) _

theorem pass_of_read {s t : List UInt8} {n : Number} (h : read s = .ok (n, t)) : pass s = .ok ((), t) := by
  simp only [read] at h
  split at h
  · cases h
  · rename_i m u hs
    split at h
    · cases h
    · cases h
      simp only [pass, scan_covers .endInValue .invalidNumber s _ hs]

end Numeral

namespace Reader

theorem passText_of_textBytes {before s bytes t : List UInt8} (h : textBytes before s = .ok (bytes, t)) :
    passText s = .ok t := by
  fun_induction textBytes before s
  case case2 before s =>
    cases h
    rw [passText.eq_def]
    rfl
  case case4 before b s hq hc he ih =>
    rw [passText.eq_def]
    simp [hq, hc, he, ih h]
  case case6 before b hq hc he e s c hesc ih =>
    rw [passText.eq_def]
    simp [hq, hc, he, hesc, ih h]
  case case15 before b hq hc he e hesc hu h₁ h₂ h₃ h₄ n hn hnt hl p hp u hpu t₁ t₂ t₃ t₄ s m hm hmt ih =>
    -- Two escapes, one after the other: passing over does not look at surrogates.
    have hsecond : passText (p :: u :: t₁ :: t₂ :: t₃ :: t₄ :: s) = .ok t := by
      have hp : p = 0x5C := by simpa using hp
      have hpu : u = 0x75 := by simpa using hpu
      rw [passText.eq_def]
      simp [hp, hpu, escaped, hm, ih h]
    rw [passText.eq_def]
    simp [hq, hc, he, hesc, hu, hn, hsecond]
  case case18 before b hq hc he e hesc hu h₁ h₂ h₃ h₄ s n hn hnt hl ih =>
    rw [passText.eq_def]
    simp [hq, hc, he, hesc, hu, hn, ih h]
  all_goals cases h

theorem passString_of_text {s t : List UInt8} {x : String} (h : text s = .ok (x, t)) : passString s = .ok ((), t) := by
  simp only [text] at h
  split at h
  · cases h
  · rename_i bytes u hb
    split at h
    · cases h
      simp only [passString, passText_of_textBytes hb]
    · cases h

/-! ## 2. Lists and objects -/

/-- Passing over goes on after a value, or ends. -/
def passOn : (Passing × List Bracket) ⊕ Unit → Reader Unit
  | .inl state => iterate passStep state
  | .inr () => pure ()

theorem iterate_passStep {state : Passing × List Bracket} {next : (Passing × List Bracket) ⊕ Unit} {s t : List UInt8}
    (h : passStep state s = .ok (next, t)) : iterate passStep state s = passOn next t := by
  rw [iterate_eq passStep_advances, h]
  rcases next with state' | ⟨⟩ <;> rfl

/-- A reader of values over which passing takes the same bytes, whatever the brackets around it. Blanks in front of
the value do not matter to it. -/
structure Passes (read : Reader α) : Prop where
  passOn : ∀ s a t, read s = .ok (a, t) → ∀ brackets, iterate passStep (.value, brackets) s = passOn (passed brackets) t
  blanks : ∀ s, read (s.dropWhile isBlank) = read s

theorem passStep_comma {bracket : Bracket} {outer : List Bracket} {s u : List UInt8} {b : UInt8}
    (hs : s.dropWhile isBlank = b :: u) :
    passStep (.comma, bracket :: outer) s =
      if b = 0x2C then (do passKey bracket; pure (.inl (.value, bracket :: outer)) : Reader _) u
      else if b = bracket.closing then .ok (passed outer, u)
      else .error (.malformed (if bracket = .square then .expectedCommaOrBracket else .expectedCommaOrBrace)) := by
  rw [passStep, next_bind, hs]
  dsimp only [List.head?_cons]
  split
  · rfl
  split
  · rfl
  · rfl

theorem passOpening_eq {bracket : Bracket} {outer : List Bracket} {s u : List UInt8} {b c : UInt8}
    (hs : s.dropWhile isBlank = c :: u) :
    passOpening bracket outer (b :: s) =
      if c = bracket.closing then .ok (passed outer, u)
      else (do passKey bracket; pure (.inl (.value, bracket :: outer)) : Reader _) (c :: u) := by
  rw [passOpening, drop_bind, next_bind, hs]
  dsimp only [List.head?_cons]
  split
  · rfl
  · rfl

/-- The rest of a list, after its first item. -/
theorem passOn_items {read : Reader α} (h : Passes read) (outer : List Bracket) {s t : List UInt8} {vs : List α}
    (hvs : Items read false s vs t) : iterate passStep (.comma, .square :: outer) s = passOn (passed outer) t := by
  generalize hfirst : false = first at hvs
  induction hvs with
  | last hnone =>
    subst hfirst
    obtain ⟨b, u, hb, ⟨rfl, -, rfl⟩ | ⟨-, hf, -⟩ | ⟨-, -, c, w, -, -, a, hsome, -⟩⟩ := item?_eq_ok.mp hnone
    · exact iterate_passStep (by rw [passStep_comma hb]; rfl)
    · cases hf
    · cases hsome
  | @more first s t v a as hsome _ ih =>
    subst hfirst
    obtain ⟨b, u, hb, ⟨-, hcontra, -⟩ | ⟨-, hf, -⟩ | ⟨rfl, -, c, w, hc, -, a', ha', hread⟩⟩ := item?_eq_ok.mp hsome
    · cases hcontra
    · cases hf
    · have hstep : passStep (.comma, .square :: outer) s = .ok (.inl (.value, .square :: outer), u) := by
        rw [passStep_comma hb]
        rfl
      rw [iterate_passStep hstep]
      rw [← hc, h.blanks] at hread
      rw [passOn, h.passOn u a' t hread]
      exact ih rfl

/-- A list. -/
theorem passOn_list {read : Reader α} [Takes read] (h : Passes read) (outer : List Bracket) {s t : List UInt8}
    {b : UInt8} {vs : List α} (hvs : items read (b :: s) = .ok (vs, t)) :
    ∃ next u, passOpening .square outer (b :: s) = .ok (next, u) ∧ passOn next u = passOn (passed outer) t := by
  replace hvs : Items read true s vs t := items_eq_ok.mp hvs
  cases hvs with
  | last hnone =>
    obtain ⟨c, u, hc, ⟨rfl, -, rfl⟩ | ⟨-, -, a, hsome, -⟩ | ⟨-, hf, -⟩⟩ := item?_eq_ok.mp hnone
    · exact ⟨passed outer, t, by rw [passOpening_eq hc]; rfl, rfl⟩
    · cases hsome
    · cases hf
  | more hsome hrest =>
    obtain ⟨c, u, hc, ⟨-, hcontra, -⟩ | ⟨hne, -, a', ha', hread⟩ | ⟨-, hf, -⟩⟩ := item?_eq_ok.mp hsome
    · cases hcontra
    · refine ⟨.inl (.value, .square :: outer), c :: u, ?_, ?_⟩
      · rw [passOpening_eq hc, if_neg (by exact hne)]
        rfl
      · rw [passOn, h.passOn (c :: u) a' _ hread]
        exact passOn_items h outer hrest
    · cases hf

theorem passKey_of_text {s u t t' : List UInt8} {key : String} (hs : s.dropWhile isBlank = 0x22 :: u)
    (hkey : text (0x22 :: u) = .ok (key, t)) (hcolon : colon t = .ok ((), t')) : passKey .curly s = .ok ((), t') := by
  rw [passKey, next_bind, hs]
  dsimp only [List.head?_cons]
  rw [if_pos rfl]
  exact bind_eq_ok.mpr ⟨(), t, passString_of_text hkey, hcolon⟩

/-- The rest of an object, after its first member. -/
theorem passOn_members {read : Reader Json} (h : Passes read) (outer : List Bracket) {s t : List UInt8}
    {before ms : List (String × Json)} (hms : Members (keptMember read) false before s ms t) :
    iterate passStep (.comma, .curly :: outer) s = passOn (passed outer) t := by
  generalize hfirst : false = first at hms
  induction hms with
  | last hnone =>
    subst hfirst
    rcases key?_eq_ok.mp hnone with ⟨hb, -⟩ | ⟨hf, -⟩ | ⟨-, w, -, u, -, key, hsome, -⟩
    · exact iterate_passStep (by rw [passStep_comma hb]; rfl)
    · cases hf
    · cases hsome
  | @more first before after result s t u w key hsome hmember _ ih =>
    subst hfirst
    obtain ⟨x, v, hcolon, hread, rfl⟩ := keptMember_eq_ok.mp hmember
    rcases key?_eq_ok.mp hsome with ⟨-, hcontra⟩ | ⟨hf, -⟩ | ⟨-, w, hw, u', hu', key', hkey', htext⟩
    · cases hcontra
    · cases hf
    · cases hkey'
      have hstep : passStep (.comma, .curly :: outer) s = .ok (.inl (.value, .curly :: outer), x) := by
        rw [passStep_comma hw, if_pos rfl]
        exact bind_eq_ok.mpr ⟨(), x, passKey_of_text hu' htext hcolon, rfl⟩
      rw [iterate_passStep hstep, passOn, h.passOn x v u hread]
      exact ih rfl

/-- An object. -/
theorem passOn_object {read : Reader Json} [Takes read] (h : Passes read) (outer : List Bracket) {s t : List UInt8}
    {b : UInt8} {ms : List (String × Json)} (hms : members [] (keptMember read) (b :: s) = .ok (ms, t)) :
    ∃ next u, passOpening .curly outer (b :: s) = .ok (next, u) ∧ passOn next u = passOn (passed outer) t := by
  replace hms : Members (keptMember read) true [] s ms t := members_eq_ok.mp hms
  cases hms with
  | last hnone =>
    rcases key?_eq_ok.mp hnone with ⟨hc, -⟩ | ⟨-, u, -, key, hsome, -⟩ | ⟨hf, -⟩
    · exact ⟨passed outer, t, by rw [passOpening_eq hc]; rfl, rfl⟩
    · cases hsome
    · cases hf
  | more hsome hmember hrest =>
    obtain ⟨x, v, hcolon, hread, rfl⟩ := keptMember_eq_ok.mp hmember
    rcases key?_eq_ok.mp hsome with ⟨-, hcontra⟩ | ⟨-, u', hu', key', hkey', htext⟩ | ⟨hf, -⟩
    · cases hcontra
    · cases hkey'
      refine ⟨.inl (.value, .curly :: outer), x, ?_, ?_⟩
      · rw [passOpening_eq hu', if_neg (by decide)]
        exact bind_eq_ok.mpr ⟨(), x, passKey_of_text rfl htext hcolon, rfl⟩
      · rw [passOn, h.passOn x v _ hread]
        exact passOn_members h outer hrest
    · cases hf

/-! ## 3. Kept values -/

/-- What is passed over of a value whose kind is known. -/
def passOf (brackets : List Bracket) : Kind → Reader ((Passing × List Bracket) ⊕ Unit)
  | .null => do nullWord; pure (passed brackets)
  | .yes => do trueWord; pure (passed brackets)
  | .no => do falseWord; pure (passed brackets)
  | .numeral => do Numeral.pass; pure (passed brackets)
  | .text => do passString; pure (passed brackets)
  | .list => passOpening .square brackets
  | .object => passOpening .curly brackets

theorem passOf_of_keptAs {depth : Nat} (h : ∀ d, depth = d + 1 → Passes (kept d)) (brackets : List Bracket)
    {s u t : List UInt8} {v : Json} (hk : kind s = .ok (Kind.ofJson v, u)) (hv : KeptAs depth u t v) :
    ∃ next w, passOf brackets (Kind.ofJson v) u = .ok (next, w) ∧ passOn next w = passOn (passed brackets) t := by
  obtain ⟨b, u', -, -, rfl⟩ := kind_eq_ok.mp hk
  have whole : ∀ {p : Reader Unit}, p (b :: u') = .ok ((), t) → ∃ next w,
      (do p; pure (passed brackets) : Reader _) (b :: u') = .ok (next, w)
        ∧ passOn next w = passOn (passed brackets) t :=
    fun hp => ⟨passed brackets, t, bind_eq_ok.mpr ⟨(), t, hp, rfl⟩, rfl⟩
  cases v with
  | null => exact whole hv
  | bool b => cases b <;> exact whole hv
  | number n => exact whole (Numeral.pass_of_read hv)
  | string x => exact whole (passString_of_text hv)
  | array vs =>
    obtain ⟨d, rfl, hvs⟩ := hv
    exact passOn_list (h d rfl) brackets hvs
  | object ms =>
    obtain ⟨d, rfl, hms⟩ := hv
    exact passOn_object (h d rfl) brackets hms

theorem passes_kept (depth : Nat) : Passes (kept depth) := by
  have hinner : ∀ depth, (∀ d, depth = d + 1 → Passes (kept d)) → Passes (kept depth) := by
    intro depth h
    refine ⟨fun s v t hv brackets => ?_, kept_dropWhile depth⟩
    obtain ⟨u, hk, hv⟩ := kept_eq_ok.mp hv
    obtain ⟨next, w, hnext, hon⟩ := passOf_of_keptAs h brackets hk hv
    have hstep : passStep (.value, brackets) s = .ok (next, w) := bind_eq_ok.mpr ⟨_, u, hk, hnext⟩
    rw [iterate_passStep hstep, hon]
  induction depth with
  | zero => exact hinner 0 nofun
  | succ depth ih =>
    refine hinner (depth + 1) fun d hd => ?_
    cases hd
    exact ih

/-- Passing over a value that can be kept takes the same bytes. -/
theorem pass_of_kept {depth : Nat} {s t : List UInt8} {v : Json} (h : kept depth s = .ok (v, t)) :
    pass s = .ok ((), t) :=
  (passes_kept depth).passOn s v t h []

end Reader

end ReadyPin

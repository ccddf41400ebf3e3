import ReadyPin.Proofs.Text.Utf8RoundTrip
import ReadyPin.Readiness.Base64
import ReadyPin.Readiness.Pointer

/-!
# Reading back base64 and pointers

The two encodings that a patch goes through. `Base64.decode_encode` gives back any bytes, and `Pointer.keys?_ofKeys`
any keys, whatever slashes and tildes are in them. Tildes are escaped first and slashes second; the escaped key is the
one in which both are done at once (`escapeChar`), and that is undone character by character.
-/

namespace ReadyPin

namespace Base64

/-! ## 1. Base64 -/

theorem value?_digit : ∀ n < 64, value? (digit n) = some n := by
  decide

theorem digit_ne_filling : ∀ n < 64, digit n ≠ '=' := by
  decide

/-- The bytes of a number are taken out of it again. -/
theorem ofNat_of_toNat {a : UInt8} {n : Nat} (h : n = a.toNat) : UInt8.ofNat n = a := by
  rw [h, UInt8.ofNat_toNat]

theorem decode_encode : ∀ bs : List UInt8, decode (encode bs) = some bs
  | [] => rfl
  | [a] => by
    have ha := a.toNat_lt
    have h1 := value?_digit (a.toNat * 0x10 / 0x40) (by omega)
    have h2 := value?_digit (a.toNat * 0x10 % 0x40) (by omega)
    have hn : a.toNat * 0x10 / 0x40 * 0x40 + a.toNat * 0x10 % 0x40 = a.toNat * 0x10 := by omega
    simp only [encode, decode, h1, h2, Option.bind_eq_bind, Option.bind_some, hn]
    rw [if_pos (by omega), ofNat_of_toNat (a := a) (by omega)]
  | [a, b] => by
    have ha := a.toNat_lt
    have hb := b.toNat_lt
    generalize hn : (a.toNat * 0x100 + b.toNat) * 4 = n
    have hd : digit (n % 0x40) ≠ '=' := digit_ne_filling _ (by omega)
    have h1 := value?_digit (n / 0x1000) (by omega)
    have h2 := value?_digit (n / 0x40 % 0x40) (by omega)
    have h3 := value?_digit (n % 0x40) (by omega)
    have hsum : (n / 0x1000 * 0x40 + n / 0x40 % 0x40) * 0x40 + n % 0x40 = n := by omega
    simp only [encode, hn]
    rw [decode.eq_3 _ _ _ hd]
    simp only [h1, h2, h3, Option.bind_eq_bind, Option.bind_some, hsum]
    rw [if_pos (by omega), ofNat_of_toNat (a := a) (by omega), ofNat_of_toNat (a := b) (by omega)]
  | a :: b :: c :: rest => by
    have ha := a.toNat_lt
    have hb := b.toNat_lt
    have hc := c.toNat_lt
    generalize hn : a.toNat * 0x10000 + b.toNat * 0x100 + c.toNat = n
    have hd : digit (n % 0x40) ≠ '=' := digit_ne_filling _ (by omega)
    have h1 := value?_digit (n / 0x40000) (by omega)
    have h2 := value?_digit (n / 0x1000 % 0x40) (by omega)
    have h3 := value?_digit (n / 0x40 % 0x40) (by omega)
    have h4 := value?_digit (n % 0x40) (by omega)
    have hsum : ((n / 0x40000 * 0x40 + n / 0x1000 % 0x40) * 0x40 + n / 0x40 % 0x40) * 0x40 + n % 0x40 = n := by omega
    simp only [encode, hn]
    rw [decode.eq_4 _ _ _ _ _ (fun _ h _ => hd h) (fun h _ => hd h)]
    simp only [h1, h2, h3, h4, Option.bind_eq_bind, Option.bind_some, hsum, decode_encode rest]
    rw [ofNat_of_toNat (a := a) (by omega), ofNat_of_toNat (a := b) (by omega), ofNat_of_toNat (a := c) (by omega)]

end Base64

namespace Pointer

/-! ## 2. Pointers -/

/-- A character of an escaped key. -/
def escapeChar (c : Char) : List Char :=
  if c = '~' then ['~', '0'] else if c = '/' then ['~', '1'] else [c]

/-- Escaping tildes first and slashes second is the same as escaping both at once. -/
theorem toList_escape (key : String) : (escape key).toList = key.toList.flatMap escapeChar := by
  rw [escape, String.toList_ofList, escapeSlashes, escapeTildes, List.flatMap_assoc]
  congr 1
  funext c
  by_cases ht : c = '~'
  · simp [ht, escapeChar]
  · by_cases hs : c = '/' <;> simp [ht, hs, escapeChar]

theorem unescape_escapeChar (c : Char) (cs : List Char) :
    unescape (escapeChar c ++ cs) = (unescape cs).map (c :: ·) := by
  unfold escapeChar
  by_cases ht : c = '~'
  · simp [ht, unescape]
  · by_cases hs : c = '/'
    · simp [hs, unescape]
    · rw [if_neg ht, if_neg hs, List.singleton_append, unescape.eq_4 _ _ (fun _ h _ => ht h) fun _ h _ => ht h,
        if_neg ht]

theorem unescape_escaped (cs : List Char) : unescape (cs.flatMap escapeChar) = some cs := by
  induction cs with
  | nil => rfl
  | cons c cs ih => rw [List.flatMap_cons, unescape_escapeChar, ih, Option.map_some]

theorem slash_notMem_escaped (cs : List Char) : '/' ∉ cs.flatMap escapeChar := by
  intro h
  obtain ⟨c, -, hc⟩ := List.mem_flatMap.mp h
  unfold escapeChar at hc
  by_cases ht : c = '~'
  · simp [ht] at hc
  · by_cases hs : c = '/'
    · simp [hs] at hc
    · simp only [if_neg ht, if_neg hs, List.mem_singleton] at hc
      exact hs hc.symm

theorem pieces_ne_nil (cs : List Char) : pieces cs ≠ [] := by
  cases cs with
  | nil => nofun
  | cons c cs =>
    rw [pieces]
    split
    · nofun
    · split <;> nofun

/-- A slash ends a piece. -/
theorem pieces_append_slash {p : List Char} (hp : '/' ∉ p) (cs : List Char) :
    pieces (p ++ '/' :: cs) = p :: pieces cs := by
  induction p with
  | nil =>
    rw [List.nil_append, pieces]
    cases h : pieces cs with
    | nil => exact absurd h (pieces_ne_nil cs)
    | cons q qs => simp
  | cons c p ih =>
    obtain ⟨hc, hp⟩ := List.ne_and_not_mem_of_not_mem_cons hp
    rw [List.cons_append, pieces, ih hp]
    simp [Ne.symm hc]

theorem pieces_of_noSlash {p : List Char} (hp : '/' ∉ p) : pieces p = [p] := by
  induction p with
  | nil => rfl
  | cons c p ih =>
    obtain ⟨hc, hp⟩ := List.ne_and_not_mem_of_not_mem_cons hp
    rw [pieces, ih hp]
    simp [Ne.symm hc]

theorem toList_foldl_append (xs : List String) : ∀ before : String,
    (xs.foldl (· ++ ·) before).toList = before.toList ++ xs.flatMap String.toList := by
  induction xs with
  | nil =>
    intro before
    simp
  | cons x xs ih =>
    intro before
    rw [List.foldl_cons, ih, String.toList_append, List.flatMap_cons, List.append_assoc]

/-- The pointer to some keys is their escaped forms, each after a slash. -/
theorem toList_ofKeys (keys : List String) :
    (ofKeys keys).toList = keys.flatMap fun key => '/' :: key.toList.flatMap escapeChar := by
  rw [ofKeys, String.join, toList_foldl_append, String.toList_empty, List.nil_append, List.flatMap_map]
  congr 1
  funext key
  rw [String.toList_append, toList_escape]
  rfl

/-- Pieces without slashes are found again once each has been put after a slash. -/
theorem pieces_slashed {p : List Char} {ps : List (List Char)} (hp : '/' ∉ p) (hps : ∀ q ∈ ps, '/' ∉ q) :
    pieces (p ++ ps.flatMap fun q => '/' :: q) = p :: ps := by
  induction ps generalizing p with
  | nil => rw [List.flatMap_nil, List.append_nil, pieces_of_noSlash hp]
  | cons q ps ih =>
    obtain ⟨hq, hps⟩ := List.forall_mem_cons.mp hps
    rw [List.flatMap_cons, List.cons_append, pieces_append_slash hp, ih hq hps]

theorem mapM_unescape (keys : List String) :
    (keys.map fun key => key.toList.flatMap escapeChar).mapM (fun p => (unescape p).map String.ofList) = some keys := by
  induction keys with
  | nil => rfl
  | cons key keys ih =>
    rw [List.map_cons, List.mapM_cons, ih, unescape_escaped]
    simp

/-- The keys of a pointer are read back. -/
theorem keys?_ofKeys (keys : List String) : keys? (ofKeys keys) = some keys := by
  have hslash : ∀ q ∈ keys.map fun key => key.toList.flatMap escapeChar, '/' ∉ q := by
    intro q hq
    obtain ⟨key, -, rfl⟩ := List.mem_map.mp hq
    exact slash_notMem_escaped _
  have hpieces := pieces_slashed List.not_mem_nil hslash
  rw [List.nil_append, List.flatMap_map, ← toList_ofKeys] at hpieces
  rw [keys?, hpieces]
  exact mapM_unescape keys

end Pointer

end ReadyPin

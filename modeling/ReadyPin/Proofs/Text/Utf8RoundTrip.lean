import ReadyPin.Text.Utf8

/-!
# Reading back UTF-8

`decode_encode` reads the bytes of any text back as that text, character by character: the four branches of
`encodeChar` are the four branches of `decodeFrom`, and the ranges that `secondFits` narrows are those that no
character's bytes fall into. So different texts have different bytes: `bytes_injective`. Nothing else is read either:
`string_eq_ok`.

A byte below 0x80 is always a whole character. So a text can be cut at such a character before it is written or after
(`takeWhile_encode`).
-/

namespace ReadyPin.Utf8

theorem toNat_byte {n : Nat} (h : n < 0x100) : (UInt8.ofNat n).toNat = n := by
  simp only [UInt8.toNat_ofNat']
  omega

theorem ofNat_eq {c : Char} {n : Nat} (h : n = c.toNat) : Char.ofNat n = c := by
  rw [h, Char.ofNat_toNat]

/-- The bytes of one character are read as that character, whatever follows them. -/
theorem decodeFrom_encodeChar (c : Char) (pos : Nat) (read : List Char) (rest : List UInt8) :
    ∃ pos', decodeFrom pos read (encodeChar c ++ rest) = decodeFrom pos' (c :: read) rest := by
  have hv : c.toNat < 0xD800 ∨ 0xDFFF < c.toNat ∧ c.toNat < 0x110000 := c.valid
  by_cases h1 : c.toNat < 0x80
  · refine ⟨pos + 1, ?_⟩
    simp only [encodeChar, if_pos h1, List.cons_append, List.nil_append]
    rw [decodeFrom.eq_def]
    simp only [toNat_byte (show c.toNat < 0x100 by omega), if_pos h1, Char.ofNat_toNat]
  by_cases h2 : c.toNat < 0x800
  · refine ⟨pos + 2, ?_⟩
    simp only [encodeChar, if_neg h1, if_pos h2, List.cons_append, List.nil_append]
    rw [decodeFrom]
    simp only [toNat_byte (show 0xC0 + c.toNat / 0x40 < 0x100 by omega),
      toNat_byte (show 0x80 + c.toNat % 0x40 < 0x100 by omega)]
    rw [if_neg (by omega), if_neg (by omega), if_pos (by omega),
      if_pos (by simp [isContinuation]; omega), ofNat_eq (c := c) (by omega)]
  by_cases h3 : c.toNat < 0x10000
  · refine ⟨pos + 3, ?_⟩
    simp only [encodeChar, if_neg h1, if_neg h2, if_pos h3, List.cons_append, List.nil_append]
    rw [decodeFrom]
    simp only [toNat_byte (show 0xE0 + c.toNat / 0x1000 < 0x100 by omega),
      toNat_byte (show 0x80 + c.toNat / 0x40 % 0x40 < 0x100 by omega),
      toNat_byte (show 0x80 + c.toNat % 0x40 < 0x100 by omega)]
    -- No overlong form begins with 0xE0, and no surrogate follows 0xED.
    have hs : secondFits (0xE0 + c.toNat / 0x1000) (0x80 + c.toNat / 0x40 % 0x40) = true := by
      simp only [secondFits, isContinuation]
      repeat' split
      all_goals simp
      all_goals omega
    rw [if_neg (by omega), if_neg (by omega), if_neg (by omega), if_neg (by simp [hs]; omega),
      if_neg (by simp [isContinuation]; omega), if_pos (by omega), ofNat_eq (c := c) (by omega)]
  · refine ⟨pos + 4, ?_⟩
    simp only [encodeChar, if_neg h1, if_neg h2, if_neg h3, List.cons_append, List.nil_append]
    rw [decodeFrom]
    simp only [toNat_byte (show 0xF0 + c.toNat / 0x40000 < 0x100 by omega),
      toNat_byte (show 0x80 + c.toNat / 0x1000 % 0x40 < 0x100 by omega),
      toNat_byte (show 0x80 + c.toNat / 0x40 % 0x40 < 0x100 by omega),
      toNat_byte (show 0x80 + c.toNat % 0x40 < 0x100 by omega)]
    -- The same at the other end: nothing beyond U+10FFFF follows 0xF4.
    have hs : secondFits (0xF0 + c.toNat / 0x40000) (0x80 + c.toNat / 0x1000 % 0x40) = true := by
      simp only [secondFits, isContinuation]
      repeat' split
      all_goals simp
      all_goals omega
    rw [if_neg (by omega), if_neg (by omega), if_neg (by omega), if_neg (by simp [hs]; omega),
      if_neg (by simp [isContinuation]; omega), if_neg (by omega),
      if_pos (by simp [isContinuation]; omega), ofNat_eq (c := c) (by omega)]

theorem decodeFrom_encode (cs : List Char) : ∀ (pos : Nat) (read : List Char),
    decodeFrom pos read (encode cs) = .ok (read.reverse ++ cs) := by
  induction cs with
  | nil => intro pos read; simp [decodeFrom]
  | cons c cs ih =>
    intro pos read
    obtain ⟨pos', h⟩ := decodeFrom_encodeChar c pos read (encode cs)
    rw [encode_cons, h, ih]
    simp

/-- The bytes of a text are read back as that text. -/
theorem decode_encode (cs : List Char) : decode (encode cs) = .ok cs := by
  rw [decode, decodeFrom_encode]
  rfl

theorem string_bytes (s : String) : string (bytes s) = .ok s := by
  simp [string, bytes, decode_encode, Except.map]

theorem encode_injective {cs ds : List Char} (h : encode cs = encode ds) : cs = ds := by
  have hd := decode_encode cs
  rw [h, decode_encode ds] at hd
  exact (Except.ok.inj hd).symm

/-- Strings with the same bytes are the same. -/
theorem bytes_injective {s t : String} (h : bytes s = bytes t) : s = t :=
  String.toList_inj.mp (encode_injective h)

/-! ## Bytes that can be read -/

theorem toNat_ofNat {n : Nat} (h : n < 0xD800 ∨ 0xDFFF < n ∧ n < 0x110000) : (Char.ofNat n).toNat = n := by
  rw [Char.ofNat, dif_pos h]
  rfl

/-- The bounds that a second byte keeps to. -/
theorem of_secondFits {first second : Nat} (h : secondFits first second = true) :
    0x80 ≤ second ∧ second ≤ 0xBF ∧ (first = 0xE0 → 0xA0 ≤ second) ∧ (first = 0xED → second ≤ 0x9F)
      ∧ (first = 0xF0 → 0x90 ≤ second) ∧ (first = 0xF4 → second ≤ 0x8F) := by
  simp only [secondFits, isContinuation] at h
  repeat' split at h
  all_goals simp only [Bool.and_eq_true, decide_eq_true_eq] at h
  all_goals omega

/-- What is read is what the bytes encode. -/
theorem decodeFrom_eq_ok {pos : Nat} {read cs : List Char} {bs : List UInt8} (h : decodeFrom pos read bs = .ok cs) :
    ∃ ds, cs = read.reverse ++ ds ∧ encode ds = bs := by
  -- One character more, once its bytes are known to be those that were read.
  have hcons : ∀ (front : List UInt8) {c : Char} {read : List Char} {rest : List UInt8}, encodeChar c = front →
      (∃ ds, cs = (c :: read).reverse ++ ds ∧ encode ds = rest) →
        ∃ ds, cs = read.reverse ++ ds ∧ encode ds = front ++ rest := by
    rintro front c read rest rfl ⟨ds, rfl, rfl⟩
    exact ⟨c :: ds, by simp, rfl⟩
  have hbyte : ∀ {b : UInt8} {n : Nat}, n = b.toNat → UInt8.ofNat n = b := fun h => h ▸ UInt8.ofNat_toNat
  fun_induction decodeFrom pos read bs with
  | case1 => exact ⟨[], by simpa using (Except.ok.inj h).symm, rfl⟩
  | case2 pos read b₀ r₀ n₀ h₀ ih =>
    have hc := toNat_ofNat (n := n₀) (by omega)
    refine hcons [b₀] ?_ (ih h)
    rw [encodeChar, hc, if_pos h₀, hbyte rfl]
  | case6 pos read b₀ n₀ h₀ h₁ b₁ r₁ n₁ h₂ h₃ ih =>
    have hb := b₁.toNat_lt
    simp only [isContinuation, Bool.and_eq_true, decide_eq_true_eq] at h₃
    have hc := toNat_ofNat (n := (n₀ - 0xC0) * 0x40 + (n₁ - 0x80)) (by omega)
    refine hcons [b₀, b₁] ?_ (ih h)
    rw [encodeChar, hc, if_neg (by omega), if_pos (by omega), hbyte (b := b₀) (by omega), hbyte (b := b₁) (by omega)]
  | case11 pos read b₀ n₀ h₀ h₁ b₁ n₁ h₂ h₃ b₂ r₂ n₂ h₄ h₅ ih =>
    simp only [isContinuation, Bool.or_eq_true, Bool.not_eq_true', decide_eq_true_eq, not_or, Bool.not_eq_false,
      Bool.and_eq_true] at h₃ h₄
    have hs := of_secondFits h₃.2
    have hc := toNat_ofNat (n := (n₀ - 0xE0) * 0x1000 + (n₁ - 0x80) * 0x40 + (n₂ - 0x80)) (by omega)
    refine hcons [b₀, b₁, b₂] ?_ (ih h)
    rw [encodeChar, hc, if_neg (by omega), if_neg (by omega), if_pos (by omega), hbyte (b := b₀) (by omega),
      hbyte (b := b₁) (by omega), hbyte (b := b₂) (by omega)]
  | case13 pos read b₀ n₀ h₀ h₁ b₁ n₁ h₂ h₃ b₂ n₂ h₄ h₅ b₃ r₃ n₃ h₆ ih =>
    simp only [isContinuation, Bool.or_eq_true, Bool.not_eq_true', decide_eq_true_eq, not_or, Bool.not_eq_false,
      Bool.and_eq_true] at h₃ h₄ h₆
    have hs := of_secondFits h₃.2
    have hc := toNat_ofNat
      (n := (n₀ - 0xF0) * 0x40000 + (n₁ - 0x80) * 0x1000 + (n₂ - 0x80) * 0x40 + (n₃ - 0x80)) (by omega)
    refine hcons [b₀, b₁, b₂, b₃] ?_ (ih h)
    rw [encodeChar, hc, if_neg (by omega), if_neg (by omega), if_neg (by omega), hbyte (b := b₀) (by omega),
      hbyte (b := b₁) (by omega), hbyte (b := b₂) (by omega), hbyte (b := b₃) (by omega)]
  | _ => cases h

/-- Bytes are read as the string whose bytes they are, and not at all if they are those of no string. -/
theorem string_eq_ok {bs : List UInt8} {s : String} : string bs = .ok s ↔ bytes s = bs := by
  constructor
  · intro h
    cases hdecode : decode bs with
    | error fault =>
      rw [string, hdecode] at h
      cases h
    | ok cs =>
      rw [string, hdecode] at h
      obtain ⟨ds, hds, rfl⟩ := decodeFrom_eq_ok hdecode
      obtain rfl : cs = ds := hds
      rw [← Except.ok.inj h, bytes, String.toList_ofList]
  · rintro rfl
    exact string_bytes s

/-! ## Bytes below 0x80 -/

theorem encodeChar_of_lt {c : Char} (h : c.toNat < 0x80) : encodeChar c = [.ofNat c.toNat] := if_pos h

theorem encodeChar_ne_nil (c : Char) : encodeChar c ≠ [] := by
  simp only [encodeChar]
  repeat' split
  all_goals exact List.cons_ne_nil _ _

theorem le_of_mem_encodeChar {c : Char} (h : 0x80 ≤ c.toNat) {b : UInt8} (hb : b ∈ encodeChar c) : 0x80 ≤ b.toNat := by
  have hv : c.toNat < 0xD800 ∨ 0xDFFF < c.toNat ∧ c.toNat < 0x110000 := c.valid
  have hbyte : ∀ n, 0x80 ≤ n → n < 0x100 → 0x80 ≤ (UInt8.ofNat n).toNat := by
    intro n hlow hn
    rwa [toNat_byte hn]
  simp only [encodeChar, if_neg (Nat.not_lt.mpr h)] at hb
  split at hb
  · simp only [List.mem_cons, List.not_mem_nil, or_false] at hb
    rcases hb with rfl | rfl <;> exact hbyte _ (by omega) (by omega)
  split at hb
  · simp only [List.mem_cons, List.not_mem_nil, or_false] at hb
    rcases hb with rfl | rfl | rfl <;> exact hbyte _ (by omega) (by omega)
  · simp only [List.mem_cons, List.not_mem_nil, or_false] at hb
    rcases hb with rfl | rfl | rfl | rfl <;> exact hbyte _ (by omega) (by omega)

theorem encode_of_lt {cs : List Char} (h : ∀ c ∈ cs, c.toNat < 0x80) :
    encode cs = cs.map fun c => UInt8.ofNat c.toNat := by
  induction cs with
  | nil => rfl
  | cons c cs ih =>
    obtain ⟨hc, hcs⟩ := List.forall_mem_cons.mp h
    rw [encode_cons, encodeChar_of_lt hc, ih hcs]
    rfl

/-- The bytes up to a character below 0x80 are those of the characters before it. -/
theorem takeWhile_encode {c : Char} (hc : c.toNat < 0x80) (cs : List Char) :
    (encode cs).takeWhile (· ≠ UInt8.ofNat c.toNat) = encode (cs.takeWhile (· ≠ c)) := by
  have htoNat : (UInt8.ofNat c.toNat).toNat = c.toNat := toNat_byte (by omega)
  induction cs with
  | nil => rfl
  | cons d cs ih =>
    by_cases hd : d = c
    · rw [hd, encode_cons, encodeChar_of_lt hc]
      simp
    · have hbytes : ∀ b ∈ encodeChar d, decide (b ≠ UInt8.ofNat c.toNat) = true := by
        intro b hb
        rw [decide_eq_true_iff]
        rintro rfl
        by_cases hlow : d.toNat < 0x80
        · rw [encodeChar_of_lt hlow, List.mem_singleton] at hb
          have hnat : c.toNat = d.toNat := by
            rw [← htoNat, hb, toNat_byte (by omega)]
          exact hd (Char.toNat_inj.mp hnat.symm)
        · have hhigh := le_of_mem_encodeChar (Nat.not_lt.mp hlow) hb
          omega
      rw [encode_cons, List.takeWhile_append_of_pos hbytes, ih, List.takeWhile_cons_of_pos (by simpa using hd),
        encode_cons]

/-- Bytes that are all below 0x80 are the characters themselves. -/
theorem map_ofNat_encode {cs : List Char} (h : ∀ b ∈ encode cs, b.toNat < 0x80) :
    (encode cs).map (fun b => Char.ofNat b.toNat) = cs := by
  induction cs with
  | nil => rfl
  | cons c cs ih =>
    rw [encode_cons] at h ⊢
    obtain ⟨hchar, hrest⟩ := List.forall_mem_append.mp h
    have hc : c.toNat < 0x80 := by
      refine Nat.lt_of_not_le fun hhigh => ?_
      obtain ⟨b, hb⟩ := List.exists_mem_of_ne_nil _ (encodeChar_ne_nil c)
      exact absurd (hchar b hb) (Nat.not_lt.mpr (le_of_mem_encodeChar hhigh hb))
    rw [List.map_append, ih hrest, encodeChar_of_lt hc, List.map_singleton, toNat_byte (by omega), Char.ofNat_toNat]
    rfl

end ReadyPin.Utf8

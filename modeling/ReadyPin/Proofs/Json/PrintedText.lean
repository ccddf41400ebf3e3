import ReadyPin.Json.Printer
import ReadyPin.Proofs.Json.Coherence
import ReadyPin.Proofs.Text.Utf8RoundTrip

/-!
# Reading what has been printed

A value without numbers is read back from its text: `parse_print`. Strings need the most care. Every character is
printed so that the bytes of it alone come out of `textBytes`: the named escapes, the hexadecimal ones of the other
control characters, and all other characters as themselves, whose bytes are neither quotes nor backslashes nor below
0x20.

Numbers are left out. Floating point numbers are printed to be read again by others, and nothing that the service
answers has a number in it.
-/

namespace ReadyPin

namespace Json

mutual

/-- Whether there is no number in a value. -/
def numberFree : Json → Bool
  | .number _ => false
  | .array vs => itemsNumberFree vs
  | .object ms => membersNumberFree ms
  | _ => true

def itemsNumberFree : List Json → Bool
  | [] => true
  | v :: vs => v.numberFree && itemsNumberFree vs

def membersNumberFree : List (String × Json) → Bool
  | [] => true
  | m :: ms => m.2.numberFree && membersNumberFree ms

end

end Json

namespace Reader

open Json

/-! ## 1. Strings -/

/-- A byte that stands for itself in a string. -/
def IsPlain (b : UInt8) : Prop := 0x20 ≤ b.toNat ∧ b.toNat ≠ 0x22 ∧ b.toNat ≠ 0x5C

theorem textBytes_plain {bs : List UInt8} (h : ∀ b ∈ bs, IsPlain b) (before r : List UInt8) :
    textBytes before (bs ++ r) = textBytes (bs.reverse ++ before) r := by
  induction bs generalizing before with
  | nil => rfl
  | cons b bs ih =>
    obtain ⟨hlow, hquote, hback⟩ := h b List.mem_cons_self
    have hq : b ≠ 0x22 := fun hb => hquote (by rw [hb]; rfl)
    have hc : ¬ b < 0x20 := fun hb => by
      have := UInt8.lt_iff_toNat_lt.mp hb
      simp only [UInt8.reduceToNat] at this
      omega
    have he : b ≠ 0x5C := fun hb => hback (by rw [hb]; rfl)
    rw [List.cons_append, textBytes.eq_def]
    simp only [if_neg hq, if_neg hc, if_pos he]
    rw [ih fun b hb => h b (List.mem_cons_of_mem _ hb)]
    simp

theorem isPlain_encodeChar {c : Char} (hlow : 0x20 ≤ c.toNat) (hquote : c.toNat ≠ 0x22) (hback : c.toNat ≠ 0x5C) :
    ∀ b ∈ Utf8.encodeChar c, IsPlain b := by
  intro b hb
  by_cases hascii : c.toNat < 0x80
  · rw [Utf8.encodeChar_of_lt hascii, List.mem_singleton] at hb
    have hbyte : b.toNat = c.toNat := by
      rw [hb, Utf8.toNat_byte (by omega)]
    rw [IsPlain, hbyte]
    exact ⟨hlow, hquote, hback⟩
  · have hhigh := Utf8.le_of_mem_encodeChar (Nat.not_lt.mp hascii) hb
    exact ⟨by omega, by omega, by omega⟩

/-- The byte of a hexadecimal digit. -/
def digitByte (n : Nat) : UInt8 := .ofNat (Nat.digitChar n).toNat

/-- Two hexadecimal digits after two zeros. -/
theorem hexFour_hexPair : ∀ n < 0x20, Utf8.encode (hexPair n) = [digitByte (n / 16), digitByte (n % 16)]
    ∧ hexFour 0x30 0x30 (digitByte (n / 16)) (digitByte (n % 16)) = some n := by
  decide

theorem textBytes_printChar (c : Char) (before r : List UInt8) :
    textBytes before (Utf8.encode (printChar c) ++ r) = textBytes ((Utf8.encodeChar c).reverse ++ before) r := by
  have named : ∀ e x : UInt8, escaped e = some x →
      textBytes before (0x5C :: e :: r) = textBytes (x :: before) r := by
    intro e x hx
    rw [textBytes.eq_def]
    simp [hx]
  unfold printChar
  split
  · subst_vars
    exact named 0x22 0x22 rfl
  split
  · subst_vars
    exact named 0x5C 0x5C rfl
  split
  · subst_vars
    exact named 0x62 0x08 rfl
  split
  · subst_vars
    exact named 0x66 0x0C rfl
  split
  · subst_vars
    exact named 0x6E 0x0A rfl
  split
  · subst_vars
    exact named 0x72 0x0D rfl
  split
  · subst_vars
    exact named 0x74 0x09 rfl
  split
  · rename_i hlow
    obtain ⟨hab, hhex⟩ := hexFour_hexPair c.toNat hlow
    have hbytes : Utf8.encode ('\\' :: 'u' :: '0' :: '0' :: hexPair c.toNat)
        = [0x5C, 0x75, 0x30, 0x30, digitByte (c.toNat / 16), digitByte (c.toNat % 16)] := by
      simp only [Utf8.encode_cons, hab]
      rfl
    rw [hbytes, textBytes.eq_def]
    have ht : isTrailing c.toNat = false := by simp [isTrailing]; omega
    have hl : isLeading c.toNat = false := by simp [isLeading]; omega
    simp [escaped, hhex, ht, hl, Char.ofNat_toNat]
  · rename_i hq hb _ _ _ _ _ hlow
    have hquote : c.toNat ≠ 0x22 := fun h => hq (by rw [← Char.ofNat_toNat c, h])
    have hback : c.toNat ≠ 0x5C := fun h => hb (by rw [← Char.ofNat_toNat c, h])
    simp only [Utf8.encode_cons, Utf8.encode_nil, List.append_nil]
    exact textBytes_plain (isPlain_encodeChar (by omega) hquote hback) before r

theorem textBytes_printed (cs : List Char) : ∀ before r : List UInt8,
    textBytes before (Utf8.encode (cs.flatMap printChar) ++ 0x22 :: r) = .ok (before.reverse ++ Utf8.encode cs, r) := by
  induction cs with
  | nil =>
    intro before r
    rw [List.flatMap_nil, Utf8.encode_nil, List.nil_append, textBytes.eq_def]
    simp
  | cons c cs ih =>
    intro before r
    rw [List.flatMap_cons, Utf8.encode_append, List.append_assoc, textBytes_printChar, ih]
    simp

/-- A string is read back from its text. -/
theorem text_printString (x : String) (r : List UInt8) :
    text (Utf8.encode (printString x) ++ r) = .ok (x, r) := by
  have hbytes : Utf8.encode (printString x) ++ r = 0x22 :: (Utf8.encode (x.toList.flatMap printChar) ++ 0x22 :: r) := by
    simp only [printString, Utf8.encode_cons, Utf8.encode_append, List.cons_append, Utf8.encode_nil]
    simp
    rfl
  have hstring : Utf8.string (Utf8.encode x.toList) = .ok x := Utf8.string_bytes x
  simp only [text, hbytes, List.drop_succ_cons, List.drop_zero, textBytes_printed, List.reverse_nil, List.nil_append,
    hstring]

/-! ## 2. Values -/

/-- A byte that begins a value is no blank and does not end a list. -/
theorem ofByte_start {b : UInt8} {k : Kind} (h : Kind.ofByte b = some k) : isBlank b = false ∧ b ≠ 0x5D := by
  have hblank : ∀ c : UInt8, Kind.ofByte c = none → b ≠ c := by
    rintro c hc rfl
    rw [hc] at h
    cases h
  refine ⟨?_, hblank 0x5D rfl⟩
  simp [isBlank, hblank 0x20 rfl, hblank 0x09 rfl, hblank 0x0D rfl, hblank 0x0A rfl]

theorem dropWhile_start {b : UInt8} {u : List UInt8} {k : Kind} (h : Kind.ofByte b = some k) :
    (b :: u).dropWhile isBlank = b :: u :=
  List.dropWhile_cons_of_neg (by simp [(ofByte_start h).1])

/-- The text of a value begins with a byte of its kind. -/
theorem print_start {v : Json} (h : v.numberFree = true) :
    ∃ b u, Utf8.encode v.print = b :: u ∧ Kind.ofByte b = some (Kind.ofJson v) := by
  cases v with
  | null => exact ⟨0x6E, _, rfl, rfl⟩
  | bool x => cases x <;> exact ⟨_, _, rfl, rfl⟩
  | number n => cases h
  | string x => exact ⟨0x22, _, rfl, rfl⟩
  | array vs => cases vs <;> exact ⟨0x5B, _, rfl, rfl⟩
  | object ms =>
    cases ms with
    | nil => exact ⟨0x7B, _, rfl, rfl⟩
    | cons m ms => exact ⟨0x7B, _, rfl, rfl⟩

theorem printMembers_closes : ∀ ms : List (String × Json), ∃ cs, printMembers ms = cs ++ ['\x7d']
  | [] => ⟨[], rfl⟩
  | (k, v) :: ms => by
    obtain ⟨cs, hcs⟩ := printMembers_closes ms
    exact ⟨',' :: (printString k ++ ':' :: (print v ++ cs)), by simp [printMembers, hcs]⟩

/-- An object is printed from brace to brace. -/
theorem print_object (ms : List (String × Json)) : ∃ cs, print (.object ms) = '\x7b' :: (cs ++ ['\x7d']) := by
  cases ms with
  | nil => exact ⟨[], rfl⟩
  | cons m ms =>
    obtain ⟨cs, hcs⟩ := printMembers_closes ms
    exact ⟨printString m.1 ++ ':' :: (print m.2 ++ cs), by simp [print, hcs]⟩

theorem kept_of_keptAs {v : Json} {depth : Nat} {rest : List UInt8} (hfree : v.numberFree = true)
    (h : KeptAs depth (Utf8.encode v.print ++ rest) rest v) :
    kept depth (Utf8.encode v.print ++ rest) = .ok (v, rest) := by
  obtain ⟨b, u, hb, hk⟩ := print_start hfree
  have hkind : kind (Utf8.encode v.print ++ rest) = .ok (Kind.ofJson v, Utf8.encode v.print ++ rest) := by
    rw [hb, List.cons_append]
    exact kind_eq_ok.mpr ⟨b, u ++ rest, dropWhile_start hk, hk, rfl⟩
  exact kept_eq_ok.mpr ⟨_, hkind, h⟩

/-- An item is read where it stands: at the beginning of the list, or after a comma. -/
theorem item?_print (first : Bool) {v : Json} {depth : Nat} {s rest : List UInt8} (hfree : v.numberFree = true)
    (hv : kept depth (Utf8.encode v.print ++ rest) = .ok (v, rest))
    (hs : s = if first then Utf8.encode v.print ++ rest else 0x2C :: (Utf8.encode v.print ++ rest)) :
    item? (kept depth) first s = .ok (some v, rest) := by
  obtain ⟨b, u, hb, hk⟩ := print_start hfree
  rw [hb, List.cons_append] at hv hs
  have hne := (ofByte_start hk).2
  refine item?_eq_ok.mpr ?_
  cases first with
  | true =>
    rw [if_pos rfl] at hs
    subst hs
    exact ⟨b, u ++ rest, dropWhile_start hk, .inr (.inl ⟨hne, rfl, v, rfl, hv⟩)⟩
  | false =>
    rw [if_neg Bool.false_ne_true] at hs
    subst hs
    exact ⟨0x2C, b :: (u ++ rest), rfl,
      .inr (.inr ⟨rfl, rfl, b, u ++ rest, dropWhile_start hk, hne, v, rfl, hv⟩)⟩

/-- A key is read where it stands: at the beginning of the object, or after a comma. -/
theorem key?_print (key : String) (first : Bool) {s rest : List UInt8}
    (hs : s = if first then Utf8.encode (printString key) ++ rest
      else 0x2C :: (Utf8.encode (printString key) ++ rest)) :
    key? first s = .ok (some key, rest) := by
  have hkey := text_printString key rest
  obtain ⟨u, hu⟩ : ∃ u, Utf8.encode (printString key) = 0x22 :: u := ⟨_, rfl⟩
  rw [hu, List.cons_append] at hkey hs
  refine key?_eq_ok.mpr ?_
  cases first with
  | true =>
    rw [if_pos rfl] at hs
    subst hs
    exact .inr (.inl ⟨rfl, _, rfl, key, rfl, hkey⟩)
  | false =>
    rw [if_neg Bool.false_ne_true] at hs
    subst hs
    exact .inr (.inr ⟨rfl, _, rfl, _, rfl, key, rfl, hkey⟩)

theorem keptMember_print (key : String) (before : List (String × Json)) {v : Json} {depth : Nat} {rest : List UInt8}
    (hv : kept depth (Utf8.encode v.print ++ rest) = .ok (v, rest)) :
    keptMember (kept depth) before key (0x3A :: (Utf8.encode v.print ++ rest)) = .ok ((key, v) :: before, rest) :=
  keptMember_eq_ok.mpr ⟨_, v, colon_eq_ok.mpr rfl, hv, rfl⟩

theorem encode_cons_of {c : Char} {b : UInt8} (h : Utf8.encodeChar c = [b]) (cs : List Char) :
    Utf8.encode (c :: cs) = b :: Utf8.encode cs := by
  rw [Utf8.encode_cons, h, List.singleton_append]

mutual

theorem kept_print : ∀ (v : Json) (depth : Nat) (rest : List UInt8), v.numberFree = true → v.depth ≤ depth →
    kept depth (Utf8.encode v.print ++ rest) = .ok (v, rest)
  | .null, _, _, hfree, _ => kept_of_keptAs hfree rfl
  | .bool true, _, _, hfree, _ => kept_of_keptAs hfree rfl
  | .bool false, _, _, hfree, _ => kept_of_keptAs hfree rfl
  | .number _, _, _, hfree, _ => by cases hfree
  | .string x, _, rest, hfree, _ => kept_of_keptAs hfree (text_printString x rest)
  | .array [], depth, rest, hfree, hdepth => by
    cases depth with
    | zero => cases hdepth
    | succ depth =>
      have hend : Items (kept depth) true (0x5D :: rest) [] rest := .last rfl
      exact kept_of_keptAs hfree ⟨depth, rfl, items_eq_ok.mpr hend⟩
  | .array (v :: vs), depth, rest, hfree, hdepth => by
    cases depth with
    | zero => cases hdepth
    | succ depth =>
      obtain ⟨hv, hvs⟩ := Bool.and_eq_true_iff.mp hfree
      simp only [Json.depth, depthOfItems, Nat.add_le_add_iff_right, Nat.max_le] at hdepth
      refine kept_of_keptAs hfree ⟨depth, rfl, items_eq_ok.mpr ?_⟩
      have hfirst := kept_print v depth (Utf8.encode (printItems vs) ++ rest) hv hdepth.1
      rw [print, encode_cons_of rfl, Utf8.encode_append, List.cons_append, List.append_assoc]
      exact .more (item?_print true hv hfirst rfl) (items_printItems vs depth rest hvs hdepth.2)
  | .object [], depth, rest, hfree, hdepth => by
    cases depth with
    | zero => cases hdepth
    | succ depth =>
      have hend : Members (keptMember (kept depth)) true [] (0x7D :: rest) [] rest := .last rfl
      exact kept_of_keptAs hfree ⟨depth, rfl, members_eq_ok.mpr hend⟩
  | .object ((key, v) :: ms), depth, rest, hfree, hdepth => by
    cases depth with
    | zero => cases hdepth
    | succ depth =>
      obtain ⟨hv, hms⟩ := Bool.and_eq_true_iff.mp hfree
      simp only [Json.depth, depthOfMembers, Nat.add_le_add_iff_right, Nat.max_le] at hdepth
      refine kept_of_keptAs hfree ⟨depth, rfl, members_eq_ok.mpr ?_⟩
      have hfirst := kept_print v depth (Utf8.encode (printMembers ms) ++ rest) hv hdepth.1
      have hmore := members_printMembers ms depth [(key, v)] rest hms hdepth.2
      rw [print, encode_cons_of rfl, Utf8.encode_append, encode_cons_of rfl, Utf8.encode_append, List.cons_append,
        List.append_assoc, List.cons_append, List.append_assoc, List.reverse_cons]
      exact .more (key?_print key true rfl) (keptMember_print key [] hfirst) hmore

theorem items_printItems : ∀ (vs : List Json) (depth : Nat) (rest : List UInt8), itemsNumberFree vs = true →
    depthOfItems vs ≤ depth → Items (kept depth) false (Utf8.encode (printItems vs) ++ rest) vs rest
  | [], depth, rest, _, _ => by
    rw [printItems, encode_cons_of rfl, Utf8.encode_nil, List.cons_append, List.nil_append]
    exact .last (item?_eq_ok.mpr ⟨0x5D, rest, rfl, .inl ⟨rfl, rfl, rfl⟩⟩)
  | v :: vs, depth, rest, hfree, hdepth => by
    obtain ⟨hv, hvs⟩ := Bool.and_eq_true_iff.mp hfree
    rw [depthOfItems, Nat.max_le] at hdepth
    have hfirst := kept_print v depth (Utf8.encode (printItems vs) ++ rest) hv hdepth.1
    rw [printItems, encode_cons_of rfl, Utf8.encode_append, List.cons_append, List.append_assoc]
    exact .more (item?_print false hv hfirst rfl) (items_printItems vs depth rest hvs hdepth.2)

theorem members_printMembers : ∀ (ms : List (String × Json)) (depth : Nat) (before : List (String × Json))
    (rest : List UInt8), membersNumberFree ms = true → depthOfMembers ms ≤ depth →
    Members (keptMember (kept depth)) false before (Utf8.encode (printMembers ms) ++ rest) (ms.reverse ++ before) rest
  | [], depth, before, rest, _, _ => by
    rw [printMembers, encode_cons_of rfl, Utf8.encode_nil, List.cons_append, List.nil_append]
    exact .last (key?_eq_ok.mpr (.inl ⟨rfl, rfl⟩))
  | (key, v) :: ms, depth, before, rest, hfree, hdepth => by
    obtain ⟨hv, hms⟩ := Bool.and_eq_true_iff.mp hfree
    rw [depthOfMembers, Nat.max_le] at hdepth
    have hfirst := kept_print v depth (Utf8.encode (printMembers ms) ++ rest) hv hdepth.1
    have hmore := members_printMembers ms depth ((key, v) :: before) rest hms hdepth.2
    rw [printMembers, encode_cons_of rfl, Utf8.encode_append, encode_cons_of rfl, Utf8.encode_append, List.cons_append,
      List.append_assoc, List.cons_append, List.append_assoc, List.reverse_cons, List.append_assoc]
    exact .more (key?_print key false rfl) (keptMember_print key before hfirst) hmore

end

end Reader

/-- A value without numbers is read back from its text, unless it is nested too deeply. -/
theorem Json.parse_print {v : Json} (hfree : v.numberFree = true) (hdepth : v.depth ≤ Reader.maxDepth) :
    Json.parse (Utf8.encode v.print) = .ok v := by
  have hkept := Reader.kept_print v Reader.maxDepth [] hfree hdepth
  rw [List.append_nil] at hkept
  have hall : (do let a ← Reader.kept Reader.maxDepth; Reader.finish; pure a : Reader Json) (Utf8.encode v.print)
      = .ok (v, []) := Reader.bind_eq_ok.mpr ⟨v, [], hkept, rfl⟩
  simp only [Json.parse, Reader.all, hall]

end ReadyPin

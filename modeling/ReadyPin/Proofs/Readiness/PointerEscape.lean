import Mathlib.Data.Set.Function
import ReadyPin.Proofs.Readiness.EncodingRoundTrips

/-!
# What an escaped key looks like

A key is escaped in two passes, the tildes before the slashes, and read back in two passes the other way round: first
`~1` becomes a slash, then `~0` a tilde. Neither second pass may touch what the first one has made. That it does not is
said by comparing both with what is done to one character at a time, `escapeChar` on the way there (`toList_escape`) and
`unescape` on the way back (`inPasses_of_unescape`).

`unescape` fails on a tilde that stands for nothing, so it also tells which texts can be read at all. Those of them
without a slash are the escaped keys, all of them and nothing else (`escaped_iff`).
-/

namespace ReadyPin.Pointer

/-! ## 1. Reading back in two passes -/

/-- Replaces every tilde with the given digit behind it, from the left. -/
def replacePairs (digit new : Char) : List Char → List Char
  | '~' :: d :: cs => if d = digit then new :: replacePairs digit new cs else '~' :: replacePairs digit new (d :: cs)
  | c :: cs => c :: replacePairs digit new cs
  | [] => []

/-- Reads back the slashes, and then the tildes. -/
def inPasses (cs : List Char) : List Char := replacePairs '0' '~' (replacePairs '1' '/' cs)

/-- The key that is written as a text. -/
def unescaped (text : String) : String := String.ofList (inPasses text.toList)

-- In the other order the one would be read together with the tilde that has just been made.
example : inPasses "~01".toList = "~1".toList ∧ replacePairs '1' '/' (replacePairs '0' '~' "~01".toList) = ['/'] := by
  decide

theorem replacePairs_cons {c : Char} (hc : c ≠ '~') (digit new : Char) (cs : List Char) :
    replacePairs digit new (c :: cs) = c :: replacePairs digit new cs :=
  replacePairs.eq_2 _ _ _ _ fun _ _ h _ => hc h

/-- Where every tilde stands for something, the two passes read what is read character by character. -/
theorem inPasses_of_unescape {cs ds : List Char} (h : unescape cs = some ds) : inPasses cs = ds := by
  have hzero : '0' ≠ '~' := by decide
  have hslash : '/' ≠ '~' := by decide
  unfold inPasses
  fun_induction unescape cs generalizing ds with
  | case1 =>
    cases h
    rfl
  | case2 cs ih =>
    obtain ⟨rest, hrest, rfl⟩ := Option.map_eq_some_iff.mp h
    rw [replacePairs, if_neg (by decide), replacePairs_cons hzero, replacePairs, if_pos rfl, ih hrest]
  | case3 cs ih =>
    obtain ⟨rest, hrest, rfl⟩ := Option.map_eq_some_iff.mp h
    rw [replacePairs, if_pos rfl, replacePairs_cons hslash, ih hrest]
  | case4 => cases h
  | case5 c cs _ _ hc ih =>
    obtain ⟨rest, hrest, rfl⟩ := Option.map_eq_some_iff.mp h
    rw [replacePairs_cons hc, replacePairs_cons hc, ih hrest]

/-! ## 2. Texts that can be read -/

/-- A zero or a one follows each tilde. -/
def TildesFollowed (cs : List Char) : Prop :=
  ∀ i : Nat, cs[i]? = some '~' → cs[i + 1]? = some '0' ∨ cs[i + 1]? = some '1'

theorem tildesFollowed_cons (c : Char) (cs : List Char) : TildesFollowed (c :: cs) ↔
    (c = '~' → cs[0]? = some '0' ∨ cs[0]? = some '1') ∧ TildesFollowed cs := by
  unfold TildesFollowed
  rw [← Nat.and_forall_add_one]
  simp

/-- These are the texts that `unescape` reads. -/
theorem isSome_unescape (cs : List Char) : (unescape cs).isSome = true ↔ TildesFollowed cs := by
  fun_induction unescape cs with
  | case1 => simp [TildesFollowed]
  | case2 cs ih => simp [tildesFollowed_cons, ih]
  | case3 cs ih => simp [tildesFollowed_cons, ih]
  | case4 cs hzero hone =>
    cases cs with
    | nil => simp [tildesFollowed_cons]
    | cons d cs =>
      have hd : d ≠ '0' ∧ d ≠ '1' := ⟨fun h => hzero cs rfl (h ▸ rfl), fun h => hone cs rfl (h ▸ rfl)⟩
      simp [tildesFollowed_cons, hd]
  | case5 c cs _ _ hc ih => simp [tildesFollowed_cons, hc, ih]

/-- A text without slashes that can be read is what is written for the key that has been read. -/
theorem escaped_of_unescape {cs ds : List Char} (hslash : '/' ∉ cs) (h : unescape cs = some ds) :
    ds.flatMap escapeChar = cs := by
  fun_induction unescape cs generalizing ds with
  | case1 =>
    cases h
    rfl
  | case2 cs ih =>
    obtain ⟨rest, hrest, rfl⟩ := Option.map_eq_some_iff.mp h
    simp only [List.mem_cons, not_or] at hslash
    rw [List.flatMap_cons, ih hslash.2.2 hrest]
    rfl
  | case3 cs ih =>
    obtain ⟨rest, hrest, rfl⟩ := Option.map_eq_some_iff.mp h
    simp only [List.mem_cons, not_or] at hslash
    rw [List.flatMap_cons, ih hslash.2.2 hrest]
    rfl
  | case4 => cases h
  | case5 c cs _ _ hc ih =>
    obtain ⟨rest, hrest, rfl⟩ := Option.map_eq_some_iff.mp h
    obtain ⟨hne, hslash⟩ := List.ne_and_not_mem_of_not_mem_cons hslash
    rw [List.flatMap_cons, ih hslash hrest, escapeChar, if_neg hc, if_neg (Ne.symm hne), List.singleton_append]

/-! ## 3. Escaped keys -/

/-- A text has the form of an escaped key: no slash is in it, and a zero or a one follows each tilde. -/
structure IsEscaped (text : String) : Prop where
  no_slash : '/' ∉ text.toList
  tildes_followed : TildesFollowed text.toList

theorem unescape_escape (key : String) : unescape (escape key).toList = some key.toList := by
  rw [toList_escape, unescape_escaped]

theorem isEscaped_escape (key : String) : IsEscaped (escape key) where
  no_slash := by
    rw [toList_escape]
    exact slash_notMem_escaped _
  tildes_followed := by
    rw [← isSome_unescape, unescape_escape]
    rfl

theorem unescaped_escape (key : String) : unescaped (escape key) = key := by
  rw [unescaped, inPasses_of_unescape (unescape_escape key), String.ofList_toList]

/-- A text of this form is read, in one pass as in two. -/
theorem IsEscaped.unescape_eq {text : String} (h : IsEscaped text) :
    unescape text.toList = some (unescaped text).toList := by
  obtain ⟨cs, hcs⟩ := Option.isSome_iff_exists.mp ((isSome_unescape _).mpr h.tildes_followed)
  rw [hcs, unescaped, inPasses_of_unescape hcs, String.toList_ofList]

theorem IsEscaped.escape_unescaped {text : String} (h : IsEscaped text) : escape (unescaped text) = text := by
  rw [← String.toList_inj, toList_escape]
  exact escaped_of_unescape h.no_slash h.unescape_eq

theorem escaped_iff {text : String} : IsEscaped text ↔ escape (unescaped text) = text := by
  constructor
  · exact IsEscaped.escape_unescaped
  · intro h
    rw [← h]
    exact isEscaped_escape _

theorem escape_injective : Function.Injective escape := Function.LeftInverse.injective unescaped_escape

theorem escape_append (key more : String) : escape (key ++ more) = escape key ++ escape more := by
  rw [← String.toList_inj]
  simp only [toList_escape, String.toList_append, List.flatMap_append]

/-- **Escaped keys.** Escaping is a bijection between all texts and those of one form.

* The two passes of it do what is done by replacing each character by itself, a tilde by `~0` and a slash by `~1`.
* In an escaped key there is no slash, and each tilde has a zero or a one behind it.
* Reading it back, `~1` as a slash first and then `~0` as a tilde, gives the key; and so does reading it from left to
  right in one go.
* Every text of that form is the escaped form of what is read from it, and no other text is.
* So no two keys have one escaped form, and a key in two parts is escaped part by part. -/
theorem escape_bijective :
    (∀ key, (escape key).toList = key.toList.flatMap fun c =>
      if c = '~' then ['~', '0'] else if c = '/' then ['~', '1'] else [c])
    ∧ (∀ key, IsEscaped (escape key))
    ∧ (∀ key, unescaped (escape key) = key ∧ unescape (escape key).toList = some key.toList)
    ∧ (∀ text, IsEscaped text ↔ escape (unescaped text) = text)
    ∧ (∀ text, IsEscaped text ↔ '/' ∉ text.toList ∧ unescape text.toList = some (unescaped text).toList)
    ∧ Set.BijOn escape Set.univ {text | IsEscaped text}
    ∧ Function.Injective escape
    ∧ ∀ key more, escape (key ++ more) = escape key ++ escape more := by
  refine ⟨toList_escape, isEscaped_escape, fun key => ⟨unescaped_escape key, unescape_escape key⟩,
    fun text => escaped_iff, fun text => ?_, ?_, escape_injective, escape_append⟩
  · constructor
    · intro h
      exact ⟨h.no_slash, h.unescape_eq⟩
    · intro h
      obtain ⟨hslash, hread⟩ := h
      exact ⟨hslash, (isSome_unescape _).mp (by rw [hread]; rfl)⟩
  · refine ⟨fun key _ => isEscaped_escape key, escape_injective.injOn, fun text htext => ?_⟩
    exact ⟨unescaped text, Set.mem_univ _, escaped_iff.mp htext⟩

end ReadyPin.Pointer

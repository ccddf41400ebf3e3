import Mathlib.Tactic.Choose
import ReadyPin.Proofs.Json.Coherence
import ReadyPin.Proofs.Json.Members

/-!
# Strict records as values

What a strict record is read as depends on the value that its text writes, in both of its forms: `strictOf` is what is
made of the members of an object, each at most once and the required ones at least once, and of the items of a list, in
the order of the record. So strict records can stand wherever a reader is compared with a kept value
(`Means.strictRecord`), and so can a choice between names (`choice_means`).
-/

namespace ReadyPin

namespace Reader

variable {α σ : Type}

/-! ## 1. Strict records in an object -/

/-- What is read of the members of a strict record depends on their values, and `f` says how. -/
def SlotsMean (slots : List (Slot σ)) (f : Slot σ → σ → Json → Option σ) : Prop :=
  ∀ s ∈ slots, ∀ before, Means (s.take before) (f s before)

variable {slots : List (Slot σ)} {f : Slot σ → σ → Json → Option σ}

/-- What a member does, by its value. -/
def slotOf (slots : List (Slot σ)) (f : Slot σ → σ → Json → Option σ) (state : σ × List String) (key : String)
    (v : Json) : Option (σ × List String) :=
  match slots.find? (·.key == key) with
  | some s => if state.2.contains key then none else (f s state.1 v).map fun after => (after, key :: state.2)
  | none => some state

theorem slot_means (h : SlotsMean slots f) : StepMeans (slot slots) (slotOf slots f) := by
  rintro ⟨before, seen⟩ key depth s v t w hcolon hv a u
  unfold slot slotOf
  cases hfind : slots.find? (·.key == key) with
  | some member =>
    dsimp only
    split
    · simp [mismatched]
    · have hmember := (h member (List.mem_of_find?_eq_some hfind) before).map fun after => (after, key :: seen)
      exact StepMeans.afterColon (fun _ _ => hmember) (before, seen) key depth s v t w hcolon hv a u
  | none =>
    have hpass := pass_means.map fun _ => (before, seen)
    exact StepMeans.afterColon (fun _ _ => hpass) (before, seen) key depth s v t w hcolon hv a u

/-- The result, unless a member that is required has not been seen. -/
def complete (slots : List (Slot σ)) (state : σ × List String) : Option σ :=
  if (slots.find? fun s => s.required && !state.2.contains s.key).isSome then none else some state.1

theorem complete_iff {state : σ × List String} {s u : List UInt8} {a : σ} :
    (match slots.find? fun s => s.required && !state.2.contains s.key with
      | some s => mismatched (.missing s.key)
      | none => pure state.1 : Reader σ) s = .ok (a, u) ↔ complete slots state = some a ∧ u = s := by
  unfold complete
  cases slots.find? fun s => s.required && !state.2.contains s.key with
  | some s => simp [mismatched]
  | none =>
    rw [pure_eq_ok]
    simp [eq_comm]

/-! ## 2. Strict records in a list -/

/-- What is made of the items of a list, for the members in order. -/
def listedOf (f : Slot σ → σ → Json → Option σ) (read : σ) : List (Slot σ) → List Json → Option σ
  | [], [] => some read
  | [], _ :: _ => none
  | s :: rest, [] => if (s :: rest).any (·.listed) then none else some read
  | s :: rest, v :: vs => (f s read v).bind fun after => listedOf f after rest vs

/-- A list that must end does so where it could end in any case. -/
theorem endOfList_eq_ok {read : Reader α} {first : Bool} {s u : List UInt8} :
    endOfList s = .ok ((), u) ↔ item? read first s = .ok (none, u) := by
  have hend : endOfList s = .ok ((), u) ↔ s.dropWhile isBlank = 0x5D :: u := by
    unfold endOfList
    rw [next_bind_eq_ok]
    cases s.dropWhile isBlank with
    | nil => simp [malformed]
    | cons b w =>
      by_cases hb : b = 0x5D
      · simp [hb, drop]
      by_cases hc : b = 0x2C
      · simp [hc, drop_bind_eq_ok, next_bind_eq_ok, malformed]
      · simp [hb, hc, malformed]
  rw [hend, item?_eq_ok]
  constructor
  · intro h
    exact ⟨0x5D, u, h, .inl ⟨rfl, rfl, rfl⟩⟩
  · intro h
    obtain ⟨b, w, hs, ⟨rfl, -, rfl⟩ | ⟨-, -, a, ha, -⟩ | ⟨-, -, c, x, -, -, a, ha, -⟩⟩ := h
    · exact hs
    · cases ha
    · cases ha

/-- What comes of a list that ends in front of the given members. -/
theorem ended_iff {expected : String} {index : Nat} {read : σ} {missing : List (Slot σ)} {s u : List UInt8} {a : σ} :
    (match missing.findIdx? (·.listed) with
      | some i => mismatched (.length (index + i) expected)
      | none => pure read : Reader σ) s = .ok (a, u)
      ↔ (if missing.any (·.listed) then none else some read) = some a ∧ u = s := by
  rw [← List.findIdx?_isSome]
  cases missing.findIdx? (·.listed) with
  | some i => simp [mismatched]
  | none =>
    rw [pure_eq_ok]
    simp [eq_comm]

theorem slots_means (expected : String) {depth : Nat} : ∀ {slots : List (Slot σ)}, SlotsMean slots f →
    ∀ {vs : List Json} {first : Bool} {s t : List UInt8}, Items (kept depth) first s vs t →
    ∀ (index : Nat) (read : σ), (index == 0) = first →
    ∀ a u, Reader.slots expected index read slots s = .ok (a, u) ↔ listedOf f read slots vs = some a ∧ u = t := by
  intro slots
  induction slots with
  | nil =>
    intro _ vs first s t hvs index read hindex a u
    rw [Reader.slots, bind_eq_ok]
    cases hvs with
    | last hnone =>
      rw [listedOf]
      constructor
      · intro h
        obtain ⟨_, w, hend, h⟩ := h
        cases (endOfList_eq_ok.mp hend).symm.trans hnone
        obtain ⟨rfl, rfl⟩ := pure_eq_ok.mp h
        exact ⟨rfl, rfl⟩
      · intro h
        obtain ⟨hread, rfl⟩ := h
        cases hread
        exact ⟨(), u, endOfList_eq_ok.mpr hnone, rfl⟩
    | more hsome _ =>
      refine ⟨fun h => ?_, fun h => nomatch h.1⟩
      obtain ⟨_, w, hend, -⟩ := h
      cases (endOfList_eq_ok.mp hend).symm.trans hsome
  | cons member rest ih =>
    intro h vs first s t hvs index read hindex a u
    rw [Reader.slots, bind_eq_ok, hindex]
    cases hvs with
    | last hnone =>
      have hend := item?_end (member.take read) hnone
      constructor
      · intro hok
        obtain ⟨o, w, hitem, hrest⟩ := hok
        cases hend.symm.trans hitem
        exact ended_iff.mp hrest
      · intro hval
        exact ⟨none, t, hend, ended_iff.mpr hval⟩
    | @more _ _ t₁ _ v vs hsome hrest =>
      obtain ⟨w, hv, hplace⟩ := item?_place hsome
      have hmember := h member List.mem_cons_self read depth w v t₁ hv
      have hnext := ih (fun s hs => h s (List.mem_cons_of_mem member hs)) hrest (index + 1)
      rw [listedOf, Option.bind_eq_some_iff]
      constructor
      · intro hok
        obtain ⟨o, x, hitem, hafter⟩ := hok
        obtain ⟨after, rfl, hread⟩ := (hplace (member.take read) o x).mp hitem
        obtain ⟨hf, rfl⟩ := (hmember after x).mp hread
        obtain ⟨hlisted, rfl⟩ := (hnext after rfl a u).mp hafter
        exact ⟨⟨after, hf, hlisted⟩, rfl⟩
      · intro hval
        obtain ⟨⟨after, hf, hlisted⟩, rfl⟩ := hval
        have hread := (hmember after t₁).mpr ⟨hf, rfl⟩
        exact ⟨some after, t₁, (hplace _ _ _).mpr ⟨after, rfl, hread⟩, (hnext after rfl a u).mpr ⟨hlisted, rfl⟩⟩

/-! ## 3. Both forms -/

/-- What is made of the value of a strict record. -/
def strictOf (slots : List (Slot σ)) (f : Slot σ → σ → Json → Option σ) (start : σ) : Json → Option σ
  | .object ms => (ms.foldlM (fun state m => slotOf slots f state m.1 m.2) (start, [])).bind (complete slots)
  | .array vs => listedOf f start slots vs
  | _ => none

theorem Means.strictRecord [TakesSlots slots] (h : SlotsMean slots f) (name : String) (size : Nat) (start : σ) :
    Means (Reader.strictRecord name size start slots) (strictOf slots f start) := by
  refine .ofKind fun depth s v t hv a u => ?_
  cases v with
  | bool b => cases b <;> exact unexpected_iff rfl
  | object ms =>
    obtain ⟨d, rfl, hms⟩ := hv
    have hmembers := members_means (slot_means h) (start, []) hms
    refine bind_eq_ok.trans ?_
    rw [strictOf, Option.bind_eq_some_iff]
    constructor
    · intro hok
      obtain ⟨state, w, hstate, hcomplete⟩ := hok
      obtain ⟨hfold, rfl⟩ := (hmembers state w).mp hstate
      obtain ⟨hresult, rfl⟩ := complete_iff.mp hcomplete
      exact ⟨⟨state, hfold, hresult⟩, rfl⟩
    · intro hval
      obtain ⟨⟨state, hfold, hresult⟩, rfl⟩ := hval
      exact ⟨state, u, (hmembers state u).mpr ⟨hfold, rfl⟩, complete_iff.mpr ⟨hresult, rfl⟩⟩
  | array vs =>
    obtain ⟨d, rfl, hvs⟩ := hv
    exact slots_means _ h (items_eq_ok.mp hvs) 0 start rfl a u
  | _ => exact unexpected_iff rfl

/-- What a strict record is read as depends on its value, if that holds of its members. -/
class FaithfulSlots (slots : List (Slot σ)) : Prop where
  take : ∀ s ∈ slots, ∀ before, Faithful (s.take before)

instance : FaithfulSlots (σ := σ) [] := ⟨nofun⟩

instance {s : Slot σ} {slots : List (Slot σ)} [h : ∀ before, Faithful (s.take before)] [hs : FaithfulSlots slots] :
    FaithfulSlots (s :: slots) where
  take := by
    intro s' hs' before
    rcases List.mem_cons.mp hs' with rfl | hs'
    · exact h before
    · exact hs.take s' hs' before

instance {slots more : List (Slot σ)} [h : FaithfulSlots slots] [h' : FaithfulSlots more] :
    FaithfulSlots (slots ++ more) where
  take s hs := (List.mem_append.mp hs).elim (h.take s) (h'.take s)

instance (key : String) (read : Reader α) [h : Faithful read] (put : σ → α → σ) (before : σ) :
    Faithful ((Slot.needed key read put).take before) := .map h (put before)

instance (key : String) (read : Reader α) [h : Faithful read] (put : σ → α → σ) (before : σ) :
    Faithful ((Slot.extra key read put).take before) := .map h (put before)

instance (key : String) (read : Reader α) [h : Faithful read] (put : σ → Option α → σ) (before : σ) :
    Faithful ((Slot.nullable key read put).take before) :=
  .map (inferInstanceAs (Faithful (Source.nullable read))) (put before)

theorem FaithfulSlots.exists_means [h : FaithfulSlots slots] : ∃ f, SlotsMean slots f := by
  have hmeans : ∀ s before, ∃ g : Json → Option σ, s ∈ slots → Means (s.take before) g := by
    intro s before
    by_cases hs : s ∈ slots
    · obtain ⟨g, hg⟩ := (h.take s hs before).means
      exact ⟨g, fun _ => hg⟩
    · exact ⟨fun _ => none, fun h => absurd h hs⟩
  choose f hf using hmeans
  exact ⟨f, fun s hs before => hf s before hs⟩

instance {name : String} {size : Nat} {start : σ} [TakesSlots slots] [FaithfulSlots slots] :
    Faithful (Reader.strictRecord name size start slots) :=
  FaithfulSlots.exists_means.elim fun _ hf => ⟨_, Means.strictRecord hf name size start⟩

/-! ## 4. Choices -/

theorem unit_means : Means unit fun
    | .null => some ()
    | _ => none := by
  refine .ofKind fun depth s v t hv a u => ?_
  cases v with
  | null => exact ok_iff hv
  | bool b => cases b <;> exact unexpected_iff rfl
  | _ => exact unexpected_iff rfl

/-- The name that is chosen, as a string or as the only key. -/
def chosen : Json → Option String
  | .string name => some name
  | .object [(name, .null)] => some name
  | _ => none

theorem nameOf_eq_ok {names : List (String × α)} {name : String} {a : α} {s u : List UInt8} :
    nameOf names name s = .ok (a, u) ↔ names.lookup name = some a ∧ u = s := by
  unfold nameOf
  cases names.lookup name with
  | none => simp [mismatched]
  | some v =>
    rw [pure_eq_ok]
    simp [eq_comm]

/-- What comes of the brace behind a choice. -/
theorem brace_eq_ok {a v : α} {s u : List UInt8} :
    (next >>= fun
      | none => malformed .endInObject
      | some b => if b = 0x7D then do drop; pure v else malformed .expectedValue : Reader α) s = .ok (a, u)
      ↔ v = a ∧ s.dropWhile isBlank = 0x7D :: u := by
  rw [next_bind_eq_ok]
  cases s.dropWhile isBlank with
  | nil => simp [malformed]
  | cons b w =>
    by_cases hb : b = 0x7D
    · subst hb
      refine (pure_eq_ok (s := w)).trans ?_
      simp
    · simp [hb, malformed]

/-- A choice in braces: the name, and null behind it. -/
theorem choice_object_eq_ok {names : List (String × α)} {s r u : List UInt8} (hs : s.dropWhile isBlank = 0x7B :: r)
    {a : α} : choice names s = .ok (a, u) ↔ ∃ name w₁ w₂ w₃, textAs "variant identifier" r = .ok (name, w₁)
      ∧ names.lookup name = some a ∧ colon w₁ = .ok ((), w₂) ∧ unit w₂ = .ok ((), w₃)
      ∧ w₃.dropWhile isBlank = 0x7D :: u := by
  unfold choice
  rw [next_bind_eq_ok, hs]
  dsimp only [List.head?_cons]
  rw [if_neg (by decide), if_pos rfl, drop_bind_eq_ok, bind_eq_ok]
  constructor
  · intro h
    obtain ⟨name, w₁, hname, hnamed⟩ := h
    obtain ⟨v, w, hv, hrest⟩ := bind_eq_ok.mp hnamed
    obtain ⟨_, w₂, hcolon, hrest⟩ := bind_eq_ok.mp hrest
    obtain ⟨_, w₃, hunit, hrest⟩ := bind_eq_ok.mp hrest
    obtain ⟨rfl, hbrace⟩ := brace_eq_ok.mp hrest
    obtain ⟨hlookup, rfl⟩ := nameOf_eq_ok.mp hv
    exact ⟨name, w, w₂, w₃, hname, hlookup, hcolon, hunit, hbrace⟩
  · intro h
    obtain ⟨name, w₁, w₂, w₃, hname, hlookup, hcolon, hunit, hbrace⟩ := h
    exact ⟨name, w₁, hname, bind_eq_ok.mpr ⟨a, w₁, nameOf_eq_ok.mpr ⟨hlookup, rfl⟩, bind_eq_ok.mpr ⟨(), w₂, hcolon,
      bind_eq_ok.mpr ⟨(), w₃, hunit, brace_eq_ok.mpr ⟨rfl, hbrace⟩⟩⟩⟩⟩

theorem textAs_eq_ok {expected : String} {s t : List UInt8} {x : String} :
    textAs expected s = .ok (x, t) ↔ ∃ u, s.dropWhile isBlank = 0x22 :: u ∧ text (0x22 :: u) = .ok (x, t) := by
  unfold textAs
  rw [bind_eq_ok]
  constructor
  · intro h
    obtain ⟨k, w, hk, h⟩ := h
    obtain ⟨b, u, hs, hb, rfl⟩ := kind_eq_ok.mp hk
    cases k
    case text => exact ⟨u, by rw [hs, Kind.ofByte_text hb], by rw [← Kind.ofByte_text hb]; exact h⟩
    all_goals exact absurd h unexpected_ne_ok
  · intro h
    obtain ⟨u, hs, hx⟩ := h
    exact ⟨.text, 0x22 :: u, kind_eq_ok.mpr ⟨0x22, u, hs, rfl, rfl⟩, hx⟩

/-- In braces the choice is one name with null behind it, and nothing else. -/
theorem choice_object_iff {names : List (String × α)} {depth : Nat} {s r t u : List UInt8} {ms : List (String × Json)}
    (hs : s.dropWhile isBlank = 0x7B :: r) (hms : Members (keptMember (kept depth)) true [] r ms.reverse t) {a : α} :
    choice names s = .ok (a, u) ↔ (chosen (.object ms)).bind (List.lookup · names) = some a ∧ u = t := by
  rw [choice_object_eq_ok hs]
  generalize hreverse : ms.reverse = rs at hms
  cases hms with
  | last hnone =>
    obtain rfl : ms = [] := List.reverse_eq_nil_iff.mp hreverse
    refine ⟨fun h => ?_, fun h => nomatch h.1⟩
    obtain ⟨name, w₁, w₂, w₃, hname, -⟩ := h
    obtain ⟨x, hx, -⟩ := textAs_eq_ok.mp hname
    rcases key?_eq_ok.mp hnone with ⟨hbrace, -⟩ | ⟨-, y, -, key, hkey, -⟩ | ⟨hfirst, -⟩
    · cases hx.symm.trans hbrace
    · cases hkey
    · cases hfirst
  | @more _ _ after _ _ w₁ w₃ _ key hkey hmember hrest =>
    obtain ⟨w₂, v, hcolon, hv, rfl⟩ := keptMember_eq_ok.mp hmember
    have hname : textAs "variant identifier" r = .ok (key, w₁) := by
      rcases key?_eq_ok.mp hkey with ⟨-, hnone⟩ | ⟨-, y, hy, key', hkey', htext⟩ | ⟨hfirst, -⟩
      · cases hnone
      · cases hkey'
        exact textAs_eq_ok.mpr ⟨y, hy, htext⟩
      · cases hfirst
    -- What is in front of the closing brace has been read by both, and is null.
    have hfront : ∀ {name x₁ x₂ x₃}, textAs "variant identifier" r = .ok (name, x₁) → colon x₁ = .ok ((), x₂) →
        unit x₂ = .ok ((), x₃) → name = key ∧ v = .null ∧ x₃ = w₃ := by
      intro name x₁ x₂ x₃ hname' hcolon' hunit
      cases hname'.symm.trans hname
      cases hcolon'.symm.trans hcolon
      obtain ⟨hnull, rfl⟩ := unit_means.eq hv hunit
      cases v with
      | null => exact ⟨rfl, rfl, rfl⟩
      | _ => cases hnull
    cases hrest with
    | last hend =>
      obtain rfl : ms = [(key, v)] := by simpa using congrArg List.reverse hreverse
      obtain ⟨hbrace, -⟩ : w₃.dropWhile isBlank = 0x7D :: t ∧ True := by
        rcases key?_eq_ok.mp hend with ⟨hbrace, -⟩ | ⟨hfirst, -⟩ | ⟨-, w, -, y, -, key', hkey', -⟩
        · exact ⟨hbrace, trivial⟩
        · cases hfirst
        · cases hkey'
      constructor
      · intro h
        obtain ⟨name, x₁, x₂, x₃, hname', hlookup, hcolon', hunit, hbrace'⟩ := h
        obtain ⟨rfl, rfl, rfl⟩ := hfront hname' hcolon' hunit
        cases hbrace'.symm.trans hbrace
        exact ⟨hlookup, rfl⟩
      · intro h
        obtain ⟨hchosen, rfl⟩ := h
        cases v with
        | null => exact ⟨key, w₁, w₂, w₃, hname, hchosen, hcolon, unit_means.read_eq hv rfl, hbrace⟩
        | _ => cases hchosen
    | @more _ _ after' _ _ x₁ x₂ _ key' hkey' hmember' hrest' =>
      obtain ⟨y, v', -, -, rfl⟩ := keptMember_eq_ok.mp hmember'
      obtain ⟨more, hrs, -⟩ := moreMembers_means (keptMember_means (kept_means depth)) hrest'
      obtain rfl : ms = (key, v) :: (key', v') :: more := by simpa using congrArg List.reverse (hreverse.trans hrs)
      refine ⟨fun h => ?_, fun h => ?_⟩
      · obtain ⟨name, x₁, x₂, x₃, hname', -, hcolon', hunit, hbrace⟩ := h
        obtain ⟨-, -, rfl⟩ := hfront hname' hcolon' hunit
        rcases key?_eq_ok.mp hkey' with ⟨-, hnone⟩ | ⟨hfirst, -⟩ | ⟨-, w, hcomma, -⟩
        · cases hnone
        · cases hfirst
        · cases hbrace.symm.trans hcomma
      · cases v <;> cases h.1

theorem choice_means (names : List (String × α)) :
    Means (choice names) fun v => (chosen v).bind (List.lookup · names) := by
  intro depth s v t hv a u
  obtain ⟨w, hkind, has⟩ := kept_eq_ok.mp hv
  obtain ⟨b, r, hs, hb, rfl⟩ := kind_eq_ok.mp hkind
  -- Values of other kinds begin with none of the two bytes.
  have hother (h : Kind.ofJson v ≠ .text ∧ Kind.ofJson v ≠ .object) (hchosen : chosen v = none) :
      choice names s = .ok (a, u) ↔ (chosen v).bind (List.lookup · names) = some a ∧ u = t := by
    have hquote : b ≠ 0x22 := by
      rintro rfl
      exact h.1 (Option.some.inj hb).symm
    have hbrace : b ≠ 0x7B := by
      rintro rfl
      exact h.2 (Option.some.inj hb).symm
    rw [hchosen, choice, next_bind_eq_ok, hs]
    simp [hquote, hbrace, malformed]
  cases v with
  | string x =>
    obtain rfl := Kind.ofByte_text hb
    rw [choice, next_bind_eq_ok, hs]
    dsimp only [List.head?_cons]
    rw [if_pos rfl, bind_eq_ok]
    constructor
    · intro h
      obtain ⟨x', w, htext, hname⟩ := h
      cases htext.symm.trans has
      exact nameOf_eq_ok.mp hname
    · intro h
      exact ⟨x, t, has, nameOf_eq_ok.mpr h⟩
  | object ms =>
    obtain rfl := Kind.ofByte_object hb
    obtain ⟨d, rfl, hms⟩ := has
    exact choice_object_iff hs (members_eq_ok.mp hms)
  | bool b => cases b <;> exact hother (by decide) rfl
  | _ => exact hother (by simp [Kind.ofJson]) rfl

instance {names : List (String × α)} : Faithful (choice names) := ⟨_, choice_means names⟩

/-! ## 5. A text at the front of a record -/

/-- The value has been read from a text. -/
def Written (v : Json) : Prop := ∃ depth s t, kept depth s = .ok (v, t)

theorem written_of_members {depth : Nat} {first : Bool} {before ms : List (String × Json)} {s t : List UInt8}
    (h : Members (keptMember (kept depth)) first before s ms t) (hbefore : ∀ m ∈ before, Written m.2) :
    ∀ m ∈ ms, Written m.2 := by
  induction h with
  | last _ => exact hbefore
  | more _ hmember _ ih =>
    obtain ⟨x, v, -, hv, rfl⟩ := keptMember_eq_ok.mp hmember
    exact ih (List.forall_mem_cons.mpr ⟨⟨_, _, _, hv⟩, hbefore⟩)

theorem written_of_items {depth : Nat} {first : Bool} {vs : List Json} {s t : List UInt8}
    (h : Items (kept depth) first s vs t) : ∀ v ∈ vs, Written v := by
  induction h with
  | last _ => exact nofun
  | more hsome _ ih =>
    obtain ⟨w, hv, -⟩ := item?_place (β := Json) hsome
    exact List.forall_mem_cons.mpr ⟨⟨_, _, _, hv⟩, ih⟩

/-- So have the members of an object, and the items of a list. -/
theorem Written.member {ms : List (String × Json)} (h : Written (.object ms)) : ∀ m ∈ ms, Written m.2 := by
  obtain ⟨depth, s, t, hv⟩ := h
  obtain ⟨u, -, d, rfl, hms⟩ := kept_eq_ok.mp hv
  intro m hm
  exact written_of_members (members_eq_ok.mp hms) nofun m (List.mem_reverse.mpr hm)

theorem Written.item {vs : List Json} (h : Written (.array vs)) : ∀ v ∈ vs, Written v := by
  obtain ⟨depth, s, t, hv⟩ := h
  obtain ⟨u, -, d, rfl, hvs⟩ := kept_eq_ok.mp hv
  exact written_of_items (items_eq_ok.mp hvs)

/-- A member under another key that has nothing to do with what `get` gets. -/
structure Aside {β : Type} (key : String) (get : σ → β) (s : Slot σ) : Prop where
  key_ne : s.key ≠ key
  keeps : ∀ before x after t, s.take before x = .ok (after, t) → get after = get before

section Text

variable {get : σ → String} {key : String}

theorem Aside.of_put {s : Slot σ} {read : Reader α} {put : σ → α → σ}
    (htake : ∀ before, s.take before = read >>= fun v => pure (put before v)) (hkey : s.key ≠ key)
    (hput : ∀ before v, get (put before v) = get before) : Aside key get s where
  key_ne := hkey
  keeps before x after t h := by
    rw [htake] at h
    obtain ⟨v, u, -, h⟩ := bind_eq_ok.mp h
    obtain ⟨rfl, -⟩ := pure_eq_ok.mp h
    exact hput before v

theorem Aside.needed {other : String} {read : Reader α} {put : σ → α → σ} (hkey : other ≠ key)
    (hput : ∀ before v, get (put before v) = get before) : Aside key get (.needed other read put) :=
  .of_put (fun _ => rfl) hkey hput

theorem Aside.extra {other : String} {read : Reader α} {put : σ → α → σ} (hkey : other ≠ key)
    (hput : ∀ before v, get (put before v) = get before) : Aside key get (.extra other read put) :=
  .of_put (fun _ => rfl) hkey hput

theorem Aside.nullable {other : String} {read : Reader α} {put : σ → Option α → σ} (hkey : other ≠ key)
    (hput : ∀ before v, get (put before v) = get before) : Aside key get (.nullable other read put) :=
  .of_put (fun _ => rfl) hkey hput

theorem Aside.of_means {s : Slot σ} (h : Aside key get s) {g : Json → Option σ} {before after : σ}
    (hg : Means (s.take before) g) {v : Json} (hv : Written v) (hafter : g v = some after) :
    get after = get before := by
  obtain ⟨depth, x, t, hv⟩ := hv
  exact h.keeps before x after t (hg.read_eq hv hafter)

/-- A member that is a required text. -/
structure IsText (get : σ → String) (s : Slot σ) : Prop where
  required : s.required = true
  listed : s.listed = true
  take : ∃ put : σ → String → σ, (∀ before, s.take before = Source.text >>= fun x => pure (put before x))
    ∧ ∀ before x, get (put before x) = x

theorem IsText.of_means {s : Slot σ} (h : IsText get s) {g : Json → Option σ} {before after : σ}
    (hg : Means (s.take before) g) {v : Json} (hv : Written v) (hafter : g v = some after) :
    v = .string (get after) := by
  obtain ⟨put, htake, hput⟩ := h.take
  obtain ⟨depth, x, t, hv⟩ := hv
  have hread := hg.read_eq hv hafter
  rw [htake] at hread
  obtain ⟨text, u, htext, hpure⟩ := bind_eq_ok.mp hread
  obtain ⟨rfl, -⟩ := pure_eq_ok.mp hpure
  obtain ⟨hvalue, -⟩ := (textAs_means _).eq hv htext
  cases v with
  | string y =>
    obtain rfl := Option.some.inj hvalue
    rw [hput]
  | _ => cases hvalue

/-- The value of the first member of a strict record. -/
def firstMember (key : String) : Json → Option Json
  | .object ms => Json.lookup ms key
  | .array (v :: _) => some v
  | _ => none

variable {member : Slot σ} {rest : List (Slot σ)}

theorem slotOf_text (hf : SlotsMean (member :: rest) f) (hmember : IsText get member) {before after : σ}
    {seen seen' : List String} {v : Json} (hv : Written v)
    (h : slotOf (member :: rest) f (before, seen) member.key v = some (after, seen')) :
    member.key ∉ seen ∧ member.key ∈ seen' ∧ v = .string (get after) := by
  have hfind : (member :: rest).find? (·.key == member.key) = some member := List.find?_cons_of_pos (by simp)
  simp only [slotOf, hfind, List.contains_iff_mem] at h
  split at h
  · cases h
  rename_i hseen
  obtain ⟨after', hafter, heq⟩ := Option.map_eq_some_iff.mp h
  cases heq
  exact ⟨hseen, List.mem_cons_self, hmember.of_means (hf member List.mem_cons_self before) hv hafter⟩

theorem slotOf_other (hf : SlotsMean (member :: rest) f) (hrest : ∀ s ∈ rest, Aside member.key get s)
    {before after : σ} {seen seen' : List String} {key : String} {v : Json} (hv : Written v) (hkey : key ≠ member.key)
    (h : slotOf (member :: rest) f (before, seen) key v = some (after, seen')) :
    get after = get before ∧ (member.key ∈ seen' ↔ member.key ∈ seen) := by
  have hfind : (member :: rest).find? (·.key == key) = rest.find? (·.key == key) :=
    List.find?_cons_of_neg (by simpa using hkey.symm)
  simp only [slotOf, hfind] at h
  split at h
  · rename_i s hs
    split at h
    · cases h
    obtain ⟨after', hafter, heq⟩ := Option.map_eq_some_iff.mp h
    cases heq
    have hs' := List.mem_of_find?_eq_some hs
    refine ⟨(hrest s hs').of_means (hf s (List.mem_cons_of_mem member hs') before) hv hafter, ?_⟩
    simp [hkey.symm]
  · cases h
    exact ⟨rfl, Iff.rfl⟩

/-- The text is the one under the key, of which there is one at most. -/
theorem foldlM_slotOf_text (hf : SlotsMean (member :: rest) f) (hmember : IsText get member)
    (hrest : ∀ s ∈ rest, Aside member.key get s) (ms : List (String × Json)) :
    ∀ {before after : σ} {seen seen' : List String}, (∀ m ∈ ms, Written m.2) →
    ms.foldlM (fun state m => slotOf (member :: rest) f state m.1 m.2) (before, seen) = some (after, seen') →
      (member.key ∈ seen → get after = get before ∧ Json.lookup ms member.key = none)
      ∧ (member.key ∉ seen → member.key ∈ seen' → Json.lookup ms member.key = some (.string (get after))) := by
  induction ms with
  | nil =>
    intro before after seen seen' _ h
    cases h
    exact ⟨fun _ => ⟨rfl, Json.lookup_nil _⟩, fun hseen hseen' => absurd hseen' hseen⟩
  | cons m ms ih =>
    intro before after seen seen' hv h
    obtain ⟨key, v⟩ := m
    obtain ⟨hv, hvs⟩ := List.forall_mem_cons.mp hv
    rw [List.foldlM_cons] at h
    obtain ⟨⟨mid, seenMid⟩, hstep, h⟩ := Option.bind_eq_some_iff.mp h
    obtain ⟨hseen, hunseen⟩ := ih hvs h
    rw [Json.lookup_cons]
    by_cases hkey : key = member.key
    · subst hkey
      obtain ⟨hnot, hmid, rfl⟩ := slotOf_text hf hmember hv hstep
      obtain ⟨hget, hnone⟩ := hseen hmid
      refine ⟨fun h => absurd h hnot, fun _ _ => ?_⟩
      rw [hnone, if_pos rfl, Option.none_or, hget]
    · obtain ⟨hget, hmem⟩ := slotOf_other hf hrest hv hkey hstep
      have hkey' : member.key ≠ key := Ne.symm hkey
      rw [if_neg hkey', Option.or_none, ← hmem, ← hget]
      exact ⟨hseen, hunseen⟩

theorem listedOf_keeps (slots : List (Slot σ)) : SlotsMean slots f → (∀ s ∈ slots, Aside key get s) →
    ∀ {vs : List Json} {before after : σ}, (∀ v ∈ vs, Written v) → listedOf f before slots vs = some after →
      get after = get before := by
  induction slots with
  | nil =>
    intro _ _ vs before after _ h
    cases vs with
    | nil =>
      cases h
      rfl
    | cons v vs => cases h
  | cons s slots ih =>
    intro hf hkeeps vs before after hvs h
    cases vs with
    | nil =>
      rw [listedOf] at h
      split at h
      · cases h
      · cases h
        rfl
    | cons v vs =>
      obtain ⟨hv, hvs⟩ := List.forall_mem_cons.mp hvs
      obtain ⟨mid, hmid, h⟩ := Option.bind_eq_some_iff.mp h
      have hfirst := (hkeeps s List.mem_cons_self).of_means (hf s List.mem_cons_self before) hv hmid
      exact (ih (fun s' hs' => hf s' (List.mem_cons_of_mem s hs'))
        (fun s' hs' => hkeeps s' (List.mem_cons_of_mem s hs')) hvs h).trans hfirst

/-- A required text at the front of a strict record is what the value has there. -/
theorem strictOf_text (hf : SlotsMean (member :: rest) f) (hmember : IsText get member)
    (hrest : ∀ s ∈ rest, Aside member.key get s) {start a : σ} {v : Json} (hv : Written v)
    (h : strictOf (member :: rest) f start v = some a) : firstMember member.key v = some (.string (get a)) := by
  cases v with
  | object ms =>
    obtain ⟨⟨after, seen⟩, hfold, hcomplete⟩ := Option.bind_eq_some_iff.mp h
    unfold complete at hcomplete
    split at hcomplete
    · cases hcomplete
    rename_i hmissing
    obtain rfl := Option.some.inj hcomplete
    obtain ⟨hseen, -⟩ : member.key ∈ seen ∧ ∀ s ∈ rest, s.required = true → s.key ∈ seen := by
      simpa [hmember.required] using hmissing
    exact (foldlM_slotOf_text hf hmember hrest ms hv.member hfold).2 List.not_mem_nil hseen
  | array vs =>
    cases vs with
    | nil =>
      simp [strictOf, listedOf, hmember.listed] at h
    | cons v vs =>
      obtain ⟨hv, hvs⟩ := List.forall_mem_cons.mp hv.item
      obtain ⟨after, hafter, hlisted⟩ := Option.bind_eq_some_iff.mp h
      have hrest' := listedOf_keeps rest (fun s hs => hf s (List.mem_cons_of_mem member hs)) hrest hvs hlisted
      rw [firstMember, hrest', hmember.of_means (hf member List.mem_cons_self start) hv hafter]
  | _ => cases h

end Text

end Reader

end ReadyPin

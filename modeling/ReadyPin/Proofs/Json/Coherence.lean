import ReadyPin.Proofs.Json.PassedOver

/-!
# Typed values and kept values

Where a value can be kept, what a typed reader does on its text is determined by the kept value. `Means read f` says
that `read` succeeds where `f` accepts the value that stands there, with the result that `f` gives, and that it takes
the same bytes as keeping the value does. So two texts of one value are read alike, and what is read of a changed text
can be told from the changed value.

Members of an object are read in document order, and every one of several with one key must be right; the functions
follow the text in this.
-/

namespace ReadyPin

namespace Json

mutual

/-- How many brackets are open at once in a value. -/
def depth : Json → Nat
  | .array vs => depthOfItems vs + 1
  | .object ms => depthOfMembers ms + 1
  | _ => 0

/-- The depth of the deepest item. -/
def depthOfItems : List Json → Nat
  | [] => 0
  | v :: vs => max v.depth (depthOfItems vs)

/-- The depth of the deepest member. -/
def depthOfMembers : List (String × Json) → Nat
  | [] => 0
  | m :: ms => max m.2.depth (depthOfMembers ms)

end

/-- The value, if at most so many brackets are open in it at once. -/
def within (bound : Nat) (v : Json) : Option Json := if v.depth ≤ bound then some v else none

theorem mapM_within (bound : Nat) (vs : List Json) :
    vs.mapM (within bound) = if depthOfItems vs ≤ bound then some vs else none := by
  induction vs with
  | nil => simp [depthOfItems]
  | cons v vs ih =>
    rw [List.mapM_cons, ih, within, depthOfItems]
    simp only [Nat.max_le]
    by_cases hv : v.depth ≤ bound <;> by_cases hvs : depthOfItems vs ≤ bound <;> simp [hv, hvs]

theorem foldlM_within (bound : Nat) (ms before : List (String × Json)) :
    ms.foldlM (fun before m => (within bound m.2).map fun v => (m.1, v) :: before) before
      = if depthOfMembers ms ≤ bound then some (ms.reverse ++ before) else none := by
  induction ms generalizing before with
  | nil => simp [depthOfMembers]
  | cons m ms ih =>
    rw [List.foldlM_cons, within, depthOfMembers]
    simp only [Nat.max_le]
    by_cases hm : m.2.depth ≤ bound <;> by_cases hms : depthOfMembers ms ≤ bound <;> simp [hm, hms, ih]

end Json

namespace Reader

variable {α β σ : Type}

/-! ## 1. The value that a reader reads -/

/-- On the text of a value that can be kept, `read` gives what `f` makes of the value. -/
def Means (read : Reader α) (f : Json → Option α) : Prop :=
  ∀ depth s v t, kept depth s = .ok (v, t) → ∀ a u, read s = .ok (a, u) ↔ f v = some a ∧ u = t

/-- What a reader gives on the text of a value depends on the value. -/
class Faithful (read : Reader α) : Prop where
  means : ∃ f, Means read f

theorem Means.eq {read : Reader α} {f : Json → Option α} (h : Means read f) {depth : Nat} {s t u : List UInt8}
    {v : Json} {a : α} (hv : kept depth s = .ok (v, t)) (ha : read s = .ok (a, u)) : f v = some a ∧ u = t :=
  (h depth s v t hv a u).mp ha

theorem Means.read_eq {read : Reader α} {f : Json → Option α} (h : Means read f) {depth : Nat} {s t : List UInt8}
    {v : Json} {a : α} (hv : kept depth s = .ok (v, t)) (ha : f v = some a) : read s = .ok (a, t) :=
  (h depth s v t hv a t).mpr ⟨ha, rfl⟩

/-- Readers that begin with the kind of the value may be compared value by value. -/
theorem Means.ofKind {r : Kind → Reader α} {f : Json → Option α}
    (h : ∀ depth s v t, KeptAs depth s t v → ∀ a u, r (Kind.ofJson v) s = .ok (a, u) ↔ f v = some a ∧ u = t) :
    Means (kind >>= r) f := by
  intro depth s v t hv a u
  obtain ⟨w, hk, hv⟩ := kept_eq_ok.mp hv
  rw [bind_eq_ok]
  constructor
  · intro hok
    obtain ⟨k', w', hk', ha⟩ := hok
    obtain ⟨rfl, rfl⟩ : k' = Kind.ofJson v ∧ w' = w := by simpa using Except.ok.inj (hk'.symm.trans hk)
    exact (h depth w' v t hv a u).mp ha
  · intro hf
    exact ⟨Kind.ofJson v, w, hk, (h depth w v t hv a u).mpr hf⟩

/-- A second step that only looks at the result of the first. -/
theorem Means.bind {read : Reader α} {f : Json → Option α} {k : α → Reader β} {g : α → Option β} (h : Means read f)
    (hk : ∀ a s b u, k a s = .ok (b, u) ↔ g a = some b ∧ u = s) : Means (read >>= k) fun v => (f v).bind g := by
  intro depth s v t hv b u
  rw [bind_eq_ok]
  constructor
  · intro hok
    obtain ⟨a, w, ha, hb⟩ := hok
    obtain ⟨hf, rfl⟩ := h.eq hv ha
    obtain ⟨hg, rfl⟩ := (hk a w b u).mp hb
    exact ⟨(congrArg (·.bind g) hf).trans hg, rfl⟩
  · intro hfg
    obtain ⟨hfg, rfl⟩ := hfg
    obtain ⟨a, hf, hg⟩ := Option.bind_eq_some_iff.mp hfg
    exact ⟨a, u, h.read_eq hv hf, (hk a u b u).mpr ⟨hg, rfl⟩⟩

theorem Means.map {read : Reader α} {f : Json → Option α} (h : Means read f) (g : α → β) :
    Means (read >>= fun a => pure (g a)) fun v => (f v).map g := by
  simp only [Option.map_eq_bind]
  refine h.bind fun a s b u => ?_
  rw [pure_eq_ok]
  simp [eq_comm]

/-! ## 2. Scalars -/

theorem unexpected_iff {k : Kind} {expected : String} {s u t : List UInt8} {a : α} {o : Option α} (h : o = none) :
    (unexpected k expected : Reader α) s = .ok (a, u) ↔ o = some a ∧ u = t := by
  constructor
  · intro hs
    exact absurd hs unexpected_ne_ok
  · intro hok
    obtain ⟨hs, -⟩ := hok
    rw [h] at hs
    cases hs

/-- A reader that has succeeded gives nothing else. -/
theorem ok_iff {r : Reader α} {s u t : List UInt8} {a b : α} (h : r s = .ok (b, t)) :
    r s = .ok (a, u) ↔ some b = some a ∧ u = t := by
  rw [h]
  simp [eq_comm]

theorem textAs_means (expected : String) : Means (textAs expected) fun
    | .string x => some x
    | _ => none := by
  refine .ofKind fun depth s v t hv a u => ?_
  cases v with
  | string x => exact ok_iff hv
  | bool b => cases b <;> exact unexpected_iff rfl
  | _ => exact unexpected_iff rfl

theorem flag_means : Means flag fun
    | .bool b => some b
    | _ => none := by
  refine .ofKind fun depth s v t hv a u => ?_
  cases v with
  | bool b => cases b <;> exact ok_iff (bind_eq_ok.mpr ⟨(), t, hv, rfl⟩)
  | _ => exact unexpected_iff rfl

theorem integer_means (expected : String) (least greatest : Int) : Means (integer expected least greatest) fun
    | .number (.integer i) => if least ≤ i ∧ i ≤ greatest then some i else none
    | _ => none := by
  refine .ofKind fun depth s v t hv a u => ?_
  cases v with
  | bool b => cases b <;> exact unexpected_iff rfl
  | number n =>
    have hbind : ∀ k : Number → Reader Int, (Numeral.read >>= k) s = .ok (a, u) ↔ k n t = .ok (a, u) := by
      intro k
      rw [bind_eq_ok]
      constructor
      · intro h
        obtain ⟨n', t', hn, hk⟩ := h
        obtain ⟨rfl, rfl⟩ : n = n' ∧ t = t' := by simpa using Except.ok.inj (hv.symm.trans hn)
        exact hk
      · intro hk
        exact ⟨n, t, hv, hk⟩
    refine (hbind _).trans ?_
    cases n with
    | float x => simp [mismatched]
    | integer i =>
      dsimp only
      split
      · rw [pure_eq_ok]
        simp [eq_comm]
      · simp [mismatched]
  | _ => exact unexpected_iff rfl

theorem pass_means : Means pass fun _ => some () := by
  intro depth s v t hv a u
  rw [pass_of_kept hv]
  simp [eq_comm]

/-- A value, or null. -/
theorem Means.nullable {read : Reader α} {f : Json → Option α} (h : Means read f) : Means (Reader.nullable read) fun
    | .null => some none
    | v => (f v).map some := by
  intro depth s v t hv a u
  obtain ⟨w, hk, has⟩ := kept_eq_ok.mp hv
  obtain ⟨b, r, hs, hb, rfl⟩ := kind_eq_ok.mp hk
  have hstart : (Reader.nullable read) s = (if b = 0x6E then do nullWord; pure none else some <$> read :
      Reader (Option α)) (b :: r) := by
    unfold Reader.nullable
    rw [next_bind, hs]
    rfl
  rw [hstart]
  rw [← kept_dropWhile, hs] at hv
  have hnull : b = 0x6E ↔ v = .null := by
    rw [← Kind.ofByte_null, hb]
    cases v with
    | bool b => cases b <;> simp [Kind.ofJson]
    | _ => simp [Kind.ofJson]
  by_cases hbn : b = 0x6E
  · obtain rfl := hnull.mp hbn
    rw [if_pos hbn]
    exact ok_iff (bind_eq_ok.mpr ⟨(), t, has, rfl⟩)
  · rw [if_neg hbn, some_map_eq_ok]
    have hne : v ≠ .null := fun hv => hbn (hnull.mpr hv)
    have hread : (∃ x, a = some x ∧ read (b :: r) = .ok (x, u)) ↔ (f v).map some = some a ∧ u = t := by
      constructor
      · intro hok
        obtain ⟨x, rfl, hx⟩ := hok
        obtain ⟨hf, rfl⟩ := h.eq hv hx
        exact ⟨by rw [hf, Option.map_some], rfl⟩
      · intro hval
        obtain ⟨hf, rfl⟩ := hval
        obtain ⟨x, hx, rfl⟩ := Option.map_eq_some_iff.mp hf
        exact ⟨x, rfl, h.read_eq hv hx⟩
    cases v with
    | null => exact absurd rfl hne
    | _ => exact hread

/-! ## 3. Lists and objects -/

theorem mapM_cons_eq_some {f : Json → Option α} {v : Json} {vs : List Json} {ys : List α} :
    (v :: vs).mapM f = some ys ↔ ∃ a as, f v = some a ∧ vs.mapM f = some as ∧ ys = a :: as := by
  rw [List.mapM_cons]
  cases f v with
  | none => simp
  | some a =>
    cases vs.mapM f with
    | none => simp
    | some as => simp [eq_comm]

/-- Other items are read of the same places. -/
theorem moreItems_means {read : Reader α} {f : Json → Option α} (h : Means read f) {depth : Nat} {first : Bool}
    {s t : List UInt8} {vs : List Json} (hvs : Items (kept depth) first s vs t) :
    ∀ xs u, Items read first s xs u ↔ vs.mapM f = some xs ∧ u = t := by
  induction hvs with
  | last hnone =>
    have hnone' := item?_end read hnone
    intro xs u
    constructor
    · intro hxs
      cases hxs with
      | last hend =>
        cases hnone'.symm.trans hend
        exact ⟨rfl, rfl⟩
      | more hsome _ => cases hnone'.symm.trans hsome
    · intro h
      obtain ⟨hxs, rfl⟩ := h
      cases hxs
      exact .last hnone'
  | @more first s t₁ t v vs hsome _ ih =>
    obtain ⟨w, hv, hplace⟩ := item?_place hsome
    intro xs u
    constructor
    · intro hxs
      cases hxs with
      | last hend =>
        obtain ⟨b, hb, -⟩ := (hplace read none u).mp hend
        cases hb
      | @more _ _ t' _ a as hsome' hrest =>
        obtain ⟨b, hab, hread⟩ := (hplace read (some a) t').mp hsome'
        cases hab
        obtain ⟨hf, rfl⟩ := h.eq hv hread
        obtain ⟨has, rfl⟩ := (ih as u).mp hrest
        exact ⟨mapM_cons_eq_some.mpr ⟨a, as, hf, has, rfl⟩, rfl⟩
    · intro hval
      obtain ⟨hxs, rfl⟩ := hval
      obtain ⟨a, as, hf, has, rfl⟩ := mapM_cons_eq_some.mp hxs
      exact .more ((hplace read (some a) t₁).mpr ⟨a, rfl, h.read_eq hv hf⟩) ((ih as u).mpr ⟨has, rfl⟩)

theorem items_means {read : Reader α} [Takes read] {f : Json → Option α} (h : Means read f) {depth : Nat}
    {s t : List UInt8} {vs : List Json} (hvs : items (kept depth) s = .ok (vs, t)) (xs : List α) (u : List UInt8) :
    items read s = .ok (xs, u) ↔ vs.mapM f = some xs ∧ u = t :=
  items_eq_ok.trans (moreItems_means h (items_eq_ok.mp hvs) xs u)

theorem Means.list {read : Reader α} [Takes read] {f : Json → Option α} (h : Means read f) :
    Means (Reader.list read) fun
      | .array vs => vs.mapM f
      | _ => none := by
  refine .ofKind fun depth s v t hv a u => ?_
  cases v with
  | bool b => cases b <;> exact unexpected_iff rfl
  | array vs =>
    obtain ⟨d, rfl, hvs⟩ := hv
    exact items_means h hvs a u
  | _ => exact unexpected_iff rfl

/-- What a step of an object does with the member that stands there depends on its value. -/
def StepMeans (step : σ → String → Reader σ) (g : σ → String → Json → Option σ) : Prop :=
  ∀ state key depth s v t w, colon s = .ok ((), w) → kept depth w = .ok (v, t) → ∀ a u,
    step state key s = .ok (a, u) ↔ g state key v = some a ∧ u = t

theorem StepMeans.afterColon {step : σ → String → Reader σ} {g : σ → String → Json → Option σ}
    (h : ∀ state key, Means (step state key) (g state key)) :
    StepMeans (fun state key => do colon; step state key) g := by
  intro state key depth s v t w hcolon hv a u
  rw [bind_eq_ok]
  constructor
  · intro hok
    obtain ⟨⟨⟩, w', hw, ha⟩ := hok
    obtain rfl : w' = w := by simpa using Except.ok.inj (hw.symm.trans hcolon)
    exact (h state key depth w' v t hv a u).mp ha
  · intro hg
    exact ⟨(), w, hcolon, (h state key depth w v t hv a u).mpr hg⟩

/-- Other steps are taken with the same members. Those that follow come in front of those before, in reverse. -/
theorem moreMembers_means {step : σ → String → Reader σ} {g : σ → String → Json → Option σ} (h : StepMeans step g)
    {depth : Nat} {first : Bool} {before ms : List (String × Json)} {s t : List UInt8}
    (hms : Members (keptMember (kept depth)) first before s ms t) :
    ∃ more, ms = List.reverse more ++ before ∧ ∀ state a u,
      Members step first state s a u ↔ more.foldlM (fun state m => g state m.1 m.2) state = some a ∧ u = t := by
  induction hms with
  | last hnone =>
    refine ⟨[], rfl, fun state a u => ⟨fun hstate => ?_, ?_⟩⟩
    · cases hstate with
      | last hend =>
        cases hnone.symm.trans hend
        exact ⟨rfl, rfl⟩
      | more hkey _ _ => cases hnone.symm.trans hkey
    · intro h
      obtain ⟨hstate, rfl⟩ := h
      cases hstate
      exact .last hnone
  | @more first before after ms s w t₁ t key hkey hmember _ ih =>
    obtain ⟨x, v, hcolon, hv, rfl⟩ := keptMember_eq_ok.mp hmember
    obtain ⟨more, rfl, hmore⟩ := ih
    refine ⟨(key, v) :: more, by simp, fun state a u => ⟨fun hstate => ?_, ?_⟩⟩
    · cases hstate with
      | last hend => cases hkey.symm.trans hend
      | more hkey' hafter hrest =>
        cases hkey.symm.trans hkey'
        obtain ⟨hg, rfl⟩ := (h state key depth w v t₁ x hcolon hv _ _).mp hafter
        obtain ⟨hfold, rfl⟩ := (hmore _ a u).mp hrest
        exact ⟨by rw [List.foldlM_cons, hg]; exact hfold, rfl⟩
    · intro hval
      obtain ⟨hfold, rfl⟩ := hval
      rw [List.foldlM_cons] at hfold
      obtain ⟨after, hg, hfold⟩ := Option.bind_eq_some_iff.mp hfold
      have hafter := (h state key depth w v t₁ x hcolon hv after t₁).mpr ⟨hg, rfl⟩
      exact .more hkey hafter ((hmore after a u).mpr ⟨hfold, rfl⟩)

/-- The members of an object, in document order. -/
theorem members_means {step : σ → String → Reader σ} [∀ state key, Local (step state key)]
    {g : σ → String → Json → Option σ} (h : StepMeans step g) (start : σ) {depth : Nat} {s t : List UInt8}
    {ms : List (String × Json)} (hms : members [] (keptMember (kept depth)) s = .ok (ms.reverse, t)) (a : σ)
    (u : List UInt8) :
    members start step s = .ok (a, u) ↔ ms.foldlM (fun state m => g state m.1 m.2) start = some a ∧ u = t := by
  obtain ⟨more, heq, hmore⟩ := moreMembers_means h (members_eq_ok.mp hms)
  obtain rfl : ms = more := by simpa using heq
  exact members_eq_ok.trans (hmore start a u)

theorem Means.object {step : σ → String → Reader σ} [∀ state key, Local (step state key)]
    {g : σ → String → Json → Option σ} (h : ∀ state key, Means (step state key) (g state key)) (expected : String)
    (start : σ) : Means (Reader.object expected start step) fun
    | .object ms => ms.foldlM (fun state m => g state m.1 m.2) start
    | _ => none := by
  refine .ofKind fun depth s v t hv a u => ?_
  cases v with
  | bool b => cases b <;> exact unexpected_iff rfl
  | object ms =>
    obtain ⟨d, rfl, hms⟩ := hv
    exact members_means (.afterColon h) start hms a u
  | _ => exact unexpected_iff rfl

/-! ## 4. Kept values -/

theorem keptMember_means {depth : Nat} (h : Means (kept depth) (Json.within depth)) :
    StepMeans (keptMember (kept depth)) fun before key v => (Json.within depth v).map fun v => (key, v) :: before := by
  intro before key d s v t w hcolon hv after u
  rw [keptMember_eq_ok]
  constructor
  · intro hok
    obtain ⟨w', v', hw, hv', rfl⟩ := hok
    obtain rfl : w' = w := by simpa using Except.ok.inj (hw.symm.trans hcolon)
    obtain ⟨hf, rfl⟩ := h.eq hv hv'
    exact ⟨by simp [hf], rfl⟩
  · intro hval
    obtain ⟨hf, rfl⟩ := hval
    obtain ⟨v', hv', rfl⟩ := Option.map_eq_some_iff.mp hf
    exact ⟨w, v', hcolon, h.read_eq hv hv', rfl⟩

/-- A list or an object is made of what has been read inside the brackets. -/
theorem inside_iff {r : Reader α} {f : α → β} {s u t : List UInt8} {b : β} {o : Option α}
    (h : ∀ x, r s = .ok (x, u) ↔ o = some x ∧ u = t) : (f <$> r) s = .ok (b, u) ↔ o.map f = some b ∧ u = t := by
  rw [map_eq_ok]
  constructor
  · intro hok
    obtain ⟨x, hx, rfl⟩ := hok
    obtain ⟨rfl, rfl⟩ := (h x).mp hx
    exact ⟨rfl, rfl⟩
  · intro hval
    obtain ⟨hv, rfl⟩ := hval
    obtain ⟨x, rfl, rfl⟩ := Option.map_eq_some_iff.mp hv
    exact ⟨x, (h x).mpr ⟨rfl, rfl⟩, rfl⟩

/-- The bound on the depth does not matter, as long as the value is within it. -/
theorem kept_means (bound : Nat) : Means (kept bound) (Json.within bound) := by
  induction bound with
  | zero =>
    rw [kept_eq]
    refine .ofKind fun depth s v t hv a u => ?_
    cases v with
    | bool b => cases b <;> exact ok_iff (keptOf_of_keptAs hv)
    | array vs => simp [Kind.ofJson, keptOf, malformed, Json.within, Json.depth]
    | object ms => simp [Kind.ofJson, keptOf, malformed, Json.within, Json.depth]
    | _ => exact ok_iff (keptOf_of_keptAs hv)
  | succ bound ih =>
    rw [kept_eq]
    refine .ofKind fun depth s v t hv a u => ?_
    cases v with
    | bool b => cases b <;> exact ok_iff (keptOf_of_keptAs hv)
    | array vs =>
      obtain ⟨d, rfl, hvs⟩ := hv
      refine (inside_iff fun xs => items_means ih hvs xs u).trans ?_
      rw [Json.mapM_within]
      simp only [Json.within, Json.depth, Nat.add_le_add_iff_right]
      split <;> simp
    | object ms =>
      obtain ⟨d, rfl, hms⟩ := hv
      refine (inside_iff fun xs => members_means (keptMember_means ih) [] hms xs u).trans ?_
      rw [Json.foldlM_within]
      simp only [Json.within, Json.depth, Nat.add_le_add_iff_right]
      split <;> simp
    | _ => exact ok_iff (keptOf_of_keptAs hv)

/-- A kept member that is put into what has been read. -/
theorem keptMember_put_iff {bound depth : Nat} {before : List (String × Json)} {key : String}
    (put : List (String × Json) → σ) {s w t : List UInt8} {v : Json} (hcolon : colon s = .ok ((), w))
    (hv : kept depth w = .ok (v, t)) (a : σ) (u : List UInt8) :
    (keptMember (kept bound) before key >>= fun after => pure (put after)) s = .ok (a, u)
      ↔ (Json.within bound v).map (fun v => put ((key, v) :: before)) = some a ∧ u = t := by
  have hmember := keptMember_means (kept_means bound) before key depth s v t w hcolon hv
  rw [bind_eq_ok]
  constructor
  · intro h
    obtain ⟨after, x, hafter, hput⟩ := h
    obtain ⟨hwithin, rfl⟩ := (hmember after x).mp hafter
    obtain ⟨rfl, rfl⟩ := pure_eq_ok.mp hput
    obtain ⟨y, hy, rfl⟩ := Option.map_eq_some_iff.mp hwithin
    exact ⟨by rw [hy]; rfl, rfl⟩
  · intro h
    obtain ⟨hwithin, rfl⟩ := h
    obtain ⟨y, hy, rfl⟩ := Option.map_eq_some_iff.mp hwithin
    exact ⟨_, u, (hmember ((key, y) :: before) u).mpr ⟨Option.map_eq_some_iff.mpr ⟨y, hy, rfl⟩, rfl⟩, rfl⟩

/-- A result that is put into what has been read. -/
theorem Faithful.map {read : Reader α} (h : Faithful read) (put : α → σ) : Faithful (read >>= fun a => pure (put a)) :=
  h.means.elim fun _ hf => ⟨_, hf.map put⟩

theorem Faithful.object {step : σ → String → Reader σ} (hl : ∀ state key, Local (step state key))
    (h : ∀ state key, Faithful (step state key)) (expected : String) (start : σ) :
    Faithful (Reader.object expected start step) :=
  ⟨_, Means.object (fun state key => (h state key).means.choose_spec) expected start⟩

end Reader

/-! ## 5. Records -/

open Reader

section Records

variable {α σ : Type}

instance : Faithful Source.text := ⟨_, textAs_means _⟩

instance : Faithful Source.flag := ⟨_, flag_means⟩

instance (expected : String) (least greatest : Int) : Faithful (Source.integer expected least greatest) :=
  ⟨_, integer_means expected least greatest⟩

instance : Faithful Source.int64 := ⟨_, integer_means _ _ _⟩

instance : Faithful Source.pass := ⟨_, pass_means⟩

instance (outside : Nat) : Faithful (Source.kept outside) := ⟨_, (kept_means (maxDepth - outside)).map fun _ => ()⟩

instance {read : Reader α} [h : Faithful read] : Faithful (Source.nullable read) :=
  h.means.elim fun _ hf => ⟨_, hf.nullable⟩

instance {read : Reader α} [Takes read] [h : Faithful read] : Faithful (Source.list read) :=
  h.means.elim fun _ hf => ⟨_, hf.list⟩

instance : Faithful Source.timestamp := by
  refine ⟨_, Means.bind (textAs_means _) (g := fun t => match Timestamp.check t with
    | .ok () => some ()
    | .error _ => none) fun t s a u => ?_⟩
  cases Timestamp.check t with
  | ok _ =>
    rw [pure_eq_ok]
    simp [eq_comm]
  | error fault => simp [Source.reject, mismatched]

instance {read : Reader α} [Takes read] [h : Faithful read] : Faithful (Source.mapOf read) :=
  .map (.object (fun _ _ => inferInstance) (fun before key => .map h fun v => (key, v) :: before) "a map" [])
    List.reverse

instance : Faithful Source.textMap := inferInstanceAs (Faithful (Source.mapOf _))

/-- What is read of the members of a record depends on their values. -/
class FaithfulFields (fields : List (Field Reader σ)) : Prop where
  take : ∀ field ∈ fields, ∀ before, Faithful (field.take before)

instance : FaithfulFields (σ := σ) [] := ⟨nofun⟩

instance {field : Field Reader σ} {fields : List (Field Reader σ)} [h : ∀ before, Faithful (field.take before)]
    [hs : FaithfulFields fields] : FaithfulFields (field :: fields) where
  take := by
    intro f hf before
    rcases List.mem_cons.mp hf with rfl | hf
    · exact h before
    · exact hs.take f hf before

instance (key : String) (read : Reader α) [h : Faithful read] (put : σ → Option α → σ) (before : σ) :
    Faithful ((Field.optional key read put).take before) :=
  .map (inferInstanceAs (Faithful (Source.nullable read))) (put before)

instance (key : String) (read : Reader α) [h : Faithful read] (before : σ) :
    Faithful ((Field.typed key read).take before) :=
  .map (inferInstanceAs (Faithful (Source.nullable read))) fun _ => before

instance (read : Reader α) [h : Faithful read] (keys : List String) :
    FaithfulFields (σ := σ) (Field.each read keys) where
  take := by
    intro field hfield before
    obtain ⟨key, -, rfl⟩ := List.mem_map.mp hfield
    infer_instance

instance {fields more : List (Field Reader σ)} [h : FaithfulFields fields] [h' : FaithfulFields more] :
    FaithfulFields (fields ++ more) where
  take field hfield := (List.mem_append.mp hfield).elim (h.take field) (h'.take field)

instance {expected : String} {start : σ} {fields : List (Field Reader σ)} [hl : LocalFields fields]
    [h : FaithfulFields fields] : Faithful (Source.record expected start fields) := by
  refine Faithful.object (fun state key => ?_) (fun state key => ?_) expected start
  all_goals cases hf : fields.find? (·.key == key)
  case refine_1.some field => exact hl.take field (List.mem_of_find?_eq_some hf) state
  case refine_1.none => exact inferInstanceAs (Local (pass >>= fun _ => pure state))
  case refine_2.some field => exact h.take field (List.mem_of_find?_eq_some hf) state
  case refine_2.none => exact .map (inferInstanceAs (Faithful Source.pass)) fun _ => state

instance {expected : String} {fields : List (Field Reader Unit)} [LocalFields fields] [FaithfulFields fields] :
    Faithful (Source.shape expected fields) := inferInstanceAs (Faithful (Source.record _ _ _))

end Records

end ReadyPin

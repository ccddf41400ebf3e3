import ReadyPin.Text.Utf8

/-!
# The order of strings by their bytes

Names and keys are sorted by their UTF-8 bytes, the first difference deciding and a beginning coming before
what it begins. The order is strict and total up to equal bytes: `ByteOrder.compare_eq_iff`,
`ByteOrder.before_trans`, `ByteOrder.before_or_after`.

Such strings index an `OrderedMap`, a list of entries with strictly increasing keys. Two maps with the same
entries are the same map, and the invariant is part of the type.

In the program: the order of strings, and the maps and sets that are sorted by it.
-/

namespace ReadyPin.ByteOrder

/-! ## 1. Comparing bytes -/

/-- Lexicographic comparison: the first difference decides, and a beginning comes first. -/
def compare : List UInt8 → List UInt8 → Ordering
  | [], [] => .eq
  | [], _ :: _ => .lt
  | _ :: _, [] => .gt
  | a :: as, b :: bs => if a < b then .lt else if b < a then .gt else compare as bs

theorem compare_self (as : List UInt8) : compare as as = .eq := by
  induction as with
  | nil => rfl
  | cons a as ih => simp [compare, ih]

theorem compare_eq_iff {as bs : List UInt8} : compare as bs = .eq ↔ as = bs := by
  refine ⟨fun h => ?_, fun h => h ▸ compare_self as⟩
  induction as generalizing bs with
  | nil => cases bs <;> simp_all [compare]
  | cons a as ih =>
    cases bs with
    | nil => simp [compare] at h
    | cons b bs =>
      simp only [compare] at h
      split at h
      · cases h
      · split at h
        · cases h
        · rename_i hab hba
          have : a = b := UInt8.le_antisymm (UInt8.not_lt.mp hba) (UInt8.not_lt.mp hab)
          rw [this, ih h]

theorem compare_lt_trans {as bs cs : List UInt8} (hab : compare as bs = .lt)
    (hbc : compare bs cs = .lt) : compare as cs = .lt := by
  induction as generalizing bs cs with
  | nil => cases bs <;> cases cs <;> simp_all [compare]
  | cons a as ih =>
    cases bs with
    | nil => simp [compare] at hab
    | cons b bs =>
      cases cs with
      | nil => simp [compare] at hbc
      | cons c cs =>
        simp only [compare, UInt8.lt_iff_toNat_lt] at hab hbc ⊢
        repeat' split at hab
        all_goals try cases hab
        all_goals repeat' split at hbc
        all_goals try cases hbc
        all_goals repeat' split
        all_goals first
          | rfl
          | omega
          | exact ih ‹_› ‹_›

theorem compare_swap (as bs : List UInt8) : compare bs as = (compare as bs).swap := by
  induction as generalizing bs with
  | nil => cases bs <;> rfl
  | cons a as ih =>
    cases bs with
    | nil => rfl
    | cons b bs =>
      simp only [compare, UInt8.lt_iff_toNat_lt]
      repeat' split
      all_goals first
        | rfl
        | omega
        | exact ih bs

/-! ## 2. Strings -/

/-- Whether `a` comes strictly before `b`. -/
def before (a b : String) : Bool := compare (Utf8.bytes a) (Utf8.bytes b) == .lt

theorem before_iff {a b : String} :
    before a b = true ↔ compare (Utf8.bytes a) (Utf8.bytes b) = .lt := by
  simp [before]

theorem before_irrefl (a : String) : before a a = false := by
  simp [before, compare_self]

theorem before_trans {a b c : String} (hab : before a b = true) (hbc : before b c = true) :
    before a c = true :=
  before_iff.2 (compare_lt_trans (before_iff.1 hab) (before_iff.1 hbc))

/-- Two strings with different bytes come one before the other. -/
theorem before_or_after {a b : String} (hab : before a b = false) (hba : before b a = false) :
    Utf8.bytes a = Utf8.bytes b := by
  apply compare_eq_iff.1
  simp only [before, compare_swap (Utf8.bytes a) (Utf8.bytes b)] at hab hba
  cases h : compare (Utf8.bytes a) (Utf8.bytes b) <;> simp_all

end ReadyPin.ByteOrder

namespace ReadyPin

/-! ## 3. Maps in the order of their keys -/

/-- Entries by key, the keys strictly increasing in the order of their bytes. -/
structure OrderedMap (α : Type) where
  entries : List (String × α)
  increasing : entries.Pairwise (fun e f => ByteOrder.before e.1 f.1 = true)

namespace OrderedMap

variable {α : Type}

/-- No entries. -/
def empty : OrderedMap α := ⟨[], .nil⟩

instance : EmptyCollection (OrderedMap α) := ⟨empty⟩
instance : Inhabited (OrderedMap α) := ⟨empty⟩

@[ext] theorem ext {m n : OrderedMap α} (h : m.entries = n.entries) : m = n := by
  cases m; cases n; cases h; rfl

/-- The keys in their order. -/
def keys (m : OrderedMap α) : List String := m.entries.map (·.1)

/-- The number of entries. -/
def size (m : OrderedMap α) : Nat := m.entries.length

/-- The value under a key. -/
def find? (m : OrderedMap α) (key : String) : Option α := m.entries.lookup key

/-- Whether there is an entry under a key. -/
def contains (m : OrderedMap α) (key : String) : Bool := m.entries.any (·.1 == key)

/-- Puts an entry under a key into its place, or changes the one that is there: `value` gives the new value from the
old one. -/
def place (key : String) (value : Option α → α) : List (String × α) → List (String × α)
  | [] => [(key, value none)]
  | e :: r =>
    if ByteOrder.before key e.1 then (key, value none) :: e :: r
    else if ByteOrder.before e.1 key then e :: place key value r
    else (key, value (some e.2)) :: r

theorem mem_place {key : String} {value : Option α → α} {e : String × α} {l : List (String × α)}
    (h : e ∈ place key value l) : e.1 = key ∨ e ∈ l := by
  induction l with
  | nil => simp_all [place]
  | cons f r ih =>
    simp only [place] at h
    repeat' split at h
    · rcases List.mem_cons.1 h with rfl | h
      · exact .inl rfl
      · exact .inr h
    · rcases List.mem_cons.1 h with rfl | h
      · simp
      · rcases ih h with h | h <;> simp [h]
    · rcases List.mem_cons.1 h with rfl | h <;> simp_all

theorem before_of_bytes_eq {a b c : String} (h : Utf8.bytes a = Utf8.bytes b) :
    ByteOrder.before a c = ByteOrder.before b c := by
  simp [ByteOrder.before, h]

theorem increasing_place {key : String} {value : Option α → α} {l : List (String × α)}
    (h : l.Pairwise (fun e f => ByteOrder.before e.1 f.1 = true)) :
    (place key value l).Pairwise (fun e f => ByteOrder.before e.1 f.1 = true) := by
  induction l with
  | nil => simp [place]
  | cons f r ih =>
    obtain ⟨hf, hr⟩ := List.pairwise_cons.1 h
    simp only [place]
    split
    · rename_i hk
      refine List.pairwise_cons.2 ⟨fun e he => ?_, h⟩
      rcases List.mem_cons.1 he with rfl | he
      · exact hk
      · exact ByteOrder.before_trans hk (hf e he)
    · split
      · rename_i hk
        refine List.pairwise_cons.2 ⟨fun e he => ?_, ih hr⟩
        rcases mem_place he with he | he
        · exact he ▸ hk
        · exact hf e he
      · rename_i h₁ h₂
        have hb := ByteOrder.before_or_after (a := key) (b := f.1) (by simpa using h₁) (by simpa using h₂)
        refine List.pairwise_cons.2 ⟨fun e he => ?_, hr⟩
        rw [before_of_bytes_eq hb]
        exact hf e he

/-- The map in which the value under a key is made from the one that was there, if there was one. -/
def alter (m : OrderedMap α) (key : String) (value : Option α → α) : OrderedMap α :=
  ⟨place key value m.entries, increasing_place m.increasing⟩

/-- The map with a value put under a key, in the stead of one that was there. -/
def insert (m : OrderedMap α) (key : String) (value : α) : OrderedMap α := m.alter key fun _ => value

/-- The map without the entry under a key. -/
def erase (m : OrderedMap α) (key : String) : OrderedMap α :=
  ⟨m.entries.filter (·.1 != key), m.increasing.filter _⟩

/-- The map of some entries, of those under one key the last. -/
def ofEntries (entries : List (String × α)) : OrderedMap α :=
  entries.foldr (fun e m => m.alter e.1 fun later => later.getD e.2) {}

end OrderedMap

end ReadyPin

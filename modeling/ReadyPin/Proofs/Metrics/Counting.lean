import ReadyPin.Metrics.Basic
import ReadyPin.Proofs.Text.OrderedMapTheorems

/-!
# What counters count

Counting under some labels, one after the other, raises each counter by how often its label is among them, as far as 64
bits go (`count_foldl_increment`), and makes a counter for these labels only (`contains_foldl_increment`).
-/

namespace ReadyPin.Counters

theorem count_increment (self : Counters) (label k : String) :
    (self.increment label).count k = if k = label then self.count label + 1 else self.count k := by
  unfold count increment
  rw [OrderedMap.find?_alter]
  split <;> rfl

theorem contains_increment (self : Counters) (label k : String) :
    (self.increment label).contains k = (k == label || self.contains k) := by
  rw [OrderedMap.contains_eq_isSome, OrderedMap.contains_eq_isSome, increment, OrderedMap.find?_alter]
  by_cases hk : k = label <;> simp [hk]

/-- It does not matter which of two labels is counted first. -/
theorem increment_comm (self : Counters) (label other : String) :
    (self.increment label).increment other = (self.increment other).increment label := by
  by_cases h : label = other
  · rw [h]
  refine OrderedMap.ext_find? fun k => ?_
  simp only [increment, OrderedMap.find?_alter, if_neg h, if_neg (Ne.symm h)]
  by_cases hlabel : k = label
  · have hother : k ≠ other := fun hother => h (hlabel.symm.trans hother)
    simp only [if_pos hlabel, if_neg hother]
  · simp only [if_neg hlabel]

theorem count_foldl_increment (self : Counters) (labels : List String) (k : String) :
    (labels.foldl increment self).count k = self.count k + .ofNat (labels.count k) := by
  induction labels generalizing self with
  | nil => simp
  | cons label labels ih =>
    rw [List.foldl_cons, ih, count_increment, List.count_cons]
    by_cases hk : k = label
    · rw [if_pos hk, hk, beq_self_eq_true, if_pos rfl, UInt64.ofNat_add, UInt64.add_assoc, UInt64.add_comm 1]
      rfl
    · rw [if_neg hk, if_neg (by simpa using Ne.symm hk), Nat.add_zero]

theorem contains_foldl_increment (self : Counters) (labels : List String) (k : String) :
    (labels.foldl increment self).contains k = (labels.contains k || self.contains k) := by
  induction labels generalizing self with
  | nil => rfl
  | cons label labels ih =>
    rw [List.foldl_cons, ih, contains_increment, List.contains_cons, ← Bool.or_assoc, Bool.or_comm (labels.contains k)]

/-- As long as there are fewer labels than a counter can count, it counts them all. -/
theorem toNat_count_foldl_increment {labels : List String} (h : labels.length < UInt64.size) (k : String) :
    ((labels.foldl increment {}).count k).toNat = labels.count k := by
  have hzero : ({} : Counters).count k = 0 := rfl
  rw [count_foldl_increment, hzero, UInt64.zero_add]
  exact UInt64.toNat_ofNat_of_lt' (Nat.lt_of_le_of_lt List.count_le_length h)

end ReadyPin.Counters

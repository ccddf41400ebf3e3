import ReadyPin.Proofs.Text.OrderedMapTheorems
import ReadyPin.Service.State

/-!
# The last report on a class decides

An event is a list of reports, each on one class: a listing reports every class in it as seen. `contains_report` says
what one report does to the membership of one name, and `contains_foldl_report` what a whole history does: of the
reports that write the name the last one decides, and without any the name stays as it was. `last_report_decides`
says so for the state of the service and its events.

A report writes the name of its class, and the reserved name too if the class is marked as a default; but only
if the class has a name and is served by the driver. So several classes write the reserved name, and so does
a class whose own name is empty.
-/

namespace ReadyPin

/-! ## 1. Reports -/

/-- What is told of one class. -/
inductive ClassReport where
  | seen (storageClass : StorageClass)
  | deleted (storageClass : StorageClass)
  deriving Repr, DecidableEq

/-- The reports of an event, in their order. -/
def ClassEvent.reports : ClassEvent → List ClassReport
  | .applied c => [.seen c]
  | .deleted c => [.deleted c]
  | .restarted cs => cs.map .seen

namespace ClassReport

/-- The class that a report is on. -/
def storageClass : ClassReport → StorageClass
  | .seen c => c
  | .deleted c => c

/-- Whether the class was seen, and not deleted. -/
def isSeen : ClassReport → Bool
  | .seen _ => true
  | .deleted _ => false

/-- Whether the report is on a class with a name that the driver serves. -/
def isOwn (driver : String) (self : ClassReport) : Bool :=
  self.storageClass.metadata.name.isSome && self.storageClass.provisioner == driver

/-- Whether the report decides on the membership of a name. -/
def writes (driver name : String) (self : ClassReport) : Bool :=
  self.isOwn driver && (self.storageClass.metadata.name == some name
    || name == ClassSet.defaultClass && self.storageClass.isDefault)

theorem writes_iff_of_ne {driver name : String} (hne : name ≠ ClassSet.defaultClass) (r : ClassReport) :
    r.writes driver name = true
      ↔ r.storageClass.metadata.name = some name ∧ r.storageClass.provisioner = driver := by
  simp only [writes, isOwn, Bool.and_eq_true, Bool.or_eq_true, beq_iff_eq]
  constructor
  · intro h
    obtain ⟨⟨_, hp⟩, hn | ⟨hd, _⟩⟩ := h
    · exact ⟨hn, hp⟩
    · exact absurd hd hne
  · intro h
    obtain ⟨hn, hp⟩ := h
    exact ⟨⟨by rw [hn]; rfl, hp⟩, Or.inl hn⟩

theorem writes_defaultClass_iff {driver : String} (r : ClassReport) :
    r.writes driver ClassSet.defaultClass = true
      ↔ r.storageClass.metadata.name ≠ none ∧ r.storageClass.provisioner = driver
        ∧ (r.storageClass.isDefault = true ∨ r.storageClass.metadata.name = some ClassSet.defaultClass) := by
  simp only [writes, isOwn, Bool.and_eq_true, Bool.or_eq_true, beq_iff_eq, Option.isSome_iff_ne_none,
    true_and, and_assoc]
  rw [Or.comm]

end ClassReport

/-- The set after a report. -/
def ClassSet.report (driver : String) (self : ClassSet) : ClassReport → ClassSet
  | .seen c => self.onApplied driver c
  | .deleted c => self.onDeleted driver c

namespace ClassSet

variable {driver : String}

/-! ## 2. One report -/

/-- A report on a class without a name, or of another driver, changes nothing. -/
theorem report_of_not_isOwn (set : ClassSet) {r : ClassReport} (h : r.isOwn driver = false) :
    set.report driver r = set := by
  cases r with
  | seen c =>
    simp only [ClassReport.isOwn, ClassReport.storageClass] at h
    simp only [report, onApplied]
    cases hn : c.metadata.name with
    | none => rfl
    | some name => simp_all
  | deleted c =>
    simp only [ClassReport.isOwn, ClassReport.storageClass] at h
    simp only [report, onDeleted]
    cases hn : c.metadata.name with
    | none => rfl
    | some name => simp_all

theorem contains_onApplied (set : ClassSet) {c : StorageClass} {own : String} (name : String)
    (hn : c.metadata.name = some own) (hp : c.provisioner = driver) :
    (set.onApplied driver c).contains name
      = ((own == name || name == defaultClass && c.isDefault) || set.contains name) := by
  simp only [onApplied, hn, hp, ne_eq, not_true_eq_false, if_false, BEq.comm (a := own)]
  cases c.isDefault with
  | false => simp [OrderedMap.contains_insert]
  | true => simp [OrderedMap.contains_insert, Bool.or_left_comm, Bool.or_assoc]

theorem contains_onDeleted (set : ClassSet) {c : StorageClass} {own : String} (name : String)
    (hn : c.metadata.name = some own) (hp : c.provisioner = driver) :
    (set.onDeleted driver c).contains name
      = (!(own == name || name == defaultClass && c.isDefault) && set.contains name) := by
  simp only [onDeleted, hn, hp, ne_eq, not_true_eq_false, if_false, BEq.comm (a := own)]
  cases c.isDefault with
  | false => simp [OrderedMap.contains_erase, bne]
  | true => simp [OrderedMap.contains_erase, bne, Bool.and_left_comm, Bool.and_assoc]

/-- A report that writes a name decides on it, and every other one leaves it alone. -/
theorem contains_report (set : ClassSet) (r : ClassReport) (name : String) :
    (set.report driver r).contains name
      = if r.writes driver name then r.isSeen else set.contains name := by
  cases ho : r.isOwn driver with
  | false => simp [report_of_not_isOwn set ho, ClassReport.writes, ho]
  | true =>
    have hown := ho
    simp only [ClassReport.isOwn, Bool.and_eq_true, Option.isSome_iff_exists, beq_iff_eq] at ho
    obtain ⟨⟨own, hn⟩, hp⟩ := ho
    have hw : r.writes driver name
        = (own == name || name == defaultClass && r.storageClass.isDefault) := by
      rw [ClassReport.writes, hown, Bool.true_and, hn, Option.some_beq_some]
    rw [hw]
    cases r with
    | seen c =>
      refine (contains_onApplied set name hn hp).trans ?_
      cases (own == name || name == defaultClass && (ClassReport.seen c).storageClass.isDefault) <;> rfl
    | deleted c =>
      refine (contains_onDeleted set name hn hp).trans ?_
      cases (own == name || name == defaultClass && (ClassReport.deleted c).storageClass.isDefault) <;> rfl

/-! ## 3. A history of reports -/

end ClassSet

/-- The last of the reports that matter is on a class that was seen; or none of them matters, and it was so
`before`. -/
def LastSeen (matters : ClassReport → Bool) (reports : List ClassReport) (before : Bool) : Prop :=
  (∃ earlier r later, reports = earlier ++ r :: later ∧ matters r = true ∧ r.isSeen = true
    ∧ ∀ r' ∈ later, matters r' = false)
  ∨ ((∀ r ∈ reports, matters r = false) ∧ before = true)

/-- The first report of a history matters as what was before the others. -/
theorem lastSeen_cons (matters : ClassReport → Bool) (r : ClassReport) (rs : List ClassReport) (before : Bool) :
    LastSeen matters (r :: rs) before
      ↔ LastSeen matters rs (if matters r then r.isSeen else before) := by
  constructor
  · intro h
    rcases h with ⟨earlier, last, later, heq, hm, hs, hlater⟩ | ⟨hnone, hb⟩
    · cases earlier with
      | nil =>
        obtain ⟨rfl, rfl⟩ := List.cons.inj heq
        exact Or.inr ⟨hlater, by rw [if_pos hm, hs]⟩
      | cons e earlier =>
        obtain ⟨rfl, rfl⟩ := List.cons.inj heq
        exact Or.inl ⟨earlier, last, later, rfl, hm, hs, hlater⟩
    · have hr := hnone r (by simp)
      exact Or.inr ⟨fun r' hr' => hnone r' (by simp [hr']), by simpa [hr] using hb⟩
  · intro h
    rcases h with ⟨earlier, last, later, rfl, hm, hs, hlater⟩ | ⟨hnone, hb⟩
    · exact Or.inl ⟨r :: earlier, last, later, rfl, hm, hs, hlater⟩
    · cases hm : matters r with
      | true => exact Or.inl ⟨[], r, rs, rfl, hm, by simpa [hm] using hb, hnone⟩
      | false =>
        refine Or.inr ⟨fun r' hr' => ?_, by simpa [hm] using hb⟩
        rcases List.mem_cons.1 hr' with rfl | hr'
        · exact hm
        · exact hnone r' hr'

/-- Only which reports of the history matter counts. -/
theorem lastSeen_congr {matters matters' : ClassReport → Bool} {reports : List ClassReport}
    (h : ∀ r ∈ reports, matters r = matters' r) (before : Bool) :
    LastSeen matters reports before ↔ LastSeen matters' reports before := by
  induction reports generalizing before with
  | nil => simp [LastSeen]
  | cons r rs ih =>
    rw [lastSeen_cons, lastSeen_cons, h r (by simp), ih fun r' hr' => h r' (by simp [hr'])]

namespace ClassSet

variable {driver : String}

/-- Of the reports that write a name the last one decides on it. -/
theorem contains_foldl_report (reports : List ClassReport) (start : ClassSet) (name : String) :
    (reports.foldl (ClassSet.report driver) start).contains name = true
      ↔ LastSeen (·.writes driver name) reports (start.contains name) := by
  induction reports generalizing start with
  | nil => simp [LastSeen]
  | cons r rs ih => rw [List.foldl_cons, ih, contains_report, lastSeen_cons]

/-- Reports on foreign classes and on classes without a name can be left out of a history. -/
theorem foldl_report_filter_isOwn (reports : List ClassReport) (start : ClassSet) :
    (reports.filter (·.isOwn driver)).foldl (ClassSet.report driver) start
      = reports.foldl (ClassSet.report driver) start := by
  induction reports generalizing start with
  | nil => rfl
  | cons r rs ih =>
    rw [List.filter_cons]
    cases ho : r.isOwn driver with
    | true => simp [ih]
    | false => simp [ih, report_of_not_isOwn start ho]

/-- An event does to the set what its reports do. -/
theorem after_eq_foldl_reports (set : ClassSet) (event : ClassEvent) :
    set.after driver event = event.reports.foldl (ClassSet.report driver) set := by
  cases event with
  | applied c => rfl
  | deleted c => rfl
  | restarted cs => rw [after, ClassEvent.reports, List.foldl_map]; rfl

end ClassSet

/-! ## 4. A history of events -/

namespace State

variable {driver : String}

theorem classes_foldl_apply (events : List ClassEvent) (start : State) :
    (events.foldl (apply driver) start).classes
      = (events.flatMap ClassEvent.reports).foldl (ClassSet.report driver) start.classes := by
  induction events generalizing start with
  | nil => rfl
  | cons event events ih =>
    rw [List.foldl_cons, ih, List.flatMap_cons, List.foldl_append, ← ClassSet.after_eq_foldl_reports]
    rfl

theorem contains_foldl_apply (events : List ClassEvent) (start : State) (name : String) :
    (events.foldl (apply driver) start).classes.contains name = true
      ↔ LastSeen (·.writes driver name) (events.flatMap ClassEvent.reports) (start.classes.contains name) := by
  rw [classes_foldl_apply, ClassSet.contains_foldl_report]

end State

/-- **The last report decides.** After any events, from any state:

* a name other than the reserved one is in the set exactly when the last report on a class of that name, served
  by the driver, is of one seen; without such a report, when it was in the set before;
* for the reserved name the same holds of the reports on classes of the driver that are marked as a default, or
  whose own name is the reserved one;
* reports on foreign classes and on classes without a name have no effect. -/
theorem last_report_decides (driver : String) (start : State) (events : List ClassEvent) :
    let reports := events.flatMap ClassEvent.reports
    let set := (events.foldl (State.apply driver) start).classes
    (∀ name, name ≠ ClassSet.defaultClass →
      (set.contains name = true ↔ LastSeen
        (fun r => r.storageClass.metadata.name = some name ∧ r.storageClass.provisioner = driver)
        reports (start.classes.contains name)))
    ∧ (set.contains ClassSet.defaultClass = true ↔ LastSeen
        (fun r => r.storageClass.metadata.name ≠ none ∧ r.storageClass.provisioner = driver
          ∧ (r.storageClass.isDefault = true ∨ r.storageClass.metadata.name = some ClassSet.defaultClass))
        reports (start.classes.contains ClassSet.defaultClass))
    ∧ set = (reports.filter fun r => r.storageClass.metadata.name ≠ none
        ∧ r.storageClass.provisioner = driver).foldl (ClassSet.report driver) start.classes := by
  refine ⟨fun name hne => ?_, ?_, ?_⟩
  · rw [State.contains_foldl_apply]
    apply lastSeen_congr
    intro r _
    rw [Bool.eq_iff_iff, decide_eq_true_eq, ClassReport.writes_iff_of_ne hne]
  · rw [State.contains_foldl_apply]
    apply lastSeen_congr
    intro r _
    rw [Bool.eq_iff_iff, decide_eq_true_eq, ClassReport.writes_defaultClass_iff]
  · rw [State.classes_foldl_apply, ← ClassSet.foldl_report_filter_isOwn]
    congr 1
    apply List.filter_congr
    intro r _
    rw [Bool.eq_iff_iff]
    simp [ClassReport.isOwn, Option.isSome_iff_ne_none]

end ReadyPin

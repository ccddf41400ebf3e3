import Mathlib.Tactic.Tauto
import ReadyPin.Proofs.Classes.LastReport

/-!
# The class set against the cluster

A watch tells of a cluster: which classes live in it, and in what state. `Cluster.Allows` says which event can come
next, and `Cluster.after` which classes live then. Along a history of such events the set has the names of exactly
the live classes that the driver serves (`Mirrors`, kept by `mirrors_after`).

The reserved name is another matter, because all default classes share it. It follows the last report on a class of
the driver that is marked (`classSet_mirrors_cluster`). That is whether such a class lives as long as no
event *drifts*: one that takes the last mark away without a deletion leaves the name in the set, and one that
deletes a marked class while another one lives takes the name out of it. `Cluster.tells_after` shows for one event that
these two are the only ways to go wrong, and `Cluster.tells_foldl_iff` for a whole history.
-/

namespace ReadyPin

/-! ## 1. The cluster -/

/-- The classes that live in a cluster, by name. -/
abbrev Cluster := String → Option StorageClass

namespace Cluster

/-- A cluster without classes. -/
def empty : Cluster := fun _ => none

/-- The classes that live after an event. A listing has all of them. -/
def after (self : Cluster) : ClassEvent → Cluster
  | .applied c => fun name => if c.metadata.name = some name then some c else self name
  | .deleted c => fun name => if c.metadata.name = some name then none else self name
  | .restarted cs => fun name => cs.find? fun c => c.metadata.name == some name

/-- The classes that live after a history that starts with none. -/
def told (history : List ClassEvent) : Cluster := history.foldl after empty

/-- Whether a class can have been seen: it has a name, and if a class of that name lives, it is still of the same
driver. -/
def AllowsSeen (self : Cluster) (c : StorageClass) : Prop :=
  ∃ name, c.metadata.name = some name ∧ name ≠ ClassSet.defaultClass
    ∧ ∀ old, self name = some old → c.provisioner = old.provisioner

/-- Whether an event can come next. What is deleted lives, and is told in the state in which it was seen last. A
listing has every class once, and leaves out none that lives. -/
def Allows (self : Cluster) : ClassEvent → Prop
  | .applied c => self.AllowsSeen c
  | .deleted c => ∃ name old, c.metadata.name = some name ∧ name ≠ ClassSet.defaultClass
      ∧ self name = some old ∧ c.provisioner = old.provisioner
      ∧ c.metadata.annotations = old.metadata.annotations
  | .restarted cs => (∀ c ∈ cs, self.AllowsSeen c)
      ∧ (∀ c ∈ cs, ∀ d ∈ cs, c.metadata.name = d.metadata.name → c = d)
      ∧ ∀ name old, self name = some old → ∃ c ∈ cs, c.metadata.name = some name

/-- Whether a history can be told of the cluster. -/
def Consistent : Cluster → List ClassEvent → Prop
  | _, [] => True
  | self, event :: events => self.Allows event ∧ (self.after event).Consistent events

/-- Whether a class of the driver that is marked as a default lives. -/
def HasDefault (driver : String) (self : Cluster) : Prop :=
  ∃ name c, self name = some c ∧ c.provisioner = driver ∧ c.isDefault = true

/-- Whether an event leaves the reserved name behind: it takes away the last mark without a deletion, or it deletes a
marked class while another one lives. -/
def Drifts (driver : String) (self : Cluster) (event : ClassEvent) : Prop :=
  match event with
  | .deleted c => c.provisioner = driver ∧ c.isDefault = true ∧ (self.after event).HasDefault driver
  | _ => self.HasDefault driver ∧ ¬ (self.after event).HasDefault driver

end Cluster

/-! ## 2. One event -/

namespace ClassSet

variable {driver : String}

theorem contains_after_applied (set : ClassSet) (c : StorageClass) (name : String) :
    (set.after driver (.applied c)).contains name = true
      ↔ (ClassReport.seen c).writes driver name = true ∨ set.contains name = true := by
  rw [after_eq_foldl_reports]
  simp only [ClassEvent.reports, List.foldl_cons, List.foldl_nil, contains_report, ClassReport.isSeen]
  cases (ClassReport.seen c).writes driver name <;> simp

theorem contains_after_deleted (set : ClassSet) (c : StorageClass) (name : String) :
    (set.after driver (.deleted c)).contains name = true
      ↔ ¬ (ClassReport.deleted c).writes driver name = true ∧ set.contains name = true := by
  rw [after_eq_foldl_reports]
  simp only [ClassEvent.reports, List.foldl_cons, List.foldl_nil, contains_report, ClassReport.isSeen]
  cases (ClassReport.deleted c).writes driver name <;> simp

/-- A listing adds what any of its classes adds. -/
theorem contains_after_restarted (set : ClassSet) (cs : List StorageClass) (name : String) :
    (set.after driver (.restarted cs)).contains name = true
      ↔ (∃ c ∈ cs, (ClassReport.seen c).writes driver name = true) ∨ set.contains name = true := by
  induction cs generalizing set with
  | nil => simp [after]
  | cons c cs ih =>
    rw [show set.after driver (.restarted (c :: cs))
        = (set.after driver (.applied c)).after driver (.restarted cs) from rfl,
      ih, contains_after_applied]
    simp only [List.mem_cons, exists_eq_or_imp]
    rw [or_left_comm, or_assoc]

end ClassSet

namespace Cluster

variable {driver : String}

/-- The set has the names of the live classes that the driver serves. -/
def Mirrors (driver : String) (set : ClassSet) (self : Cluster) : Prop :=
  ∀ name, name ≠ ClassSet.defaultClass →
    (set.contains name = true ↔ ∃ c, self name = some c ∧ c.provisioner = driver)

theorem after_restarted_eq_some {cluster : Cluster} {cs : List StorageClass}
    (ha : cluster.Allows (.restarted cs)) {name : String} {c : StorageClass} :
    cluster.after (.restarted cs) name = some c ↔ c ∈ cs ∧ c.metadata.name = some name := by
  obtain ⟨-, honce, -⟩ := ha
  simp only [after]
  constructor
  · intro h
    exact ⟨List.mem_of_find?_eq_some h, by simpa using List.find?_some h⟩
  · intro h
    obtain ⟨hc, hn⟩ := h
    cases hf : cs.find? (fun c => c.metadata.name == some name) with
    | none =>
      rw [List.find?_eq_none] at hf
      exact absurd hn (by simpa using hf c hc)
    | some d =>
      have hd : d.metadata.name = some name := by simpa using List.find?_some hf
      rw [honce c hc d (List.mem_of_find?_eq_some hf) (hn.trans hd.symm)]

/-- One event keeps the set in step with the cluster. -/
theorem mirrors_after {set : ClassSet} {cluster : Cluster} {event : ClassEvent}
    (hm : Mirrors driver set cluster) (ha : cluster.Allows event) :
    Mirrors driver (set.after driver event) (cluster.after event) := by
  intro name hne
  have hbefore := hm name hne
  cases event with
  | applied c =>
    obtain ⟨own, hn, -, hkeep⟩ := ha
    rw [ClassSet.contains_after_applied, ClassReport.writes_iff_of_ne hne, hbefore]
    simp only [ClassReport.storageClass, after, hn, Option.some.injEq]
    by_cases ho : own = name
    · subst ho
      rw [if_pos rfl]
      constructor
      · intro h
        rcases h with ⟨_, hp⟩ | ⟨old, hold, hp⟩
        · exact ⟨c, rfl, hp⟩
        · exact ⟨c, rfl, (hkeep old hold).trans hp⟩
      · intro h
        obtain ⟨_, hc, hp⟩ := h
        cases hc
        exact Or.inl ⟨rfl, hp⟩
    · rw [if_neg ho]
      simp [ho]
  | deleted c =>
    obtain ⟨own, old, hn, -, hold, hp, -⟩ := ha
    rw [ClassSet.contains_after_deleted, ClassReport.writes_iff_of_ne hne, hbefore]
    simp only [ClassReport.storageClass, after, hn, Option.some.injEq]
    by_cases ho : own = name
    · subst ho
      rw [if_pos rfl, hold]
      simp [hp]
    · rw [if_neg ho]
      simp [ho]
  | restarted cs =>
    have hall := ha
    obtain ⟨hseen, -, hlive⟩ := ha
    rw [ClassSet.contains_after_restarted, hbefore]
    simp only [ClassReport.writes_iff_of_ne hne, ClassReport.storageClass, after_restarted_eq_some hall]
    constructor
    · intro h
      rcases h with ⟨c, hc, hn, hp⟩ | ⟨old, hold, hp⟩
      · exact ⟨c, ⟨hc, hn⟩, hp⟩
      · obtain ⟨c, hc, hn⟩ := hlive name old hold
        obtain ⟨own, hown, -, hkeep⟩ := hseen c hc
        obtain rfl : own = name := Option.some.inj (hown.symm.trans hn)
        exact ⟨c, ⟨hc, hn⟩, (hkeep old hold).trans hp⟩
    · intro h
      obtain ⟨c, ⟨hc, hn⟩, hp⟩ := h
      exact Or.inl ⟨c, hc, hn, hp⟩

/-- Whether the reserved name says what it stands for: that a marked class of the driver lives. -/
def Tells (driver : String) (set : ClassSet) (self : Cluster) : Prop :=
  set.contains ClassSet.defaultClass = true ↔ self.HasDefault driver

theorem writes_default_iff_of_named {r : ClassReport} {own : String}
    (hn : r.storageClass.metadata.name = some own) (hne : own ≠ ClassSet.defaultClass) :
    r.writes driver ClassSet.defaultClass = true
      ↔ r.storageClass.provisioner = driver ∧ r.storageClass.isDefault = true := by
  rw [ClassReport.writes_defaultClass_iff, hn]
  simp [hne]

theorem isDefault_congr {c d : StorageClass} (h : c.metadata.annotations = d.metadata.annotations) :
    c.isDefault = d.isDefault := by
  simp only [StorageClass.isDefault, Metadata.annotation?, h]

/-- A class that is seen with the mark lives with it, and any other class that lives with it did so before. -/
theorem hasDefault_after_applied (driver : String) (cluster : Cluster) {c : StorageClass} {own : String}
    (hn : c.metadata.name = some own) :
    (c.provisioner = driver ∧ c.isDefault = true → (cluster.after (.applied c)).HasDefault driver)
      ∧ ((cluster.after (.applied c)).HasDefault driver →
        (c.provisioner = driver ∧ c.isDefault = true) ∨ cluster.HasDefault driver) := by
  constructor
  · intro h
    obtain ⟨hp, hd⟩ := h
    exact ⟨own, c, by simp [after, hn], hp, hd⟩
  · intro h
    obtain ⟨name, d, hlive, hp, hd⟩ := h
    simp only [after, hn, Option.some.injEq] at hlive
    by_cases ho : own = name
    · rw [if_pos ho] at hlive
      cases hlive
      exact Or.inl ⟨hp, hd⟩
    · rw [if_neg ho] at hlive
      exact Or.inr ⟨name, d, hlive, hp, hd⟩

/-- The deletion of a class without the mark takes no mark away. -/
theorem hasDefault_after_deleted (driver : String) {cluster : Cluster} {c old : StorageClass} {own : String}
    (hn : c.metadata.name = some own) (hold : cluster own = some old)
    (hmark : ¬ (old.provisioner = driver ∧ old.isDefault = true)) :
    (cluster.after (.deleted c)).HasDefault driver ↔ cluster.HasDefault driver := by
  constructor
  · intro h
    obtain ⟨name, d, hlive, hp, hd⟩ := h
    simp only [after, hn, Option.some.injEq] at hlive
    by_cases ho : own = name
    · rw [if_pos ho] at hlive
      cases hlive
    · rw [if_neg ho] at hlive
      exact ⟨name, d, hlive, hp, hd⟩
  · intro h
    obtain ⟨name, d, hlive, hp, hd⟩ := h
    refine ⟨name, d, ?_, hp, hd⟩
    have ho : own ≠ name := by
      rintro rfl
      rw [hold] at hlive
      cases hlive
      exact hmark ⟨hp, hd⟩
    simp [after, hn, ho, hlive]

/-- After a listing the marked classes that live are those listed. -/
theorem hasDefault_after_restarted (driver : String) {cluster : Cluster} {cs : List StorageClass}
    (ha : cluster.Allows (.restarted cs)) :
    (cluster.after (.restarted cs)).HasDefault driver
      ↔ ∃ c ∈ cs, c.provisioner = driver ∧ c.isDefault = true := by
  constructor
  · intro h
    obtain ⟨name, c, hlive, hp, hd⟩ := h
    exact ⟨c, ((after_restarted_eq_some ha).1 hlive).1, hp, hd⟩
  · intro h
    obtain ⟨c, hc, hp, hd⟩ := h
    obtain ⟨own, hn, -⟩ := ha.1 c hc
    exact ⟨own, c, (after_restarted_eq_some ha).2 ⟨hc, hn⟩, hp, hd⟩

/-- As long as the reserved name tells the truth, an event leaves it so exactly when it does not drift. -/
theorem tells_after {set : ClassSet} {cluster : Cluster} {event : ClassEvent}
    (ht : Tells driver set cluster) (ha : cluster.Allows event) :
    Tells driver (set.after driver event) (cluster.after event) ↔ ¬ cluster.Drifts driver event := by
  unfold Tells at ht ⊢
  cases event with
  | applied c =>
    obtain ⟨own, hn, hne, -⟩ := ha
    rw [ClassSet.contains_after_applied, writes_default_iff_of_named (r := .seen c) hn hne, ht]
    obtain ⟨hmark, hrest⟩ := hasDefault_after_applied driver cluster hn
    simp only [Drifts, ClassReport.storageClass]
    tauto
  | deleted c =>
    obtain ⟨own, old, hn, hne, hold, hp, hd⟩ := ha
    rw [ClassSet.contains_after_deleted, writes_default_iff_of_named (r := .deleted c) hn hne, ht]
    have hsame : c.provisioner = driver ∧ c.isDefault = true
        ↔ old.provisioner = driver ∧ old.isDefault = true := by
      rw [hp, isDefault_congr hd]
    have hrest := hasDefault_after_deleted driver hn hold
    simp only [Drifts, ClassReport.storageClass]
    tauto
  | restarted cs =>
    have hlisted := hasDefault_after_restarted driver ha
    have hwrites : (∃ c ∈ cs, (ClassReport.seen c).writes driver ClassSet.defaultClass = true)
        ↔ ∃ c ∈ cs, c.provisioner = driver ∧ c.isDefault = true := by
      apply exists_congr
      intro c
      apply and_congr_right
      intro hc
      obtain ⟨own, hn, hne, -⟩ := ha.1 c hc
      exact writes_default_iff_of_named (r := .seen c) hn hne
    rw [ClassSet.contains_after_restarted, hwrites, ← hlisted, ht]
    clear hwrites hlisted
    simp only [Drifts]
    tauto

/-! ## 3. A history -/

theorem consistent_append {cluster : Cluster} {seen rest : List ClassEvent} :
    cluster.Consistent (seen ++ rest)
      ↔ cluster.Consistent seen ∧ (seen.foldl after cluster).Consistent rest := by
  induction seen generalizing cluster with
  | nil => simp [Consistent]
  | cons event seen ih => simp [Consistent, ih, and_assoc]

theorem mirrors_foldl {set : ClassSet} {cluster : Cluster} {events : List ClassEvent}
    (hm : Mirrors driver set cluster) (hc : cluster.Consistent events) :
    Mirrors driver (events.foldl (ClassSet.after driver) set) (events.foldl after cluster) := by
  induction events generalizing set cluster with
  | nil => exact hm
  | cons event events ih => exact ih (mirrors_after hm hc.1) hc.2

/-- The reserved name tells the truth all along a history exactly when no event in it drifts. -/
theorem tells_foldl_iff {set : ClassSet} {cluster : Cluster} {events : List ClassEvent}
    (ht : Tells driver set cluster) (hc : cluster.Consistent events) :
    (∀ seen, seen <+: events →
        Tells driver (seen.foldl (ClassSet.after driver) set) (seen.foldl after cluster))
      ↔ ∀ seen event, seen ++ [event] <+: events → ¬ (seen.foldl after cluster).Drifts driver event := by
  induction events generalizing set cluster with
  | nil => simp [ht]
  | cons event events ih =>
    have hstep := tells_after ht hc.1
    constructor
    · intro h seen e hseen
      have hfirst := h [event] (by simp)
      cases seen with
      | nil =>
        obtain ⟨rfl, -⟩ := List.cons_prefix_cons.1 hseen
        exact hstep.1 hfirst
      | cons _ seen =>
        obtain ⟨rfl, hrest⟩ := List.cons_prefix_cons.1 hseen
        refine (ih hfirst hc.2).1 (fun seen' hseen' => ?_) seen e hrest
        exact h (_ :: seen') (List.cons_prefix_cons.2 ⟨rfl, hseen'⟩)
    · intro h seen hseen
      cases seen with
      | nil => exact ht
      | cons _ seen =>
        obtain ⟨rfl, hrest⟩ := List.cons_prefix_cons.1 hseen
        have hfirst := hstep.2 (h [] _ (by simp))
        refine (ih hfirst hc.2).2 (fun seen' e hseen' => ?_) seen hrest
        exact h (_ :: seen') e (List.cons_prefix_cons.2 ⟨rfl, hseen'⟩)

theorem tells_empty : Tells driver {} empty := by
  simp [Tells, HasDefault, empty]

theorem mirrors_empty : Mirrors driver {} empty := by
  simp [Mirrors, empty]

end Cluster

theorem State.classes_foldl_apply_after {driver : String} (events : List ClassEvent) (start : State) :
    (events.foldl (State.apply driver) start).classes
      = events.foldl (ClassSet.after driver) start.classes := by
  induction events generalizing start with
  | nil => rfl
  | cons event events ih => exact ih (start.apply driver event)

namespace Cluster

/-- All reports of a history are on classes with a name that is not reserved. -/
theorem named_of_consistent {cluster : Cluster} {events : List ClassEvent} (h : cluster.Consistent events) :
    ∀ r ∈ events.flatMap ClassEvent.reports,
      ∃ own, r.storageClass.metadata.name = some own ∧ own ≠ ClassSet.defaultClass := by
  induction events generalizing cluster with
  | nil => simp
  | cons event events ih =>
    intro r hr
    rw [List.flatMap_cons, List.mem_append] at hr
    rcases hr with hr | hr
    · cases event with
      | applied c =>
        obtain ⟨⟨own, hn, hne, -⟩, -⟩ := h
        obtain rfl := List.mem_singleton.1 hr
        exact ⟨own, hn, hne⟩
      | deleted c =>
        obtain ⟨⟨own, old, hn, hne, -⟩, -⟩ := h
        obtain rfl := List.mem_singleton.1 hr
        exact ⟨own, hn, hne⟩
      | restarted cs =>
        obtain ⟨c, hc, rfl⟩ := List.mem_map.1 hr
        obtain ⟨own, hn, hne, -⟩ := h.1.1 c hc
        exact ⟨own, hn, hne⟩
    · exact ih h.2 r hr

end Cluster

/-- **The set mirrors the cluster, and the reserved name follows the marks.** Of a history that starts with nothing and
can be told of a cluster, after every beginning of it:

* the set has the names of exactly the live classes that the driver serves;
* it has the reserved name exactly when the last report on a class of the driver that is marked as a default is of
  one seen;
* and that is, after every beginning, whether such a class lives, exactly when no event of the history drifts. -/
theorem classSet_mirrors_cluster (driver : String) (metrics : Metrics) (events : List ClassEvent)
    (h : Cluster.empty.Consistent events) :
    (∀ seen, seen <+: events → ∀ name, name ≠ ClassSet.defaultClass →
      ((seen.foldl (State.apply driver) { metrics }).classes.contains name = true
        ↔ ∃ c, Cluster.told seen name = some c ∧ c.provisioner = driver))
    ∧ (∀ seen, seen <+: events →
      ((seen.foldl (State.apply driver) { metrics }).classes.contains ClassSet.defaultClass = true
        ↔ LastSeen (fun r => r.storageClass.provisioner = driver ∧ r.storageClass.isDefault = true)
          (seen.flatMap ClassEvent.reports) false))
    ∧ ((∀ seen, seen <+: events →
        ((seen.foldl (State.apply driver) { metrics }).classes.contains ClassSet.defaultClass = true
          ↔ (Cluster.told seen).HasDefault driver))
      ↔ ∀ seen event, seen ++ [event] <+: events → ¬ (Cluster.told seen).Drifts driver event) := by
  refine ⟨fun seen hseen name hne => ?_, fun seen hseen => ?_, ?_⟩
  · obtain ⟨rest, rfl⟩ := hseen
    rw [State.classes_foldl_apply_after]
    exact Cluster.mirrors_foldl Cluster.mirrors_empty (Cluster.consistent_append.1 h).1 name hne
  · obtain ⟨rest, rfl⟩ := hseen
    have hnamed := Cluster.named_of_consistent (Cluster.consistent_append.1 h).1
    rw [State.contains_foldl_apply]
    apply lastSeen_congr
    intro r hr
    obtain ⟨own, hn, hne⟩ := hnamed r hr
    rw [Bool.eq_iff_iff, decide_eq_true_eq, Cluster.writes_default_iff_of_named hn hne]
  · simp only [State.classes_foldl_apply_after]
    exact Cluster.tells_foldl_iff Cluster.tells_empty h

/-- A class of a driver that is marked as a default. -/
def StorageClass.marked (driver name : String) : StorageClass where
  metadata := { name := some name, annotations := [(StorageClass.defaultAnnotation, "true")] }
  provisioner := driver

/-- Two default classes come, and the first one goes. -/
def firstDefaultGoes : List ClassEvent :=
  [.applied (.marked "d" "a"), .applied (.marked "d" "b"), .deleted (.marked "d" "a")]

theorem consistent_firstDefaultGoes : Cluster.empty.Consistent firstDefaultGoes := by
  simp [firstDefaultGoes, Cluster.Consistent, Cluster.Allows, Cluster.AllowsSeen, Cluster.after,
    Cluster.empty, StorageClass.marked, ClassSet.defaultClass]

/-- Of the two the second one lives on, and so does its name in the set, but the first one's does not. -/
theorem classSet_mirrors_first_default_gone :
    Cluster.empty.Consistent firstDefaultGoes
      ∧ (firstDefaultGoes.foldl (State.apply "d") {}).classes.contains "b" = true
      ∧ ¬ (firstDefaultGoes.foldl (State.apply "d") {}).classes.contains "a" = true := by
  have hmirrors := (classSet_mirrors_cluster "d" {} firstDefaultGoes consistent_firstDefaultGoes).1
    firstDefaultGoes (List.prefix_refl _)
  refine ⟨consistent_firstDefaultGoes, ?_, ?_⟩
  · exact (hmirrors "b" (by decide)).2 ⟨.marked "d" "b", by decide, rfl⟩
  · rw [hmirrors "a" (by decide)]
    have hgone : Cluster.told firstDefaultGoes "a" = none := by decide
    simp [hgone]

/-- But the reserved name is gone with the first one, although the second one still is a default class of the
driver. -/
theorem reserved_name_lost_with_first_default :
    Cluster.empty.Consistent firstDefaultGoes
      ∧ (Cluster.told firstDefaultGoes).HasDefault "d"
      ∧ (firstDefaultGoes.foldl (State.apply "d") {}).classes.contains ClassSet.defaultClass = false :=
  ⟨consistent_firstDefaultGoes, ⟨"b", .marked "d" "b", by decide, by decide, by decide⟩, by decide⟩

end ReadyPin

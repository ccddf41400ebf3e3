import ReadyPin.Proofs.Api.Deliveries
import ReadyPin.Proofs.Classes.LastReport

/-!
# Disruptions of the watch

Whatever the API answers, the class set has a name only if a class of it has been delivered, and it keeps the name
until the deletion of such a class is delivered. In between there may be any number of failures, of new lists and of
lists without the class. The reserved name is left out of this, as many classes share it.

`State.classes_consume` reduces a stream to the reports of its events, and the gauge follows the set item by item
(`State.Gauged.consume`). `disruptions_neither_lose_nor_invent` says what that comes to for whole runs.
-/

namespace ReadyPin

open State (StreamItem)

/-! ## 1. The reports of a stream -/

/-- The reports of an item. Only events report on classes. -/
def State.StreamItem.reports : StreamItem → List ClassReport
  | .event e => e.reports
  | .error _ => []
  | .cancel => []

namespace State

variable {driver : String}

/-- The class set follows the reports of a stream that is not cancelled. -/
theorem classes_consume {items : List StreamItem} (h : .cancel ∉ items) (state : State) :
    (state.consume driver items).state.classes
      = (items.flatMap StreamItem.reports).foldl (ClassSet.report driver) state.classes := by
  induction items generalizing state with
  | nil => rfl
  | cons item items ih =>
    have hitems : .cancel ∉ items := mt (List.mem_cons_of_mem item) h
    rw [List.flatMap_cons, List.foldl_append]
    cases item with
    | event event =>
      rw [StreamItem.reports, ← ClassSet.after_eq_foldl_reports]
      exact ih hitems (state.apply driver event)
    | error text => exact ih hitems state.recordError
    | cancel => exact absurd List.mem_cons_self h

/-! ## 2. The gauge -/

/-- The gauge is the size of the class set. -/
def Gauged (self : State) : Prop := self.metrics.driverClasses = .ofNat self.classes.size

theorem gauged_empty : ({} : State).Gauged := rfl

theorem gauged_apply (state : State) (event : ClassEvent) : (state.apply driver event).Gauged := rfl

theorem Gauged.recordError {state : State} (h : state.Gauged) : state.recordError.Gauged := h

/-- The gauge stays the size of the class set along a stream. -/
theorem Gauged.consume {state : State} (h : state.Gauged) (items : List StreamItem) :
    (state.consume driver items).state.Gauged := by
  induction items generalizing state with
  | nil => exact h
  | cons item items ih =>
    cases item with
    | event event => exact ih (gauged_apply state event)
    | error text => exact ih h.recordError
    | cancel => exact h

/-- Errors leave the class set and the gauge as they are. -/
theorem consume_of_no_event {items : List StreamItem} (h : ∀ event, .event event ∉ items) (state : State) :
    (state.consume driver items).state.classes = state.classes
      ∧ (state.consume driver items).state.metrics.driverClasses = state.metrics.driverClasses := by
  induction items generalizing state with
  | nil => exact ⟨rfl, rfl⟩
  | cons item items ih =>
    cases item with
    | event event => exact absurd List.mem_cons_self (h event)
    | error text => exact ih (fun event hmem => h event (List.mem_cons_of_mem _ hmem)) state.recordError
    | cancel => exact ⟨rfl, rfl⟩

end State

/-! ## 3. Names -/

/-- Whether a class is the driver's and of the given name. -/
def StorageClass.Backs (driver name : String) (self : StorageClass) : Prop :=
  self.metadata.name = some name ∧ self.provisioner = driver

theorem ClassEvent.isSeen_of_mem_reports {event : ClassEvent} {c : StorageClass} (h : .seen c ∈ event.reports)
    {r : ClassReport} (hr : r ∈ event.reports) : r.isSeen = true := by
  cases event with
  | applied c' =>
    rw [reports, List.mem_singleton] at hr
    rw [hr]
    rfl
  | deleted c' => cases List.mem_singleton.mp h
  | restarted cs =>
    obtain ⟨c', -, rfl⟩ := List.mem_map.mp hr
    rfl

/-- A deletion is reported by the event of the deletion alone. -/
theorem State.StreamItem.eq_of_deleted_mem_reports {item : StreamItem} {c : StorageClass}
    (h : .deleted c ∈ item.reports) : item = .event (.deleted c) := by
  cases item with
  | event event =>
    cases event with
    | applied c' => cases List.mem_singleton.mp h
    | deleted c' =>
      cases List.mem_singleton.mp h
      rfl
    | restarted cs =>
      obtain ⟨c', -, hc⟩ := List.mem_map.mp h
      cases hc
  | error text => cases h
  | cancel => cases h

namespace ClassSet

variable {driver name : String}

/-- A name stays in the set as long as no deletion writes it. -/
theorem contains_foldl_of_kept {reports : List ClassReport} {set : ClassSet} (hset : set.contains name = true)
    (hkept : ∀ r ∈ reports, r.writes driver name = true → r.isSeen = true) :
    (reports.foldl (report driver) set).contains name = true := by
  induction reports generalizing set with
  | nil => exact hset
  | cons r reports ih =>
    obtain ⟨hr, hreports⟩ := List.forall_mem_cons.mp hkept
    refine ih ?_ hreports
    rw [contains_report]
    split
    · exact hr ‹_›
    · exact hset

/-- A name that is in a set made of reports has been seen. -/
theorem exists_seen_of_contains {reports : List ClassReport}
    (h : (reports.foldl (report driver) {}).contains name = true) :
    ∃ c, .seen c ∈ reports ∧ (ClassReport.seen c).writes driver name = true := by
  obtain ⟨earlier, r, later, rfl, hwrites, hseen, -⟩ | ⟨-, hempty⟩ := (contains_foldl_report reports {} name).mp h
  · cases r with
    | seen c => exact ⟨c, List.mem_append_right _ List.mem_cons_self, hwrites⟩
    | deleted c => cases hseen
  · cases hempty

end ClassSet

/-! ## 4. Streams -/

section Stream

variable {driver name : String} {before after : List StreamItem}

/-- A name that a stream brings into the set has been seen in one of its events. -/
theorem exists_event_of_contains {items : List StreamItem} (hcancel : .cancel ∉ items)
    (hname : name ≠ ClassSet.defaultClass)
    (h : (({} : State).consume driver items).state.classes.contains name = true) :
    ∃ event c, .event event ∈ items ∧ .seen c ∈ event.reports ∧ c.Backs driver name := by
  rw [State.classes_consume hcancel] at h
  obtain ⟨c, hc, hwrites⟩ := ClassSet.exists_seen_of_contains h
  obtain ⟨item, hitem, hreport⟩ := List.mem_flatMap.mp hc
  cases item with
  | event event => exact ⟨event, c, hitem, hreport, (ClassReport.writes_iff_of_ne hname _).mp hwrites⟩
  | error text => cases hreport
  | cancel => cases hreport

/-- A name that has been seen stays in the set until a deletion of it comes. -/
theorem contains_after_event {event : ClassEvent} {c : StorageClass} (state : State)
    (hcancel : .cancel ∉ before ++ .event event :: after) (hname : name ≠ ClassSet.defaultClass)
    (hseen : .seen c ∈ event.reports) (hc : c.Backs driver name)
    (hkept : ∀ d : StorageClass, d.Backs driver name → .event (.deleted d) ∉ after) :
    (state.consume driver (before ++ .event event :: after)).state.classes.contains name = true := by
  rw [State.classes_consume hcancel, List.flatMap_append, List.flatMap_cons, List.foldl_append, List.foldl_append,
    State.StreamItem.reports]
  obtain ⟨earlier, later, hreports⟩ := List.append_of_mem hseen
  have hwrites : (ClassReport.seen c).writes driver name = true := (ClassReport.writes_iff_of_ne hname _).mpr hc
  refine ClassSet.contains_foldl_of_kept ?event fun r hr hr' => ?later
  case event =>
    have hlater : ∀ r ∈ later, r.isSeen = true := by
      intro r hr
      refine ClassEvent.isSeen_of_mem_reports hseen ?_
      rw [hreports]
      exact List.mem_append_right _ (List.mem_cons_of_mem _ hr)
    rw [hreports, List.foldl_append, List.foldl_cons]
    refine ClassSet.contains_foldl_of_kept ?_ fun r hr _ => hlater r hr
    rw [ClassSet.contains_report, if_pos hwrites]
    rfl
  case later =>
    cases r with
    | seen c' => rfl
    | deleted d =>
      obtain ⟨item, hitem, hreport⟩ := List.mem_flatMap.mp hr
      rw [State.StreamItem.eq_of_deleted_mem_reports hreport] at hitem
      exact absurd hitem (hkept d ((ClassReport.writes_iff_of_ne hname _).mp hr'))

/-- Right after a deletion of it a name is not in the set. -/
theorem not_contains_after_deleted {d : StorageClass} (state : State)
    (hcancel : .cancel ∉ before ++ [.event (.deleted d)]) (hname : name ≠ ClassSet.defaultClass)
    (hd : d.Backs driver name) :
    (state.consume driver (before ++ [.event (.deleted d)])).state.classes.contains name = false := by
  have hwrites : (ClassReport.deleted d).writes driver name = true := (ClassReport.writes_iff_of_ne hname _).mpr hd
  rw [State.classes_consume hcancel, List.flatMap_append, List.foldl_append]
  refine (ClassSet.contains_report _ (.deleted d) name).trans ?_
  rw [if_pos hwrites]
  rfl

end Stream

/-- **Disruptions.** Whatever the API answers to a watch from its beginning, with `items` for what the answers say one
after the other:

* the states of the run are those after the items of its answers, and the events among the items are those that the
  answers deliver, with a list of which all pages have come or with a line that tells of a change;
* at any moment, a name in the set other than the reserved one is the name of a class of the driver that has been
  seen in an event before; once such a class has been seen its name stays in the set, whatever is said, as long as no
  deletion of a class of the driver of that name is; and right after such a deletion it is not in the set;
* the set and the gauge stay as they are while there are only errors, and through every answer to a list request that
  is not the last page of the list; and an answer says the same without its bookmarks;
* the gauge is the size of the set at any moment. -/
theorem disruptions_neither_lose_nor_invent (driver : String) (answers : List ApiAnswer) :
    let items := Watch.start.told answers
    let after : List StreamItem → State := fun items => (({} : State).consume driver items).state
    Watch.start.run driver {} answers = answers.inits.map (fun seen =>
      ((Watch.start.reached seen).request, after (Watch.start.told seen)))
    ∧ (∀ event, .event event ∈ items ↔ Watch.Delivered answers event)
    ∧ (∀ name, name ≠ ClassSet.defaultClass →
      (∀ seen, seen <+: items → (after seen).classes.contains name = true →
        ∃ event c, .event event ∈ seen ∧ .seen c ∈ event.reports ∧ c.Backs driver name)
      ∧ (∀ before event c later, before ++ .event event :: later <+: items → .seen c ∈ event.reports →
        c.Backs driver name → (∀ d : StorageClass, d.Backs driver name → .event (.deleted d) ∉ later) →
          (after (before ++ .event event :: later)).classes.contains name = true)
      ∧ ∀ before d, before ++ [.event (.deleted d)] <+: items → d.Backs driver name →
        (after (before ++ [.event (.deleted d)])).classes.contains name = false)
    ∧ (∀ before later, before ++ later <+: items → (∀ event, .event event ∉ later) →
      (after (before ++ later)).classes = (after before).classes
        ∧ (after (before ++ later)).metrics.driverClasses = (after before).metrics.driverClasses)
    ∧ (∀ before answer token gathered, before ++ [answer] <+: answers →
      Watch.start.reached before = .listing token gathered → (¬ ∃ page, Watch.IsLast answer page) →
        (after (Watch.start.told (before ++ [answer]))).classes = (after (Watch.start.told before)).classes
          ∧ (after (Watch.start.told (before ++ [answer]))).metrics.driverClasses
            = (after (Watch.start.told before)).metrics.driverClasses)
    ∧ (∀ (state : State) version before line rest, Watch.IsBookmark line →
      state.consume driver (Watch.afterLines version (before ++ line :: rest)).1
        = state.consume driver (Watch.afterLines version (before ++ rest)).1)
    ∧ ∀ seen, seen <+: items → (after seen).metrics.driverClasses = .ofNat (after seen).classes.size
      ∧ ((after seen).classes.size ≤ Int64.maxValue.toInt →
        (after seen).metrics.driverClasses.toInt = (after seen).classes.size) := by
  intro items after
  have hcancel : ∀ seen, seen <+: items → .cancel ∉ seen :=
    fun seen hseen hmem => Watch.cancel_not_mem_told answers (hseen.subset hmem)
  have hquiet : ∀ before later, before ++ later <+: items → (∀ event, .event event ∉ later) →
      (after (before ++ later)).classes = (after before).classes
        ∧ (after (before ++ later)).metrics.driverClasses = (after before).metrics.driverClasses := by
    intro before later hprefix hnone
    have hbefore := hcancel before ((List.prefix_append before later).trans hprefix)
    simp only [after]
    rw [State.consume_append hbefore]
    exact State.consume_of_no_event hnone _
  refine ⟨Watch.run_eq driver _ _ answers, fun event => Watch.event_mem_told_iff, fun name hname => ⟨?_, ?_, ?_⟩,
    hquiet, ?_, ?_, ?_⟩
  · intro seen hseen h
    exact exists_event_of_contains (hcancel seen hseen) hname h
  · intro before event c later hprefix hseen hc hkept
    exact contains_after_event _ (hcancel _ hprefix) hname hseen hc hkept
  · intro before d hprefix hd
    exact not_contains_after_deleted _ (hcancel _ hprefix) hname hd
  · intro before answer token gathered hprefix hreached hlast
    obtain ⟨rest, rfl⟩ := hprefix
    have htold : Watch.start.told (before ++ [answer])
        = Watch.start.told before ++ ((Watch.start.reached before).after answer).1 := Watch.told_concat before answer
    rw [htold]
    refine hquiet _ _ ?_ fun event hevent => hlast ?_
    · rw [← htold]
      exact ⟨_, (Watch.told_append _ rest).symm⟩
    · rw [hreached, Watch.event_mem_after_listing_iff] at hevent
      obtain ⟨page, hpage, -⟩ := hevent
      exact ⟨page, hpage⟩
  · intro state version before line rest hline
    rw [Watch.afterLines_bookmark hline]
  · intro seen _
    have hgauge : (after seen).Gauged := State.gauged_empty.consume seen
    refine ⟨hgauge, fun hsize => ?_⟩
    have hmax : Int64.maxValue.toInt = 9223372036854775807 := by decide
    rw [hgauge]
    exact Int64.toInt_ofNat_of_lt (by omega)

/-- A class of the driver as the API writes it. -/
def fastClass (version : Option String) : Json :=
  let version := version.map fun v => ("resourceVersion", Json.string v)
  .object [("metadata", .object (("name", .string "fast") :: version.toList)), ("provisioner", .string "d")]

/-- A page of a list of classes. -/
def classPage (metadata : List (String × Json)) (classes : List Json) : ApiAnswer :=
  .answered 200 (Utf8.encode (Json.print (.object [("metadata", .object metadata), ("items", .array classes)])))

/-- A line of an answer to a watch. -/
def watchLine (type : String) (object : Json) : List UInt8 :=
  Utf8.encode (Json.print (.object [("type", .string type), ("object", object)])) ++ [0x0A]

/-- A class is listed. The connection fails, the watch breaks off, the next list breaks off as well, and the one after
it leaves the class out; then its deletion is told of. -/
def disrupted : List ApiAnswer :=
  [classPage [("resourceVersion", .string "1")] [fastClass (some "1")], .failed "reset",
    .answered 200 (watchLine "ADDED" (fastClass none)), classPage [("continue", .string "next")] [], .failed "timeout",
    classPage [("resourceVersion", .string "3")] [], .answered 200 (watchLine "DELETED" (fastClass (some "4")))]

/-- The class outlives all that happens before its deletion, and nothing more. -/
theorem fast_outlives_disruptions : ∃ fast gone : StorageClass, fast.Backs "d" "fast" ∧ gone.Backs "d" "fast"
    ∧ Watch.start.told disrupted = [.event (.restarted [fast]), .error "reset", .error "the object has no version",
      .error "ServiceError: timeout", .event (.restarted []), .event (.deleted gone)]
    ∧ (({} : State).consume "d" ((Watch.start.told disrupted).take 5)).state.classes.contains "fast" = true
    ∧ (({} : State).consume "d" (Watch.start.told disrupted)).state.classes.contains "fast" = false := by
  let fast : StorageClass := { metadata := { name := some "fast", resourceVersion := some "1" }, provisioner := "d" }
  let gone : StorageClass := { metadata := { name := some "fast", resourceVersion := some "4" }, provisioner := "d" }
  have htold : Watch.start.told disrupted = [.event (.restarted [fast]), .error "reset",
      .error "the object has no version", .error "ServiceError: timeout", .event (.restarted []),
      .event (.deleted gone)] := by
    decide +kernel
  obtain ⟨-, -, hnames, -⟩ := disruptions_neither_lose_nor_invent "d" disrupted
  obtain ⟨-, hstays, hgone⟩ := hnames "fast" (by decide)
  refine ⟨fast, gone, ⟨rfl, rfl⟩, ⟨rfl, rfl⟩, htold, ?_, ?_⟩
  · rw [htold]
    refine hstays [] (.restarted [fast]) fast _ ?_ List.mem_cons_self ⟨rfl, rfl⟩ ?_
    · rw [htold]
      exact ⟨[.event (.deleted gone)], rfl⟩
    · simp
  · have h := hgone [.event (.restarted [fast]), .error "reset", .error "the object has no version",
      .error "ServiceError: timeout", .event (.restarted [])] gone
    rw [htold] at h ⊢
    exact h (List.prefix_refl _) ⟨rfl, rfl⟩

end ReadyPin

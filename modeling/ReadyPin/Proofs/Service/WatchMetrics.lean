import ReadyPin.Proofs.Classes.Disruptions
import ReadyPin.Proofs.Classes.SharedSet
import ReadyPin.Proofs.Metrics.Counting
import ReadyPin.Proofs.Service.Runs

/-!
# The metrics of the watch

Events come by themselves or in streams, and requests are served beside them, some at once and some bit by bit while
the watch goes on. Whatever the order of these activities is, the metrics of the watch tell what it has done: the gauge
is the number of names in the class set, and each counter is the number of the events of its kind.

`perform_tells` says so of one activity. Only an event sets the gauge, and nothing else touches the set; an item of a
stream is counted under one label, however many classes it reports on. The rest is induction (`performAll_tells`).
-/

namespace ReadyPin

open State (StreamItem)

/-! ## 1. Items of the watch -/

namespace State.StreamItem

/-- The item is an event of a class that was made or changed. -/
def isApplied : StreamItem → Bool
  | event (.applied _) => true
  | _ => false

/-- The item is an event of a class that was deleted. -/
def isDeleted : StreamItem → Bool
  | event (.deleted _) => true
  | _ => false

/-- The item is an event with all classes there are. -/
def isRestarted : StreamItem → Bool
  | event (.restarted _) => true
  | _ => false

/-- The item is an error. -/
def isError : StreamItem → Bool
  | error _ => true
  | _ => false

/-- The label under which an item is counted. -/
def label? : StreamItem → Option String
  | event e => some e.kind
  | error _ => some ClassEvent.errorKind
  | cancel => none

theorem mem_of_label? {item : StreamItem} {label : String} (h : item.label? = some label) :
    label ∈ ["applied", "deleted", "restarted", "error"] := by
  cases item with
  | event e => cases e <;> simp_all [label?, ClassEvent.kind, eq_comm]
  | error text => simp_all [label?, ClassEvent.errorKind, eq_comm]
  | cancel => cases h

/-- Each label is that of one kind of item. -/
theorem label?_beq (item : StreamItem) : (item.label? == some "applied") = item.isApplied
    ∧ (item.label? == some "deleted") = item.isDeleted ∧ (item.label? == some "restarted") = item.isRestarted
    ∧ (item.label? == some "error") = item.isError := by
  cases item with
  | event e => cases e <;> exact ⟨rfl, rfl, rfl, rfl⟩
  | error text => exact ⟨rfl, rfl, rfl, rfl⟩
  | cancel => exact ⟨rfl, rfl, rfl, rfl⟩

end State.StreamItem

/-- The items of a stream that are taken in: those before the first cancellation. -/
def takenOf (items : List StreamItem) : List StreamItem := items.takeWhile (· ≠ .cancel)

theorem takenOf_error (text : String) (items : List StreamItem) :
    takenOf (.error text :: items) = .error text :: takenOf items := rfl

/-- Each item of a stream that is taken in is counted once. -/
theorem State.classEvents_consume (driver : String) (state : State) (items : List StreamItem) :
    (state.consume driver items).state.metrics.classEvents
      = ((takenOf items).filterMap StreamItem.label?).foldl Counters.increment state.metrics.classEvents := by
  induction items generalizing state with
  | nil => rfl
  | cons item items ih =>
    cases item with
    | event event => exact ih (state.apply driver event)
    | error text => exact ih state.recordError
    | cancel => rfl

/-! ## 2. Activities -/

/-- What goes on in the service. A stream that is interrupted is consumed in pieces, and a request that is interrupted
is served in parts. -/
inductive Activity where
  | apply (event : ClassEvent)
  | consume (items : List StreamItem)
  | serve (demand : Demand)
  /-- Lookups fail for a request that is being served. -/
  | failLookups (count : Nat)
  /-- A request that is being served is counted. -/
  | countRequest (outcome : String)

namespace Activity

/-- The events and errors that an activity takes in. -/
def items : Activity → List StreamItem
  | apply event => [.event event]
  | consume items => takenOf items
  | serve _ | failLookups _ | countRequest _ => []

/-- The activity is part of serving a request. -/
def isPart : Activity → Bool
  | failLookups _ | countRequest _ => true
  | apply _ | consume _ | serve _ => false

end Activity

namespace Service

variable {ε : Type} (self : Service ε)

/-- The state after an activity. -/
def perform (state : State) : Activity → State
  | .apply event => state.apply self.driver event
  | .consume items => (state.consume self.driver items).state
  | .serve demand => (self.serve state demand).2
  | .failLookups count => { state with metrics := state.metrics.recordLookupFailures count }
  | .countRequest outcome => { state with metrics := state.metrics.recordAdmission outcome }

/-- The state after some activities. -/
def performAll (state : State) (activities : List Activity) : State := activities.foldl self.perform state

theorem performAll_append (state : State) (first second : List Activity) :
    self.performAll state (first ++ second) = self.performAll (self.performAll state first) second :=
  List.foldl_append

/-! ## 3. What an activity does to the part of the watch -/

theorem SameWatch.gauged {state state' : State} (hsame : SameWatch state state') (h : state'.Gauged) :
    state.Gauged := by
  rw [State.Gauged, hsame.gauge, hsame.classes]
  exact h

/-- An activity counts each of its items once, and the gauge stays the size of the class set. -/
theorem perform_tells (state : State) (activity : Activity) :
    (self.perform state activity).metrics.classEvents
        = (activity.items.filterMap StreamItem.label?).foldl Counters.increment state.metrics.classEvents
      ∧ (state.Gauged → (self.perform state activity).Gauged) := by
  cases activity with
  | apply event => exact ⟨rfl, fun _ => State.gauged_apply state event⟩
  | consume items => exact ⟨State.classEvents_consume self.driver state items, fun h => h.consume items⟩
  | serve demand =>
    have hsame := @serve_sameWatch _ self state demand
    exact ⟨hsame.events, hsame.gauged⟩
  | failLookups count => exact ⟨rfl, id⟩
  | countRequest outcome => exact ⟨rfl, id⟩

/-- So do any activities one after the other. -/
theorem performAll_tells (state : State) (activities : List Activity) :
    (self.performAll state activities).metrics.classEvents
        = ((activities.flatMap Activity.items).filterMap StreamItem.label?).foldl Counters.increment
          state.metrics.classEvents
      ∧ (state.Gauged → (self.performAll state activities).Gauged) := by
  induction activities generalizing state with
  | nil => exact ⟨rfl, id⟩
  | cons activity activities ih =>
    obtain ⟨hevents, hgauged⟩ := self.perform_tells state activity
    obtain ⟨hevents', hgauged'⟩ := ih (self.perform state activity)
    refine ⟨?_, hgauged' ∘ hgauged⟩
    rw [List.flatMap_cons, List.filterMap_append, List.foldl_append, ← hevents]
    exact hevents'

/-- All that serving a request does to the state is done in parts: lookups fail, and the request is counted. -/
theorem serve_in_parts (state : State) (demand : Demand) : ∃ parts : List Activity,
    (∀ part ∈ parts, part.isPart = true) ∧ (self.serve state demand).2 = self.performAll state parts := by
  have hreview (body : List UInt8) : ∃ parts : List Activity, (∀ part ∈ parts, part.isPart = true)
      ∧ (state.review self.driver self.lookup body).2 = self.performAll state parts := by
    cases hpod : Admission.podOf body with
    | error rejection =>
      rw [State.review_of_podOf_error self.driver self.lookup state hpod]
      exact ⟨[], nofun, rfl⟩
    | ok parts =>
      obtain ⟨types, request, pod⟩ := parts
      obtain ⟨answered, -, hreview⟩ := State.review_of_podOf self.driver self.lookup state hpod
      rw [hreview]
      exact ⟨[.failLookups _], List.forall_mem_singleton.mpr rfl, rfl⟩
  cases demand with
  | http request =>
    cases haccepts : Http.accepts self.bodyLimit request with
    | true =>
      obtain ⟨parts, hparts, hstate⟩ := hreview request.body
      let outcome := State.outcome (state.review self.driver self.lookup request.body).1
      refine ⟨parts ++ [.countRequest outcome],
        List.forall_mem_append.mpr ⟨hparts, List.forall_mem_singleton.mpr rfl⟩, ?_⟩
      calc (self.serve state (.http request)).2
        _ = self.perform (state.review self.driver self.lookup request.body).2 (.countRequest outcome) := by
          rw [serve, Http.respond_of_accepts self.driver self.lookup self.bodyLimit state haccepts]
          rfl
        _ = self.perform (self.performAll state parts) (.countRequest outcome) := by rw [hstate]
        _ = self.performAll state (parts ++ [.countRequest outcome]) := by rw [performAll_append]; rfl
    | false =>
      rw [serve, Http.respond_of_not_accepts self.driver self.lookup self.bodyLimit state haccepts]
      exact ⟨[], nofun, rfl⟩
  | review body => exact hreview body
  | decision pod => exact ⟨[.failLookups _], List.forall_mem_singleton.mpr rfl, rfl⟩

/-! ## 4. The metrics of the watch -/

/-- **The metrics of the watch.** Let events and streams be taken in, with fewer than `2 ^ 64` events and errors in all,
and requests be served beside them, at once or in parts, in whatever order, from an empty set and fresh metrics on. Then

* the gauge is the number of names in the class set, the reserved one among them at most once, and it is that number
  also when it is read as a signed one, as long as the number has a signed one of 64 bits;
* the counter of each kind of event is the number of the events of that kind, and that of errors the number of errors,
  whatever the events report on;
* there is no other counter of events.

And requests that are served at once do to the state what they do in parts. -/
theorem watch_metrics_tell (self : Service ε) (activities : List Activity)
    (hfew : (activities.flatMap Activity.items).length < UInt64.size) :
    let state := self.performAll {} activities
    let items := activities.flatMap Activity.items
    let names := state.classes.members
    let gauge := state.metrics.driverClasses
    let events := state.metrics.classEvents
    gauge = .ofNat names.card
    ∧ names.card = (names.erase ClassSet.defaultClass).card
      + (if state.classes.contains ClassSet.defaultClass then 1 else 0)
    ∧ (names.card ≤ Int64.maxValue.toInt → gauge.toInt = names.card)
    ∧ (events.count "applied").toNat = items.countP StreamItem.isApplied
    ∧ (events.count "deleted").toNat = items.countP StreamItem.isDeleted
    ∧ (events.count "restarted").toNat = items.countP StreamItem.isRestarted
    ∧ (events.count "error").toNat = items.countP StreamItem.isError
    ∧ (∀ label, events.contains label = true → label ∈ ["applied", "deleted", "restarted", "error"])
    ∧ ∀ before demand, ∃ parts : List Activity, (∀ part ∈ parts, part.isPart = true)
      ∧ self.perform before (.serve demand) = self.performAll before parts := by
  intro state items names gauge events
  obtain ⟨hevents, hgauged⟩ := self.performAll_tells {} activities
  have hgauge : gauge = .ofNat names.card := by
    rw [state.classes.card_members]
    exact hgauged State.gauged_empty
  have hevents : events = (items.filterMap StreamItem.label?).foldl Counters.increment {} := hevents
  have hbound : (items.filterMap StreamItem.label?).length < UInt64.size :=
    Nat.lt_of_le_of_lt (List.length_filterMap_le _ _) hfew
  have hcount (label : String) (kind : StreamItem → Bool)
      (hkind : ∀ item : StreamItem, (item.label? == some label) = kind item) :
      (events.count label).toNat = items.countP kind := by
    rw [hevents, Counters.toNat_count_foldl_increment hbound, List.count_filterMap]
    exact List.countP_congr fun item _ => by rw [hkind]
  refine ⟨hgauge, ?_, fun hsize => ?_, hcount _ _ fun item => item.label?_beq.1,
    hcount _ _ fun item => item.label?_beq.2.1, hcount _ _ fun item => item.label?_beq.2.2.1,
    hcount _ _ fun item => item.label?_beq.2.2.2, fun label hlabel => ?_, self.serve_in_parts⟩
  · split
    · exact (Finset.card_erase_add_one ((ClassSet.mem_members_iff ..).mpr ‹_›)).symm
    · rw [Finset.erase_eq_of_notMem (mt (ClassSet.mem_members_iff ..).mp ‹_›), Nat.add_zero]
  · have hmax : Int64.maxValue.toInt = 9223372036854775807 := by decide
    rw [hgauge]
    exact Int64.toInt_ofNat_of_lt (by omega)
  · rw [hevents, Counters.contains_foldl_increment, OrderedMap.contains_empty, Bool.or_false,
      List.contains_iff_mem] at hlabel
    obtain ⟨item, -, hitem⟩ := List.mem_filterMap.mp hlabel
    exact StreamItem.mem_of_label? hitem

/-- A service for one driver, for which no claim can be looked up. -/
def withoutClaims : Service Unit where
  driver := "gcs.csi.ofek.dev"
  lookup := fun _ _ => .error ()

/-- A class of the driver, and whether it is the default one. -/
def classNamed (name : String) (isDefault : Bool) : StorageClass :=
  { metadata := {
      name := some name
      annotations := if isDefault then [(StorageClass.defaultAnnotation, "true")] else [] }
    provisioner := "gcs.csi.ofek.dev" }

/-- Two default classes come, one of them twice, with a probe, a failed lookup and an error between them, and a class
goes that nobody has seen. What comes after the cancellation is not taken in. -/
def defaultsCome : List Activity :=
  [.apply (.applied (classNamed "fast" true)), .serve (.http { method := "GET", target := Http.healthPath }),
    .consume [.event (.restarted [classNamed "fast" true, classNamed "slow" true, {}]), .error "reset"],
    .failLookups 1, .consume [.event (.deleted (classNamed "gone" false)), .cancel, .event (.restarted [])]]

/-- The two classes and the reserved name are counted, each once. -/
theorem defaults_are_counted_once :
    let state := withoutClaims.performAll {} defaultsCome
    state.metrics.driverClasses = 3 ∧ state.classes.contains ClassSet.defaultClass = true
    ∧ (state.metrics.classEvents.count "applied").toNat = 1 ∧ (state.metrics.classEvents.count "deleted").toNat = 1
    ∧ (state.metrics.classEvents.count "restarted").toNat = 1
    ∧ (state.metrics.classEvents.count "error").toNat = 1 := by
  intro state
  obtain ⟨hgauge, -, -, happlied, hdeleted, hrestarted, herror, -, -⟩ :=
    watch_metrics_tell withoutClaims defaultsCome (by decide)
  have hcard : state.classes.members.card = 3 := by
    rw [ClassSet.card_members]
    decide +kernel
  exact ⟨hgauge.trans (congrArg Int64.ofNat hcard), by decide +kernel, happlied, hdeleted, hrestarted, herror⟩

end Service

end ReadyPin

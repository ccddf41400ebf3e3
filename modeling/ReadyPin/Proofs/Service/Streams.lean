import ReadyPin.Proofs.Service.WatchMetrics

/-!
# Consuming a stream

A stream of the watch is consumed by a loop. Every turn of it looks at two things, the token by which the end of the
program is asked for and the stream, in an order that nobody has chosen, and goes on with the first that has something
to give. A cancellation in the stream gives nothing: it sets the token, and from then on the stream is silent.
`Consumer` is this loop, turn by turn, and `State.consume` what comes of it: every turn keeps the outcome
(`Consumer.Leads.turn`) and brings the end nearer (`Consumer.turnsLeft_turn`), whichever of the two it looks at first.

So a stream can be read without the loop. Its events up to the first cancellation are applied in order, and the errors
among them are counted, where it does not matter between which events they come (`State.foldl_apply_recordError`).
`streams_are_taken_in_exactly` has both readings.
-/

namespace ReadyPin

open State (StreamItem Consumed)

/-- The event of an item, if it is one. -/
def State.StreamItem.event? : StreamItem → Option ClassEvent
  | event e => some e
  | _ => none

/-! ## 1. The loop -/

/-- A loop that consumes a stream. -/
structure Consumer where
  state : State
  /-- The number of events and errors that have been taken. -/
  taken : Nat := 0
  /-- Whether the end has been asked for. -/
  token : Bool := false
  /-- What the stream still has. Once it is silent it has nothing, not even an end. -/
  stream : Option (List StreamItem)
  /-- Whether the loop has been left. -/
  stopped : Bool := false

namespace Consumer

/-- The loop before its first turn. -/
def start (state : State) (items : List StreamItem) : Consumer := { state, stream := some items }

/-- Looks at the token. With the end asked for there is something to do, to leave the loop. -/
def lookAtToken (self : Consumer) : Bool × Consumer := (self.token, { self with stopped := self.token })

/-- Looks at the stream. There is something to do if it has an event or an error, and if it has ended. -/
def lookAtStream (driver : String) (self : Consumer) : Bool × Consumer :=
  match self.stream with
  | none => (false, self)
  | some [] => (true, { self with stopped := true })
  | some (.cancel :: _) => (false, { self with token := true, stream := none })
  | some (.event event :: items) =>
    (true, { self with state := self.state.apply driver event, taken := self.taken + 1, stream := some items })
  | some (.error _ :: items) =>
    (true, { self with state := self.state.recordError, taken := self.taken + 1, stream := some items })

/-- A turn of the loop. The second is looked at only if there is nothing to do for the first. -/
def turn (driver : String) (self : Consumer) (tokenFirst : Bool) : Consumer :=
  if self.stopped then self
  else if tokenFirst then
    let (ready, next) := self.lookAtToken
    if ready then next else (next.lookAtStream driver).2
  else
    let (ready, next) := self.lookAtStream driver
    if ready then next else next.lookAtToken.2

/-- The loop after some turns, each of which looks at one of the two first. -/
def run (driver : String) (self : Consumer) (turns : List Bool) : Consumer := turns.foldl (turn driver) self

/-- What the loop comes to in the end. -/
def outcome (driver : String) (self : Consumer) : Consumed :=
  match self.stream with
  | none => ⟨self.state, self.taken, self.token⟩
  | some items =>
    let rest := self.state.consume driver items
    ⟨rest.state, self.taken + rest.taken, rest.cancelled⟩

/-- How many turns are left at most. -/
def turnsLeft (self : Consumer) : Nat :=
  if self.stopped then 0
  else
    match self.stream with
    | none => 1
    | some items => items.length + 2

/-! ## 2. What one turn does -/

/-- All that a turn can do, as long as the end has been asked for exactly if the stream is silent. -/
theorem turn_cases (driver : String) {self : Consumer} (hsilent : self.stream = none ↔ self.token = true)
    (tokenFirst : Bool) :
    (self.stopped = true ∧ self.turn driver tokenFirst = self)
    ∨ self.stopped = false
      ∧ ((self.stream = none ∨ self.stream = some []) ∧ self.turn driver tokenFirst = { self with stopped := true }
        ∨ (∃ items, self.stream = some (.cancel :: items)
          ∧ self.turn driver tokenFirst = { self with token := true, stream := none, stopped := !tokenFirst })
        ∨ (∃ event items, self.stream = some (.event event :: items) ∧ self.turn driver tokenFirst
          = { self with state := self.state.apply driver event, taken := self.taken + 1, stream := some items })
        ∨ ∃ text items, self.stream = some (.error text :: items) ∧ self.turn driver tokenFirst
          = { self with state := self.state.recordError, taken := self.taken + 1, stream := some items }) := by
  obtain ⟨state, taken, token, stream, stopped⟩ := self
  cases stopped with
  | true => exact .inl ⟨rfl, rfl⟩
  | false =>
    refine .inr ⟨rfl, ?_⟩
    cases stream with
    | none =>
      obtain rfl : token = true := hsilent.mp rfl
      refine .inl ⟨.inl rfl, ?_⟩
      cases tokenFirst <;> rfl
    | some items =>
      obtain rfl : token = false := by
        cases token with
        | true => cases hsilent.mpr rfl
        | false => rfl
      cases items with
      | nil =>
        refine .inl ⟨.inr rfl, ?_⟩
        cases tokenFirst <;> rfl
      | cons item items =>
        refine .inr ?_
        cases item with
        | cancel =>
          refine .inl ⟨items, rfl, ?_⟩
          cases tokenFirst <;> rfl
        | event event =>
          refine .inr (.inl ⟨event, items, rfl, ?_⟩)
          cases tokenFirst <;> rfl
        | error text =>
          refine .inr (.inr ⟨text, items, rfl, ?_⟩)
          cases tokenFirst <;> rfl

variable {driver : String}

/-- The loop is on its way to an outcome. -/
structure Leads (driver : String) (goal : Consumed) (loop : Consumer) : Prop where
  outcome : loop.outcome driver = goal
  silent_iff : loop.stream = none ↔ loop.token = true
  ended : loop.stopped = true → loop.stream = none ∨ loop.stream = some []

theorem leads_start (state : State) (items : List StreamItem) :
    (start state items).Leads driver (state.consume driver items) where
  outcome := by simp only [Consumer.outcome, start, Nat.zero_add]
  silent_iff := by simp [start]
  ended := nofun

/-- No turn leaves the way. -/
theorem Leads.turn {goal : Consumed} {self : Consumer} (h : self.Leads driver goal) (tokenFirst : Bool) :
    (self.turn driver tokenFirst).Leads driver goal := by
  obtain ⟨houtcome, hsilent, hended⟩ := h
  rcases turn_cases driver hsilent tokenFirst with ⟨-, hturn⟩ | ⟨hstopped, ⟨hstream, hturn⟩ | ⟨items, hstream, hturn⟩
    | ⟨event, items, hstream, hturn⟩ | ⟨text, items, hstream, hturn⟩⟩
  · rw [hturn]
    exact ⟨houtcome, hsilent, hended⟩
  · rw [hturn]
    exact ⟨houtcome, hsilent, fun _ => hstream⟩
  · rw [hturn, ← houtcome]
    refine ⟨?_, by simp, fun _ => .inl rfl⟩
    simp only [Consumer.outcome, hstream, State.consume, Nat.add_zero]
  · rw [hturn, ← houtcome]
    rw [hstream] at hsilent
    refine ⟨?_, by simpa using hsilent, fun h => absurd (hstopped.symm.trans h) Bool.false_ne_true⟩
    simp only [Consumer.outcome, hstream, State.consume, Nat.add_assoc, Nat.add_comm 1]
  · rw [hturn, ← houtcome]
    rw [hstream] at hsilent
    refine ⟨?_, by simpa using hsilent, fun h => absurd (hstopped.symm.trans h) Bool.false_ne_true⟩
    simp only [Consumer.outcome, hstream, State.consume, Nat.add_assoc, Nat.add_comm 1]

/-- Every turn brings the end nearer. -/
theorem turnsLeft_turn {goal : Consumed} {self : Consumer} (h : self.Leads driver goal) (tokenFirst : Bool) :
    (self.turn driver tokenFirst).turnsLeft ≤ self.turnsLeft - 1 := by
  rcases turn_cases driver h.silent_iff tokenFirst with ⟨hstopped, hturn⟩ | ⟨hstopped, ⟨-, hturn⟩
    | ⟨items, hstream, hturn⟩ | ⟨event, items, hstream, hturn⟩ | ⟨text, items, hstream, hturn⟩⟩
  · simp [hturn, turnsLeft, hstopped]
  · simp [hturn, turnsLeft]
  · cases tokenFirst <;> simp [hturn, turnsLeft, hstopped, hstream]
  · simp [hturn, turnsLeft, hstopped, hstream]
  · simp [hturn, turnsLeft, hstopped, hstream]

/-! ## 3. What a run comes to -/

theorem Leads.run {goal : Consumed} {self : Consumer} (h : self.Leads driver goal) (turns : List Bool) :
    (self.run driver turns).Leads driver goal ∧ (self.run driver turns).turnsLeft ≤ self.turnsLeft - turns.length := by
  induction turns generalizing self with
  | nil => exact ⟨h, Nat.le_refl _⟩
  | cons tokenFirst turns ih =>
    obtain ⟨hleads, hleft⟩ := ih (h.turn tokenFirst)
    have hturn := turnsLeft_turn h tokenFirst
    refine ⟨hleads, hleft.trans ?_⟩
    rw [List.length_cons]
    omega

theorem stopped_of_turnsLeft {self : Consumer} (h : self.turnsLeft = 0) : self.stopped = true := by
  unfold turnsLeft at h
  split at h
  · assumption
  · split at h <;> cases h

/-- When the loop has been left it has come to its outcome. -/
theorem Leads.eq_of_stopped {goal : Consumed} {self : Consumer} (h : self.Leads driver goal)
    (hstopped : self.stopped = true) : (⟨self.state, self.taken, self.token⟩ : Consumed) = goal := by
  rw [← h.outcome, Consumer.outcome]
  rcases h.ended hstopped with hstream | hstream
  · rw [hstream]
  · have htoken : self.token = false := by
      have hsilent := h.silent_iff
      rw [hstream] at hsilent
      simpa using hsilent
    rw [hstream, htoken]
    rfl

end Consumer

/-! ## 4. Streams without the loop -/

namespace State

variable {driver : String}

/-- An error can as well be counted after an event as before it. -/
theorem recordError_apply (state : State) (event : ClassEvent) :
    state.recordError.apply driver event = (state.apply driver event).recordError := by
  simp only [apply, recordError, Metrics.recordClassEvent, Metrics.setDriverClasses,
    Counters.increment_comm _ event.kind]

theorem foldl_apply_recordError (events : List ClassEvent) (state : State) :
    events.foldl (apply driver) state.recordError = (events.foldl (apply driver) state).recordError := by
  induction events generalizing state with
  | nil => rfl
  | cons event events ih => rw [List.foldl_cons, List.foldl_cons, recordError_apply, ih]

/-- The events up to the first cancellation are applied in their order, and the errors are counted. -/
theorem state_consume (items : List StreamItem) (state : State) :
    let folded := ((takenOf items).filterMap StreamItem.event?).foldl (apply driver) state
    (state.consume driver items).state = { folded with metrics := { folded.metrics with
      classEvents := (List.replicate ((takenOf items).countP StreamItem.isError) ClassEvent.errorKind).foldl
        Counters.increment folded.metrics.classEvents } } := by
  induction items generalizing state with
  | nil => rfl
  | cons item items ih =>
    cases item with
    | event event => exact ih (state.apply driver event)
    | error text =>
      refine (ih state.recordError).trans ?_
      rw [takenOf_error, List.countP_cons_of_pos rfl, List.replicate_succ, foldl_apply_recordError]
      rfl
    | cancel => rfl

theorem taken_consume (items : List StreamItem) (state : State) : (state.consume driver items).taken
    = ((takenOf items).filterMap StreamItem.event?).length + (takenOf items).countP StreamItem.isError := by
  induction items generalizing state with
  | nil => rfl
  | cons item items ih =>
    cases item with
    | event event =>
      have hevents : (takenOf (.event event :: items)).filterMap StreamItem.event?
          = event :: (takenOf items).filterMap StreamItem.event? := rfl
      have herrors : (takenOf (.event event :: items)).countP StreamItem.isError
          = (takenOf items).countP StreamItem.isError := rfl
      rw [hevents, herrors, consume, ih, List.length_cons, Nat.add_right_comm]
    | error text =>
      rw [takenOf_error, List.countP_cons_of_pos rfl, consume, ih]
      rfl
    | cancel => rfl

theorem cancelled_consume (items : List StreamItem) (state : State) :
    (state.consume driver items).cancelled = true ↔ .cancel ∈ items := by
  induction items generalizing state with
  | nil => simp [consume]
  | cons item items ih =>
    cases item with
    | event event => simpa [consume] using ih (state.apply driver event)
    | error text => simpa [consume] using ih state.recordError
    | cancel => simp [consume]

/-- What comes after a cancellation does not matter. -/
theorem consume_cancel (before after other : List StreamItem) (state : State) :
    state.consume driver (before ++ .cancel :: after) = state.consume driver (before ++ .cancel :: other) := by
  induction before generalizing state with
  | nil => rfl
  | cons item before ih =>
    cases item with
    | event event => simp only [List.cons_append, consume, ih]
    | error text => simp only [List.cons_append, consume, ih]
    | cancel => rfl

end State

/-- **Streams.** Let a stream be consumed from any state, with the end not asked for yet.

* Whichever of token and stream the loop looks at first in each of its turns, it is left after at most two turns more
  than there are items, and whenever it is left it has come to the same state, number of items and token.
* The state is the one after the events before the first cancellation, applied in their order, in which each error
  before it has been counted once under `error`; nothing else is changed by errors.
* As many items have been taken as there are events and errors before the first cancellation, and the end has been
  asked for exactly if there is a cancellation.
* What comes after a cancellation has no effect, and a stream without one can be consumed in two parts. -/
theorem streams_are_taken_in_exactly (driver : String) (state : State) (items : List StreamItem) :
    let out := state.consume driver items
    let taken := items.takeWhile (· ≠ .cancel)
    let events := taken.filterMap StreamItem.event?
    let errors := taken.countP StreamItem.isError
    let folded := events.foldl (State.apply driver) state
    (∀ turns : List Bool, let loop := (Consumer.start state items).run driver turns
      (items.length + 2 ≤ turns.length → loop.stopped = true)
        ∧ (loop.stopped = true → out = ⟨loop.state, loop.taken, loop.token⟩))
    ∧ out.state = { folded with metrics := { folded.metrics with
        classEvents := (List.replicate errors "error").foldl Counters.increment folded.metrics.classEvents } }
    ∧ (∀ label, out.state.metrics.classEvents.count label
      = folded.metrics.classEvents.count label + if label = "error" then .ofNat errors else 0)
    ∧ out.taken = events.length + errors
    ∧ (out.cancelled = true ↔ .cancel ∈ items)
    ∧ (∀ before after other, items = before ++ .cancel :: after →
      state.consume driver (before ++ .cancel :: other) = out)
    ∧ ∀ more, .cancel ∉ items → state.consume driver (items ++ more)
      = let rest := out.state.consume driver more
        { rest with taken := out.taken + rest.taken } := by
  intro out taken events errors folded
  have hstate : out.state = { folded with metrics := { folded.metrics with
      classEvents := (List.replicate errors "error").foldl Counters.increment folded.metrics.classEvents } } :=
    State.state_consume items state
  refine ⟨fun turns => ?_, hstate, fun label => ?_, State.taken_consume items state,
    State.cancelled_consume items state, ?_, fun more hcancel => State.consume_append_eq hcancel more state⟩
  · obtain ⟨hleads, hleft⟩ := Consumer.Leads.run (Consumer.leads_start state items) turns
    refine ⟨fun hturns => Consumer.stopped_of_turnsLeft ?_, fun hstopped => (hleads.eq_of_stopped hstopped).symm⟩
    have hstart : (Consumer.start state items).turnsLeft = items.length + 2 := rfl
    omega
  · rw [hstate, Counters.count_foldl_increment, List.count_replicate]
    by_cases hlabel : label = "error"
    · simp [hlabel]
    · simp [hlabel, Ne.symm hlabel]
  · rintro before after other rfl
    exact State.consume_cancel before other after state

end ReadyPin

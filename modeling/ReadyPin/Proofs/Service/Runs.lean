import ReadyPin.Proofs.Admission.Rejections
import ReadyPin.Service.Http

/-!
# Runs of the service

The service is asked for admissions, over HTTP or directly, while its watch brings events and errors. Both share one
state. A run is any sequence of the two kinds of inputs; `Service.log` has what each demand was given.

The watch owns one part of the state, the class set with the gauge and the counters of its events (`SameWatch`), and
demands the rest. `serve_sameWatch` says that no demand touches the part of the watch, `serve_congr` that the class set
is all that a demand sees of the state. By induction on the run, a demand is given what it would be given as the only
one (`demands_are_stateless`).
-/

namespace ReadyPin

/-! ## 1. Requests over HTTP -/

namespace Http

variable {ε : Type} (driver : String) (lookup : ClaimLookup ε) (bodyLimit : Nat)

/-- Whether the body of a request is reviewed: it is posted to the path for that, and it is not too large. -/
def accepts (request : Request) : Bool := route request = .mutate ∧ request.body.length ≤ bodyLimit

/-- The response to a request whose body is not reviewed. -/
def unreviewed (request : Request) : Response :=
  match route request with
  | .unknown => .empty 404 []
  | .wrongMethod allowed => .empty 405 [("allow", allowed)]
  | .health true => alive
  | .health false => alive.withoutBody
  | .mutate => tooLarge

theorem respond_of_accepts (state : State) {request : Request} (h : accepts bodyLimit request = true) :
    respond driver lookup bodyLimit state request
      = ({ response := reviewed (state.handle driver lookup request.body).1
           review := some (state.handle driver lookup request.body).1 },
          (state.handle driver lookup request.body).2) := by
  obtain ⟨hroute, hsize⟩ := decide_eq_true_iff.mp h
  simp only [respond, hroute, if_pos hsize]

/-- A request whose body is not reviewed is answered without a look at the state. -/
theorem respond_of_not_accepts (state : State) {request : Request} (h : accepts bodyLimit request = false) :
    respond driver lookup bodyLimit state request = ({ response := unreviewed request }, state) := by
  have hnot := decide_eq_false_iff_not.mp h
  unfold respond unreviewed
  cases hroute : route request with
  | health withBody => cases withBody <;> rfl
  | mutate => exact if_neg fun hsize => hnot ⟨hroute, hsize⟩
  | _ => rfl

theorem route_eq_mutate {request : Request} :
    route request = .mutate ↔ pathOf request.target = mutatePath ∧ request.method = "POST" := by
  have hpaths : mutatePath ≠ healthPath := by decide
  unfold route
  by_cases hmutate : pathOf request.target = mutatePath
  · by_cases hpost : request.method = "POST" <;> simp [hmutate, hpost]
  · by_cases hhealth : pathOf request.target = healthPath
    · by_cases hget : request.method = "GET" <;> by_cases hhead : request.method = "HEAD" <;>
        simp [hhealth, hpaths.symm, hget, hhead]
    · simp [hmutate, hhealth]

end Http

namespace State

variable {ε : Type} (driver : String) (lookup : ClaimLookup ε)

theorem review_fst (state : State) (body : List UInt8) :
    (state.review driver lookup body).1 = Admission.review driver state.classes lookup body := by
  cases hpod : Admission.podOf body with
  | error rejection => rw [review_of_podOf_error driver lookup state hpod, Admission.review_of_podOf_error hpod]
  | ok parts =>
    obtain ⟨types, request, pod⟩ := parts
    obtain ⟨answered, hok, hreview⟩ := review_of_podOf driver lookup state hpod
    rw [hreview, hok]

end State

/-! ## 2. Demands -/

/-- What the service is asked for. -/
inductive Demand where
  | http (request : Http.Request)
  /-- The review of a body. -/
  | review (body : List UInt8)
  /-- The decision on a pod. -/
  | decision (pod : Pod)
  deriving Repr, DecidableEq

/-- What a demand is answered with. -/
inductive Reply where
  | http (response : Http.Response)
  | review (result : Except Rejection Admission.Answered)
  | decision (decision : Decision)

/-- What is given for a demand: the reply, and the claims that were looked up for it, in order. -/
structure Served where
  reply : Reply
  lookups : List (String × String)

/-- What stays the same while the service runs. -/
structure Service (ε : Type) where
  driver : String
  lookup : ClaimLookup ε
  bodyLimit : Nat := Http.defaultBodyLimit

/-- What happens to the service next. -/
inductive Input where
  | demand (demand : Demand)
  /-- The watch takes in an event. -/
  | event (event : ClassEvent)
  /-- The watch fails for a moment. -/
  | watchError
  deriving Repr, DecidableEq

/-- Whether an input comes from the watch. -/
def Input.isWatch : Input → Bool
  | .demand _ => false
  | _ => true

namespace Service

variable {ε : Type} (self : Service ε)

/-- What a demand is given in a state, and the state after it. -/
def serve (state : State) : Demand → Served × State
  | .http request =>
    let (exchange, state) := Http.respond self.driver self.lookup self.bodyLimit state request
    (⟨.http exchange.response, (exchange.review.map Admission.lookupsOf).getD []⟩, state)
  | .review body =>
    let (result, state) := state.review self.driver self.lookup body
    (⟨.review result, Admission.lookupsOf result⟩, state)
  | .decision pod =>
    let (verdict, state) := state.decide self.driver self.lookup pod
    (⟨.decision verdict.decision, verdict.lookups⟩, state)

/-- The state after an input. -/
def next (state : State) : Input → State
  | .demand demand => (self.serve state demand).2
  | .event event => state.apply self.driver event
  | .watchError => state.recordError

/-- The state after a run. -/
def run (state : State) (inputs : List Input) : State := inputs.foldl self.next state

/-- The demand of an input, if it is one, with what it is given. -/
def served? (state : State) : Input → Option (Demand × Served)
  | .demand demand => some (demand, (self.serve state demand).1)
  | _ => none

/-- The demands of a run in order, each with what it was given. -/
def log (state : State) : List Input → List (Demand × Served)
  | [] => []
  | input :: inputs => (self.served? state input).toList ++ log (self.next state input) inputs

/-! ## 3. What a demand sees and what it changes -/

/-- Two states agree on what the watch owns. -/
structure SameWatch (state state' : State) : Prop where
  classes : state.classes = state'.classes
  gauge : state.metrics.driverClasses = state'.metrics.driverClasses
  events : state.metrics.classEvents = state'.metrics.classEvents

theorem SameWatch.refl (state : State) : SameWatch state state := ⟨rfl, rfl, rfl⟩

theorem SameWatch.trans {a b c : State} (hab : SameWatch a b) (hbc : SameWatch b c) : SameWatch a c :=
  ⟨hab.classes.trans hbc.classes, hab.gauge.trans hbc.gauge, hab.events.trans hbc.events⟩

variable {self}

theorem review_sameWatch (driver : String) (lookup : ClaimLookup ε) (state : State) (body : List UInt8) :
    SameWatch (state.review driver lookup body).2 state := by
  cases hpod : Admission.podOf body with
  | error rejection =>
    rw [State.review_of_podOf_error driver lookup state hpod]
    exact .refl state
  | ok parts =>
    obtain ⟨types, request, pod⟩ := parts
    obtain ⟨answered, -, hreview⟩ := State.review_of_podOf driver lookup state hpod
    rw [hreview]
    exact ⟨rfl, rfl, rfl⟩

/-- No demand touches what the watch owns. -/
theorem serve_sameWatch (state : State) (demand : Demand) : SameWatch (self.serve state demand).2 state := by
  cases demand with
  | http request =>
    cases haccepts : Http.accepts self.bodyLimit request with
    | true =>
      rw [serve, Http.respond_of_accepts self.driver self.lookup self.bodyLimit state haccepts]
      obtain ⟨hclasses, hgauge, hevents⟩ := review_sameWatch self.driver self.lookup state request.body
      exact ⟨hclasses, hgauge, hevents⟩
    | false =>
      rw [serve, Http.respond_of_not_accepts self.driver self.lookup self.bodyLimit state haccepts]
      exact .refl state
  | review body => exact review_sameWatch self.driver self.lookup state body
  | decision pod => exact ⟨rfl, rfl, rfl⟩

/-- Of the state a demand sees the class set only. -/
theorem serve_congr {state state' : State} (h : state.classes = state'.classes) (demand : Demand) :
    (self.serve state demand).1 = (self.serve state' demand).1 := by
  have hreview : ∀ body, (state.review self.driver self.lookup body).1
      = (state'.review self.driver self.lookup body).1 := by
    intro body
    rw [State.review_fst, State.review_fst, h]
  cases demand with
  | http request =>
    cases haccepts : Http.accepts self.bodyLimit request with
    | true => simp only [serve, Http.respond_of_accepts _ _ _ _ haccepts, State.handle, hreview]
    | false => simp only [serve, Http.respond_of_not_accepts _ _ _ _ haccepts]
  | review body => simp only [serve, hreview]
  | decision pod => simp only [serve, State.decide, h]

/-- What the watch does to its part does not depend on the rest of the state. -/
theorem next_sameWatch {state state' : State} (h : SameWatch state state') {input : Input}
    (hwatch : input.isWatch = true) : SameWatch (self.next state input) (self.next state' input) := by
  obtain ⟨hclasses, hgauge, hevents⟩ := h
  cases input with
  | demand demand => cases hwatch
  | event event =>
    simp only [next, State.apply, hclasses]
    exact ⟨rfl, rfl, by simp only [Metrics.setDriverClasses, Metrics.recordClassEvent, hevents]⟩
  | watchError => exact ⟨hclasses, hgauge, by simp only [next, State.recordError, Metrics.recordClassEvent, hevents]⟩

/-! ## 4. What a run preserves -/

theorem run_append (state : State) (first second : List Input) :
    self.run state (first ++ second) = self.run (self.run state first) second := List.foldl_append

theorem log_append (state : State) (first second : List Input) :
    self.log state (first ++ second) = self.log state first ++ self.log (self.run state first) second := by
  induction first generalizing state with
  | nil => rfl
  | cons input first ih => rw [List.cons_append, log, log, ih, List.append_assoc, run, run, List.foldl_cons]

/-- Inputs of the watch are given nothing. -/
theorem log_of_watch (state : State) {inputs : List Input} (h : ∀ input ∈ inputs, input.isWatch = true) :
    self.log state inputs = [] := by
  induction inputs generalizing state with
  | nil => rfl
  | cons input inputs ih =>
    obtain ⟨hinput, hinputs⟩ := List.forall_mem_cons.mp h
    rw [log, ih _ hinputs, List.append_nil]
    cases input with
    | demand demand => cases hinput
    | _ => rfl

/-- Demands can be left out of a run without a trace in what the watch owns. -/
theorem run_sameWatch {state state' : State} (h : SameWatch state state') (inputs : List Input) :
    SameWatch (self.run state inputs) (self.run state' (inputs.filter Input.isWatch)) := by
  induction inputs generalizing state state' with
  | nil => exact h
  | cons input inputs ih =>
    rw [List.filter_cons, run, List.foldl_cons]
    cases hwatch : input.isWatch with
    | true => exact ih (next_sameWatch h hwatch)
    | false =>
      cases input with
      | demand demand => exact ih ((serve_sameWatch state demand).trans h)
      | event event => cases hwatch
      | watchError => cases hwatch

/-- **Demands leave no trace.** Take any run, from any state, of requests over HTTP, reviews and decisions with events
and errors of the watch in between.

* At every point the class set, the gauge and the counters of events are what they would be if all demands before it
  were left out.
* Every demand is given, reply and lookups alike, what it would be given as the only demand, after the events and
  errors before it. -/
theorem demands_are_stateless (self : Service ε) (start : State) (inputs : List Input) :
    (∀ seen, seen <+: inputs → SameWatch (self.run start seen) (self.run start (seen.filter Input.isWatch)))
    ∧ ∀ seen demand later, inputs = seen ++ .demand demand :: later →
      ∃ served, self.log start (seen.filter Input.isWatch ++ [.demand demand]) = [(demand, served)]
        ∧ self.log start inputs = self.log start seen
          ++ (demand, served) :: self.log (self.run start (seen ++ [.demand demand])) later := by
  refine ⟨fun seen _ => run_sameWatch (.refl start) seen, ?_⟩
  rintro seen demand later rfl
  have hsame : SameWatch (self.run start seen) (self.run start (seen.filter Input.isWatch)) :=
    run_sameWatch (.refl start) seen
  refine ⟨(self.serve (self.run start seen) demand).1, ?_, ?_⟩
  · rw [log_append, log_of_watch start (fun input hinput => (List.mem_filter.mp hinput).2), List.nil_append]
    simp only [log, served?, Option.toList_some, List.append_nil, serve_congr hsame.classes demand]
  · rw [log_append, run_append]
    rfl

end Service

end ReadyPin

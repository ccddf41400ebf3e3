import ReadyPin.Proofs.Admission.PatchedReview
import ReadyPin.Proofs.Metrics.Counting
import ReadyPin.Proofs.Service.Runs

/-!
# Accounting for admissions

Every request that is reviewed is counted under one outcome. The count is made from what the review has found, and the
response too. So the outcome can be told from the outside, by the request and the bytes of its response alone
(`Http.outcome?`); `admissions_respond` says so for one request and `admissions_run` for a run. All that the counters
say of a run then comes from the responses in it (`admissions_are_accounted`).
-/

namespace ReadyPin

/-- A review by itself is not counted as an admission. -/
theorem State.admissions_review {ε : Type} (driver : String) (lookup : ClaimLookup ε) (state : State)
    (body : List UInt8) : (state.review driver lookup body).2.metrics.admissions = state.metrics.admissions := by
  cases hpod : Admission.podOf body with
  | error rejection => rw [review_of_podOf_error driver lookup state hpod]
  | ok parts =>
    obtain ⟨types, request, pod⟩ := parts
    obtain ⟨answered, -, hreview⟩ := review_of_podOf driver lookup state hpod
    rw [hreview]
    rfl

/-! ## 1. Outcomes as they show -/

namespace Http

/-- The body of a response is the text of a review whose response has a patch. -/
def Response.carriesPatch (self : Response) : Bool :=
  ((Admission.response? self.body).bind (·.member? "patch")).isSome

/-- A request and its response. -/
abbrev Answer := Request × Response

/-- The answer gives what was asked for on the path for admissions. -/
def Answer.admits (self : Answer) : Bool := pathOf self.1.target = mutatePath ∧ self.2.status = 200

/-- The answer blames the request. -/
def Answer.rejects (self : Answer) : Bool := self.2.status = 400

theorem Answer.admits_of_rejects {answer : Answer} (h : answer.rejects = true) : answer.admits = false := by
  simp only [rejects, admits, decide_eq_true_eq, decide_eq_false_iff_not] at h ⊢
  omega

/-- The outcome that an answer shows, if it is one to an admission request. -/
def outcome? (self : Answer) : Option String :=
  if self.rejects then some "rejected"
  else if self.admits then some (if self.2.carriesPatch then "patched" else "skipped")
  else none

theorem outcome?_eq_rejected {answer : Answer} : outcome? answer = some "rejected" ↔ answer.rejects = true := by
  unfold outcome?
  cases answer.rejects <;> cases answer.admits <;> cases answer.2.carriesPatch <;> decide

theorem outcome?_eq_patched {answer : Answer} :
    outcome? answer = some "patched" ↔ answer.admits = true ∧ answer.2.carriesPatch = true := by
  unfold outcome?
  cases hrejects : answer.rejects with
  | true => simp [Answer.admits_of_rejects hrejects]
  | false => cases answer.admits <;> cases answer.2.carriesPatch <;> decide

theorem outcome?_eq_skipped {answer : Answer} :
    outcome? answer = some "skipped" ↔ answer.admits = true ∧ answer.2.carriesPatch = false := by
  unfold outcome?
  cases hrejects : answer.rejects with
  | true => simp [Answer.admits_of_rejects hrejects]
  | false => cases answer.admits <;> cases answer.2.carriesPatch <;> decide

/-- There are three outcomes. -/
theorem mem_of_outcome? {answer : Answer} {outcome : String} (h : outcome? answer = some outcome) :
    outcome ∈ ["patched", "skipped", "rejected"] := by
  unfold outcome? at h
  split at h
  · cases h
    decide
  split at h
  · split at h <;> cases h <;> decide
  · cases h

/-! ## 2. One request -/

variable {ε : Type} {driver : String} {lookup : ClaimLookup ε} {classes : ClassSet} {bodyLimit : Nat}

/-- The patch shows in the response exactly if the decision gives it. -/
theorem carriesPatch_reviewed {body : List UInt8} {answered : Admission.Answered}
    (h : Admission.review driver classes lookup body = .ok answered) :
    (reviewed (.ok answered)).carriesPatch = answered.verdict.decision.patches := by
  obtain ⟨types, request, pod, -, -, hbody⟩ := Admission.review_eq_ok.mp h
  have htext : (reviewed (.ok answered)).body = answered.body := rfl
  rw [Response.carriesPatch, htext, hbody, Admission.response?_answer]
  cases answered.verdict.decision.patches <;> rfl

/-- A reviewed request shows the outcome that it is counted under. -/
theorem outcome?_reviewed {request : Request} (hpath : pathOf request.target = mutatePath) (body : List UInt8) :
    outcome? (request, reviewed (Admission.review driver classes lookup body))
      = some (State.outcome (Admission.review driver classes lookup body)) := by
  cases hreview : Admission.review driver classes lookup body with
  | ok answered =>
    have hadmits : Answer.admits (request, reviewed (.ok answered)) = true := decide_eq_true ⟨hpath, rfl⟩
    have hrejects : Answer.rejects (request, reviewed (.ok answered)) = false := rfl
    simp [outcome?, hadmits, hrejects, carriesPatch_reviewed hreview, State.outcome]
  | error rejection =>
    have hpod : Admission.podOf body = .error rejection :=
      State.podOf_of_review_error driver lookup { classes } ((State.review_fst ..).trans hreview)
    have hstatus : rejection.error.status = 400 := by
      rcases Admission.error_of_podOf hpod with ⟨detail, h⟩ | h | ⟨detail, h⟩ <;> rw [h] <;> rfl
    exact outcome?_eq_rejected.mpr (decide_eq_true hstatus)

/-- A request that is not reviewed shows no outcome: only the liveness probe is answered with success. -/
theorem outcome?_unreviewed (request : Request) : outcome? (request, unreviewed request) = none := by
  have hpaths : healthPath ≠ mutatePath := by decide
  have hhealth : ∀ withBody, route request = .health withBody → pathOf request.target ≠ mutatePath := by
    intro withBody hroute hpath
    unfold route at hroute
    rw [if_pos hpath] at hroute
    split at hroute <;> cases hroute
  unfold unreviewed
  cases hroute : route request with
  | health withBody =>
    cases withBody <;> simp [outcome?, Answer.rejects, Answer.admits, hhealth _ hroute, alive, Response.ofText,
      Response.ofBody, Response.withoutBody]
  | _ => simp [outcome?, Answer.rejects, Answer.admits, Response.empty, tooLarge, Response.ofText, Response.ofBody]

/-- A request is counted under the outcome that its response shows, and under none if it shows none. -/
theorem admissions_respond (state : State) (request : Request) :
    let (exchange, state') := respond driver lookup bodyLimit state request
    state'.metrics.admissions
        = (outcome? (request, exchange.response)).toList.foldl Counters.increment state.metrics.admissions
      ∧ (outcome? (request, exchange.response)).isSome = accepts bodyLimit request := by
  cases haccepts : accepts bodyLimit request with
  | true =>
    obtain ⟨hroute, -⟩ := decide_eq_true_iff.mp haccepts
    have hpath := (route_eq_mutate.mp hroute).1
    rw [respond_of_accepts driver lookup bodyLimit state haccepts]
    simp only [State.handle, Metrics.recordAdmission, State.review_fst, outcome?_reviewed hpath,
      State.admissions_review, Option.toList_some, List.foldl_cons, List.foldl_nil, Option.isSome_some, true_and]
  | false =>
    rw [respond_of_not_accepts driver lookup bodyLimit state haccepts]
    simp only [outcome?_unreviewed, Option.toList_none, List.foldl_nil, Option.isSome_none, true_and]

end Http

/-! ## 3. Runs -/

/-- The request over HTTP that an input is, if it is one. -/
def Input.request? : Input → Option Http.Request
  | .demand (.http request) => some request
  | _ => none

namespace Service

/-- The request over HTTP with its response, if there was one. -/
def answer? : Demand × Served → Option Http.Answer
  | (.http request, ⟨.http response, _⟩) => some (request, response)
  | _ => none

variable {ε : Type} (self : Service ε)

/-- The requests over HTTP in a run, each with its response. -/
def answers (state : State) (inputs : List Input) : List Http.Answer := (self.log state inputs).filterMap answer?

theorem answers_cons (state : State) (input : Input) (inputs : List Input) : self.answers state (input :: inputs)
    = ((self.served? state input).bind answer?).toList ++ self.answers (self.next state input) inputs := by
  rw [answers, log, List.filterMap_append]
  cases self.served? state input with
  | none => rfl
  | some served => cases h : answer? served <;> simp [h, answers]

/-- Every request is answered. -/
theorem map_answers (state : State) (inputs : List Input) :
    (self.answers state inputs).map Prod.fst = inputs.filterMap Input.request? := by
  induction inputs generalizing state with
  | nil => rfl
  | cons input inputs ih =>
    rw [answers_cons, List.map_append, ih]
    cases input with
    | demand demand => cases demand <;> rfl
    | _ => rfl

/-- What an input is counted under is the outcome that shows, if there is an answer that shows one. -/
theorem admissions_next (state : State) (input : Input) :
    let outcome := ((self.served? state input).bind answer?).bind Http.outcome?
    (self.next state input).metrics.admissions = outcome.toList.foldl Counters.increment state.metrics.admissions
      ∧ outcome.isSome = input.request?.any (Http.accepts self.bodyLimit) := by
  cases input with
  | demand demand =>
    cases demand with
    | http request => exact Http.admissions_respond state request
    | review body => exact ⟨State.admissions_review self.driver self.lookup state body, rfl⟩
    | decision pod => exact ⟨rfl, rfl⟩
  | _ => exact ⟨rfl, rfl⟩

/-- The counters of admissions after a run are those of the outcomes that its answers show, and these are as many as the
requests that are reviewed. -/
theorem admissions_run (state : State) (inputs : List Input) :
    let outcomes := (self.answers state inputs).filterMap Http.outcome?
    (self.run state inputs).metrics.admissions = outcomes.foldl Counters.increment state.metrics.admissions
      ∧ outcomes.length = (inputs.filterMap Input.request?).countP (Http.accepts self.bodyLimit) := by
  induction inputs generalizing state with
  | nil => exact ⟨rfl, rfl⟩
  | cons input inputs ih =>
    obtain ⟨hcounters, hlength⟩ := ih (self.next state input)
    obtain ⟨hnext, hshown⟩ := admissions_next self state input
    have hfirst : (((self.served? state input).bind answer?).toList).filterMap Http.outcome?
        = (((self.served? state input).bind answer?).bind Http.outcome?).toList := by
      cases (self.served? state input).bind answer? with
      | none => rfl
      | some answer => cases h : Http.outcome? answer <;> simp [h]
    dsimp only
    rw [answers_cons, List.filterMap_append, hfirst, List.foldl_append, ← hnext, List.length_append, hlength]
    refine ⟨hcounters, ?_⟩
    rw [List.filterMap_cons]
    cases hrequest : input.request? with
    | none =>
      rw [hrequest] at hshown
      rw [Option.length_toList, hshown]
      exact Nat.zero_add _
    | some request =>
      rw [hrequest, Option.any_some] at hshown
      rw [Option.length_toList, hshown, List.countP_cons, Nat.add_comm]

/-! ## 4. The account -/

/-- A list of outcomes is as long as the three outcomes are often in it. -/
theorem count_outcomes {outcomes : List String}
    (h : ∀ outcome ∈ outcomes, outcome ∈ ["patched", "skipped", "rejected"]) :
    outcomes.count "patched" + outcomes.count "skipped" + outcomes.count "rejected" = outcomes.length := by
  induction outcomes with
  | nil => rfl
  | cons outcome outcomes ih =>
    obtain ⟨houtcome, houtcomes⟩ := List.forall_mem_cons.mp h
    have hrest := ih houtcomes
    simp only [List.mem_cons, List.not_mem_nil, or_false] at houtcome
    rw [List.length_cons, ← hrest]
    rcases houtcome with rfl | rfl | rfl <;> simp +decide only [List.count_cons, if_true, if_false] <;> omega

/-- **Accounting for admissions.** Take any run with fewer than `2 ^ 64` requests over HTTP, whatever they are, with
events and errors of the watch, direct reviews and direct decisions in between, from fresh metrics on. Every request has
an answer. The counter of

* `patched` is the number of answers of status 200 on the path for admissions whose body has a patch in its response;
* `skipped` is the number of the others of status 200 on that path;
* `rejected` is the number of answers of status 400, on whatever path.

Together they are the number of requests posted to that path with a body that is not too large, and no other counter of
admissions exists. -/
theorem admissions_are_accounted (self : Service ε) (classes : ClassSet) (inputs : List Input)
    (hfew : (inputs.filterMap Input.request?).length < UInt64.size) :
    let answers := self.answers { classes } inputs
    let admissions := (self.run { classes } inputs).metrics.admissions
    answers.map Prod.fst = inputs.filterMap Input.request?
    ∧ (admissions.count "patched").toNat = answers.countP (fun a => a.admits && a.2.carriesPatch)
    ∧ (admissions.count "skipped").toNat = answers.countP (fun a => a.admits && !a.2.carriesPatch)
    ∧ (admissions.count "rejected").toNat = answers.countP (·.rejects)
    ∧ (admissions.count "patched").toNat + (admissions.count "skipped").toNat + (admissions.count "rejected").toNat
      = (inputs.filterMap Input.request?).countP (fun request => Http.pathOf request.target = Http.mutatePath
          ∧ request.method = "POST" ∧ request.body.length ≤ self.bodyLimit)
    ∧ ∀ label, admissions.contains label = true → label ∈ ["patched", "skipped", "rejected"] := by
  intro answers admissions
  obtain ⟨hcounters, hlength⟩ := self.admissions_run { classes } inputs
  have hcounters : admissions = (answers.filterMap Http.outcome?).foldl Counters.increment {} := hcounters
  have hbound : (answers.filterMap Http.outcome?).length < UInt64.size := by
    refine Nat.lt_of_le_of_lt (Nat.le_trans (List.length_filterMap_le _ _) (Nat.le_of_eq ?_)) hfew
    rw [← self.map_answers { classes } inputs, List.length_map]
  have hcount : ∀ outcome, (admissions.count outcome).toNat = (answers.filterMap Http.outcome?).count outcome := by
    intro outcome
    rw [hcounters, Counters.toNat_count_foldl_increment hbound]
  have hthree : ∀ outcome ∈ answers.filterMap Http.outcome?, outcome ∈ ["patched", "skipped", "rejected"] := by
    intro outcome houtcome
    obtain ⟨answer, -, h⟩ := List.mem_filterMap.mp houtcome
    exact Http.mem_of_outcome? h
  refine ⟨self.map_answers { classes } inputs, ?_, ?_, ?_, ?_, fun label hlabel => ?_⟩
  · rw [hcount, List.count_filterMap]
    refine List.countP_congr fun answer _ => ?_
    rw [beq_iff_eq, Http.outcome?_eq_patched, Bool.and_eq_true]
  · rw [hcount, List.count_filterMap]
    refine List.countP_congr fun answer _ => ?_
    rw [beq_iff_eq, Http.outcome?_eq_skipped, Bool.and_eq_true, Bool.not_eq_true']
  · rw [hcount, List.count_filterMap]
    refine List.countP_congr fun answer _ => ?_
    rw [beq_iff_eq, Http.outcome?_eq_rejected]
  · rw [hcount, hcount, hcount, count_outcomes hthree, hlength]
    refine List.countP_congr fun request _ => ?_
    simp only [Http.accepts, Http.route_eq_mutate, decide_eq_true_eq, and_assoc]
  · rw [hcounters, Counters.contains_foldl_increment, OrderedMap.contains_empty, Bool.or_false,
      List.contains_iff_mem] at hlabel
    exact hthree label hlabel

/-- A service for a driver, which takes bodies of up to a thousand bytes. -/
def small : Service Unit where
  driver := "gcs.csi.ofek.dev"
  lookup := Admission.noClaims
  bodyLimit := 1000

/-- A run with an answer of every kind: a pod that is given the patch, one that selects ready nodes already, a body
that breaks off, one that is too large, a wrong method, a probe and an unknown path, and a class between them. -/
def everyAnswer : List Input :=
  let post (body : List UInt8) : Input := .demand (.http { method := "POST", target := Http.mutatePath, body })
  let get (target : String) : Input := .demand (.http { method := "GET", target })
  let ready : Json := .object [("gcs.csi.ofek.dev/driver-ready", .string "true")]
  [ post (Admission.creation []), .event (.applied { provisioner := "gcs.csi.ofek.dev" }), .watchError,
    post (Admission.creation [("nodeSelector", ready)]), post [0x7b], post (List.replicate 1001 0x20),
    get Http.mutatePath, get Http.healthPath, get "/" ]

theorem every_answer_is_accounted : (everyAnswer.filterMap Input.request?).length < UInt64.size
    ∧ let admissions := (small.run { classes := {} } everyAnswer).metrics.admissions
      (admissions.count "patched").toNat = 1 ∧ (admissions.count "skipped").toNat = 1
        ∧ (admissions.count "rejected").toNat = 1 ∧ admissions.contains "other" = false := by
  have hfew : (everyAnswer.filterMap Input.request?).length < UInt64.size := by decide
  obtain ⟨-, hpatched, hskipped, hrejected, -, hlabels⟩ := admissions_are_accounted small {} everyAnswer hfew
  have hanswers : (small.answers { classes := {} } everyAnswer).map (fun a => (a.admits, a.rejects, a.2.carriesPatch))
      = [(true, false, true), (true, false, false), (false, true, false), (false, false, false), (false, false, false),
          (false, false, false), (false, false, false)] := by
    decide +kernel
  have hcount : ∀ p : Bool × Bool × Bool → Bool, (small.answers { classes := {} } everyAnswer).countP
      (fun a => p (a.admits, a.rejects, a.2.carriesPatch)) = _ := fun p => List.countP_map.symm.trans (by rw [hanswers])
  refine ⟨hfew, hpatched.trans (hcount fun t => t.1 && t.2.2), hskipped.trans (hcount fun t => t.1 && !t.2.2),
    hrejected.trans (hcount fun t => t.2.1), ?_⟩
  rw [Bool.eq_false_iff]
  intro hother
  exact absurd (hlabels "other" hother) (by decide)

end Service

end ReadyPin

import ReadyPin.Proofs.Metrics.Counting
import ReadyPin.Proofs.Service.Runs

/-!
# What reaches the review

Of all requests only those are reviewed that are posted to the path for admissions with a body that is not too large.
All others are answered by themselves: with a status that tells what is wrong with them, or for the liveness probe.
`Http.route_cases` has the five ways that a request can go, and every status goes back to one of them.

That nothing else happens for the others is said of the state, and of what is asked of the cluster: requests are
answered here with lookups that are actions, and with one that notes what it is asked for (`Http.respondBy_noting`).
They come with their headers, so that it can be seen that nothing looks at these.
-/

namespace ReadyPin

variable {ε : Type}

/-! ## 1. Requests with what is asked for them -/

/-- The state after a review has been made and counted. -/
def State.afterReview (self : State) (result : Except Rejection Admission.Answered) : State :=
  let self := match result with
    | .ok answered => self.recordVerdict answered.verdict
    | .error _ => self
  { self with metrics := self.metrics.recordAdmission (outcome result) }

theorem State.handle_eq (driver : String) (lookup : ClaimLookup ε) (state : State) (body : List UInt8) :
    state.handle driver lookup body = (Admission.review driver state.classes lookup body,
      state.afterReview (Admission.review driver state.classes lookup body)) := by
  unfold handle
  cases hpod : Admission.podOf body with
  | error rejection =>
    rw [review_of_podOf_error driver lookup state hpod, Admission.review_of_podOf_error hpod]
    rfl
  | ok parts =>
    obtain ⟨types, request, pod⟩ := parts
    obtain ⟨answered, hok, hreview⟩ := review_of_podOf driver lookup state hpod
    rw [hreview, hok]
    rfl

theorem State.admissions_afterReview (self : State) (result : Except Rejection Admission.Answered) :
    (self.afterReview result).metrics.admissions = self.metrics.admissions.increment (outcome result) := by
  cases result <;> rfl

/-- A review leaves to the watch what is the watch's. -/
theorem State.sameWatch_afterReview (self : State) (result : Except Rejection Admission.Answered) :
    Service.SameWatch (self.afterReview result) self := by
  cases result <;> exact ⟨rfl, rfl, rfl⟩

namespace Http

/-- A request as it arrives. -/
structure Arrival extends Request where
  headers : List (String × String) := []

/-- Answers a request, with claims that are looked up by an action. -/
def respondBy {m : Type → Type} [Monad m] (driver : String) (lookup : ClaimAction m ε) (bodyLimit : Nat) (state : State)
    (arrival : Arrival) : m (Exchange × State) :=
  match route arrival.toRequest with
  | .unknown => pure ({ response := .empty 404 [] }, state)
  | .wrongMethod allowed => pure ({ response := .empty 405 [("allow", allowed)] }, state)
  | .health true => pure ({ response := alive }, state)
  | .health false => pure ({ response := alive.withoutBody }, state)
  | .mutate =>
    if arrival.body.length ≤ bodyLimit then do
      let result ← Admission.reviewBy driver state.classes lookup arrival.body
      pure ({ response := reviewed result, review := some result }, state.afterReview result)
    else pure ({ response := tooLarge }, state)

section Noting

variable (driver : String) (lookup : ClaimLookup ε) (bodyLimit : Nat) (state : State) {arrival : Arrival}
variable (log : List (String × String))

/-- A request that is not reviewed asks for nothing, whatever can be asked. -/
theorem respondBy_of_not_accepts {m : Type → Type} [Monad m] (resolve : ClaimAction m ε)
    (h : accepts bodyLimit arrival.toRequest = false) : respondBy driver resolve bodyLimit state arrival
      = pure ({ response := unreviewed arrival.toRequest }, state) := by
  have hnot := decide_eq_false_iff_not.mp h
  unfold respondBy unreviewed
  cases hroute : route arrival.toRequest with
  | health withBody => cases withBody <;> rfl
  | mutate => exact if_neg fun hsize => hnot ⟨hroute, hsize⟩
  | _ => rfl

/-- One that is reviewed asks for what its review does. -/
theorem respondBy_of_accepts (h : accepts bodyLimit arrival.toRequest = true) :
    let result := Admission.review driver state.classes lookup arrival.body
    respondBy driver lookup.noting bodyLimit state arrival log
      = (({ response := reviewed result, review := some result }, state.afterReview result),
          log ++ Admission.lookupsOf result) := by
  intro result
  obtain ⟨hroute, hsize⟩ := decide_eq_true_iff.mp h
  simp only [respondBy, hroute, if_pos hsize]
  refine (bind_pure_asked _ (fun result => (({ response := reviewed result, review := some result } : Exchange),
    state.afterReview result)) log).trans ?_
  rw [Admission.reviewBy_noting]

/-- Both are answered as they are with a function that looks claims up. -/
theorem respondBy_noting (arrival : Arrival) : (respondBy driver lookup.noting bodyLimit state arrival log).1
    = respond driver lookup bodyLimit state arrival.toRequest := by
  cases haccepts : accepts bodyLimit arrival.toRequest with
  | true =>
    rw [respondBy_of_accepts driver lookup bodyLimit state log haccepts,
      respond_of_accepts driver lookup bodyLimit state haccepts, State.handle_eq]
  | false =>
    rw [respondBy_of_not_accepts driver bodyLimit state _ haccepts,
      respond_of_not_accepts driver lookup bodyLimit state haccepts]
    rfl

end Noting

/-! ## 2. Paths -/

/-- A text is a path: it begins with a slash, and neither a query nor a fragment begins in it. -/
structure IsPath (text : String) : Prop where
  slash : text.toList.head? = some '/'
  plain : ∀ c ∈ text.toList, c ≠ '?' ∧ c ≠ '#'

theorem IsPath.pathOf_append {path : String} (h : IsPath path) {rest : String}
    (hrest : ∀ c ∈ rest.toList.head?, c = '?' ∨ c = '#') : pathOf (path ++ rest) = path := by
  have hplain : ∀ c ∈ path.toList, (c != '?' && c != '#') = true := by
    intro c hc
    simpa using h.plain c hc
  have hstop : rest.toList.takeWhile (fun c => c != '?' && c != '#') = [] := by
    cases hcs : rest.toList with
    | nil => rfl
    | cons c cs =>
      rcases hrest c (by rw [hcs]; rfl) with rfl | rfl <;> rfl
  have hhead : (path ++ rest).toList.head? = some '/' := by
    rw [String.toList_append, List.head?_append, h.slash, Option.some_or]
  rw [pathOf, if_pos hhead, beforeQuery, String.toList_append, List.takeWhile_append_of_pos hplain, hstop,
    List.append_nil, String.ofList_toList]

/-- A path is the path of the targets that begin with it and then have nothing else, a query or a fragment. -/
theorem IsPath.pathOf_eq_iff {path target : String} (h : IsPath path) (htarget : target.toList.head? = some '/') :
    pathOf target = path ↔ ∃ rest : String, target = path ++ rest ∧ ∀ c ∈ rest.toList.head?, c = '?' ∨ c = '#' := by
  constructor
  · rintro rfl
    rw [pathOf, if_pos htarget]
    refine ⟨String.ofList (target.toList.dropWhile fun c => c != '?' && c != '#'), ?_, fun c hc => ?_⟩
    · rw [← String.toList_inj, String.toList_append, String.toList_ofList, String.toList_ofList, beforeQuery,
        List.takeWhile_append_dropWhile]
    · rw [String.toList_ofList] at hc
      have hlast := List.head?_dropWhile_not (fun c => c != '?' && c != '#') target.toList
      rw [hc] at hlast
      rw [Decidable.or_iff_not_imp_left]
      simpa using hlast
  · rintro ⟨rest, rfl, hrest⟩
    exact h.pathOf_append hrest

theorem isPath_mutatePath : IsPath mutatePath := ⟨rfl, by simp [mutatePath]⟩

theorem isPath_healthPath : IsPath healthPath := ⟨rfl, by simp [healthPath]⟩

/-! ## 3. The ways of a request -/

/-- The ways that a request can go: to the review or to the probe, and past each of them for its method, or nowhere. -/
theorem route_cases (request : Request) :
    (route request = .mutate ∧ pathOf request.target = mutatePath ∧ request.method = "POST")
    ∨ (route request = .wrongMethod "POST" ∧ pathOf request.target = mutatePath ∧ request.method ≠ "POST")
    ∨ (route request = .health (request.method == "GET") ∧ pathOf request.target = healthPath
      ∧ (request.method = "GET" ∨ request.method = "HEAD"))
    ∨ (route request = .wrongMethod "GET,HEAD" ∧ pathOf request.target = healthPath
      ∧ request.method ≠ "GET" ∧ request.method ≠ "HEAD")
    ∨ (route request = .unknown ∧ pathOf request.target ≠ mutatePath ∧ pathOf request.target ≠ healthPath) := by
  have hpaths : mutatePath ≠ healthPath := by decide
  unfold route
  by_cases hmutate : pathOf request.target = mutatePath
  · by_cases hpost : request.method = "POST"
    · simp [hmutate, hpost]
    · simp [hmutate, hpaths, hpost]
  · by_cases hhealth : pathOf request.target = healthPath
    · by_cases hget : request.method = "GET"
      · simp [hhealth, hpaths.symm, hget]
      · by_cases hhead : request.method = "HEAD"
        · simp [hhealth, hpaths.symm, hhead]
        · simp [hhealth, hpaths.symm, hget, hhead]
    · simp [hmutate, hhealth]

/-! ## 4. Statuses -/

section Statuses

variable (driver : String) (lookup : ClaimLookup ε) (bodyLimit : Nat) (state : State)

theorem accepts_iff {request : Request} : accepts bodyLimit request = true
    ↔ request.method = "POST" ∧ pathOf request.target = mutatePath ∧ request.body.length ≤ bodyLimit := by
  rw [accepts, decide_eq_true_eq, route_eq_mutate]
  constructor
  · rintro ⟨⟨hpath, hpost⟩, hsize⟩
    exact ⟨hpost, hpath, hsize⟩
  · rintro ⟨hpost, hpath, hsize⟩
    exact ⟨⟨hpath, hpost⟩, hsize⟩

/-- A review succeeds, or else it blames the request. -/
theorem status_reviewed (classes : ClassSet) (body : List UInt8) :
    (reviewed (Admission.review driver classes lookup body)).status
      = if (Admission.review driver classes lookup body).isOk then 200 else 400 := by
  cases hreview : Admission.review driver classes lookup body with
  | ok answered => rfl
  | error rejection =>
    have hpod : Admission.podOf body = .error rejection :=
      State.podOf_of_review_error driver lookup { classes } ((State.review_fst ..).trans hreview)
    rcases Admission.error_of_podOf hpod with ⟨detail, h⟩ | h | ⟨detail, h⟩ <;> rw [reviewed, h] <;> rfl

/-- The liveness probe is answered in one way. -/
theorem unreviewed_of_health {request : Request} (hpath : pathOf request.target = healthPath)
    (hmethod : request.method = "GET" ∨ request.method = "HEAD") :
    unreviewed request = if request.method = "GET" then alive else alive.withoutBody := by
  have hpaths : healthPath ≠ mutatePath := by decide
  rcases hmethod with hget | hhead
  · simp [unreviewed, route, hpath, hpaths, hget]
  · simp [unreviewed, route, hpath, hpaths, hhead]

/-- Which status says what of a request that is not reviewed. -/
theorem status_unreviewed {request : Request} (h : accepts bodyLimit request = false) :
    let status := (unreviewed request).status
    (status = 404 ↔ pathOf request.target ≠ mutatePath ∧ pathOf request.target ≠ healthPath)
    ∧ (status = 405 ↔ (pathOf request.target = mutatePath ∧ request.method ≠ "POST")
      ∨ (pathOf request.target = healthPath ∧ request.method ≠ "GET" ∧ request.method ≠ "HEAD"))
    ∧ (status = 413 ↔ pathOf request.target = mutatePath ∧ request.method = "POST"
      ∧ bodyLimit < request.body.length)
    ∧ (status = 200 ↔ pathOf request.target = healthPath ∧ (request.method = "GET" ∨ request.method = "HEAD")) := by
  have hpaths : healthPath ≠ mutatePath := by decide
  rcases route_cases request with ⟨hroute, hpath, hpost⟩ | ⟨hroute, hpath, hpost⟩ | ⟨hroute, hpath, hmethod⟩
    | ⟨hroute, hpath, hget, hhead⟩ | ⟨hroute, hmutate, hhealth⟩
  · have hsize : bodyLimit < request.body.length := by
      rw [Bool.eq_false_iff, ne_eq, accepts_iff] at h
      exact Nat.lt_of_not_le fun hsize => h ⟨hpost, hpath, hsize⟩
    simp [unreviewed, hroute, hpath, hpost, hpaths.symm, hsize, tooLarge, Response.ofText, Response.ofBody]
  · simp [unreviewed, hroute, hpath, hpost, hpaths.symm, Response.empty]
  · have halive : (unreviewed request).status = 200 := by
      rw [unreviewed_of_health hpath hmethod]
      split <;> rfl
    have hallowed : ¬(request.method ≠ "GET" ∧ request.method ≠ "HEAD") := fun ⟨hget, hhead⟩ =>
      hmethod.elim hget hhead
    simp [halive, hpath, hpaths, hmethod, hallowed]
  · simp [unreviewed, hroute, hpath, hget, hhead, hpaths, Response.empty]
  · simp [unreviewed, hroute, hmutate, hhealth, Response.empty]

end Statuses

end Http

/-! ## 5. What is counted -/

namespace Counters

/-- From the counters before to those after, the one under a label has moved by one, and no other. -/
def MovesAt (before after : Counters) (label : String) : Prop :=
  ∀ k, after.count k = if k = label then before.count k + 1 else before.count k

theorem movesAt_increment (self : Counters) (label : String) : MovesAt self (self.increment label) label := by
  intro k
  rw [count_increment]
  by_cases hk : k = label
  · rw [if_pos hk, if_pos hk, hk]
  · rw [if_neg hk, if_neg hk]

theorem not_movesAt_self (self : Counters) (label : String) : ¬ MovesAt self self label := by
  intro h
  have hstill := h label
  rw [if_pos rfl] at hstill
  grind

end Counters

/-! ## 6. What is reviewed -/

namespace Http

/-- **What is reviewed.** Take any state, any limit for bodies, any way to look up claims, and any request, with
whatever method, target, headers and body, that arrives when some lookups have been made already. If its target begins
with a slash, its path is what the target has before a query or a fragment.

* Its body is reviewed exactly if it is posted to the path for admissions and its body is not larger than the limit.
  Exactly then one counter of admissions moves, and it moves by one: that of the outcome. The answer is 200 for a review
  that succeeds and 400 for one that fails; of the state only that counter and the count of failed lookups change, and
  just what the review has looked up is looked up.
* In all other cases the state stays as it is and nothing is looked up. The answer then is 404 exactly for a path that
  is not known, 405 for a known path with a method that it does not take, and 413 for what is posted to the path for
  admissions with a larger body. What is left is the liveness probe, with an answer of its own, which is 200. -/
theorem only_posted_reviews_are_run (driver : String) (lookup : ClaimLookup ε) (bodyLimit : Nat) (state : State)
    (arrival : Arrival) (log : List (String × String)) :
    let ((exchange, state'), log') := respondBy driver lookup.noting bodyLimit state arrival log
    let path := pathOf arrival.target
    let status := exchange.response.status
    let accepted := arrival.method = "POST" ∧ path = mutatePath ∧ arrival.body.length ≤ bodyLimit
    let result := Admission.review driver state.classes lookup arrival.body
    (exchange, state') = respond driver lookup bodyLimit state arrival.toRequest
    ∧ IsPath mutatePath ∧ IsPath healthPath
    ∧ (arrival.target.toList.head? = some '/' → ∀ plain, IsPath plain →
      (path = plain ↔ ∃ rest : String, arrival.target = plain ++ rest ∧ ∀ c ∈ rest.toList.head?, c = '?' ∨ c = '#'))
    ∧ (exchange.review.isSome ↔ accepted)
    ∧ ((∃ label, Counters.MovesAt state.metrics.admissions state'.metrics.admissions label) ↔ accepted)
    ∧ (accepted → exchange.review = some result ∧ exchange.response = reviewed result
      ∧ status = (if result.isOk then 200 else 400)
      ∧ Counters.MovesAt state.metrics.admissions state'.metrics.admissions (State.outcome result)
      ∧ Service.SameWatch state' state ∧ log' = log ++ Admission.lookupsOf result)
    ∧ (¬accepted → state' = state ∧ log' = log
      ∧ (status = 404 ↔ path ≠ mutatePath ∧ path ≠ healthPath)
      ∧ (status = 405 ↔ (path = mutatePath ∧ arrival.method ≠ "POST")
        ∨ (path = healthPath ∧ arrival.method ≠ "GET" ∧ arrival.method ≠ "HEAD"))
      ∧ (status = 413 ↔ path = mutatePath ∧ arrival.method = "POST" ∧ bodyLimit < arrival.body.length)
      ∧ (status = 200 ↔ path = healthPath ∧ (arrival.method = "GET" ∨ arrival.method = "HEAD"))
      ∧ (status = 200 → exchange.response = if arrival.method = "GET" then alive else alive.withoutBody)) := by
  have hpath : arrival.target.toList.head? = some '/' → ∀ plain, IsPath plain → (pathOf arrival.target = plain
      ↔ ∃ rest : String, arrival.target = plain ++ rest ∧ ∀ c ∈ rest.toList.head?, c = '?' ∨ c = '#') :=
    fun htarget _ hplain => hplain.pathOf_eq_iff htarget
  have hsame := respondBy_noting driver lookup bodyLimit state log arrival
  have haccepts : accepts bodyLimit arrival.toRequest = true ↔ arrival.method = "POST"
      ∧ pathOf arrival.target = mutatePath ∧ arrival.body.length ≤ bodyLimit := accepts_iff bodyLimit
  cases hcase : accepts bodyLimit arrival.toRequest with
  | true =>
    have haccepted := haccepts.mp hcase
    have hmoves : Counters.MovesAt state.metrics.admissions
        (state.afterReview (Admission.review driver state.classes lookup arrival.body)).metrics.admissions
        (State.outcome (Admission.review driver state.classes lookup arrival.body)) := by
      rw [State.admissions_afterReview]
      exact Counters.movesAt_increment _ _
    rw [respondBy_of_accepts driver lookup bodyLimit state log hcase] at hsame ⊢
    exact ⟨hsame, isPath_mutatePath, isPath_healthPath, hpath, iff_of_true rfl haccepted,
      iff_of_true ⟨_, hmoves⟩ haccepted,
      fun _ => ⟨rfl, rfl, status_reviewed driver lookup state.classes arrival.body, hmoves,
        State.sameWatch_afterReview .., rfl⟩,
      fun hnot => absurd haccepted hnot⟩
  | false =>
    have hnot := mt haccepts.mpr (by rw [hcase]; decide)
    obtain ⟨hunknown, hmethod, hlarge, halive⟩ := status_unreviewed bodyLimit hcase
    rw [respondBy_of_not_accepts driver bodyLimit state _ hcase] at hsame ⊢
    refine ⟨hsame, isPath_mutatePath, isPath_healthPath, hpath, iff_of_false ?_ hnot, iff_of_false ?_ hnot,
      fun haccepted => absurd haccepted hnot,
      fun _ => ⟨rfl, rfl, hunknown, hmethod, hlarge, halive, fun hstatus => ?_⟩⟩
    · exact Bool.false_ne_true
    · rintro ⟨label, hmoves⟩
      exact Counters.not_movesAt_self _ label hmoves
    · obtain ⟨hprobe, hmethods⟩ := halive.mp hstatus
      exact unreviewed_of_health hprobe hmethods

end Http

end ReadyPin

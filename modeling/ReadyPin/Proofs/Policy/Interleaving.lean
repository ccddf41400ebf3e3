import Mathlib.Data.List.Induction
import ReadyPin.Service.State

/-!
# Decisions beside the watch

A decision is not made at once. Every lookup of a claim takes its time, and the watch may change the class set before
the lookup, between the lookup and the look for its class in the set, and after that. So a decision is taken apart here
into these two kinds of steps, `Running.step`, and a run is any sequence of such steps with events in between. Each step
is told how claims resolve at that moment.

`Running.step_cases` lists what a step can do, and everything about runs comes from it by induction on the moves.
`interleaving_is_sound` puts it together: every decision is right for what the set was at its checks. Without
events a run makes the decision that `State.decide` makes (`run_eq_decide`), so that both are about the same decisions.
-/

namespace ReadyPin

/-- The claims among the volumes of a pod, in order. -/
def Pod.claims (self : Pod) : List String := self.volumes.filterMap Volume.claim

namespace Policy

variable {ε : Type}

/-! ## 1. Steps of a decision -/

/-- How far a decision has come. -/
inductive Phase where
  /-- The next step looks up `claim`; `others` come after it. -/
  | lookUp (claim : String) (others : List String)
  /-- The next step looks for the class of a claim in the class set. -/
  | check (className : String) (others : List String)
  | done (decision : Decision)
  deriving Repr, DecidableEq

namespace Phase

/-- The phase in which the given claims are still to be looked up. -/
def before : List String → Phase
  | [] => .done .notUsingDriver
  | claim :: others => .lookUp claim others

/-- The phase in which the decision on a pod begins. What the pod tells by itself needs no step: nothing that others
could change is looked at. -/
def start (driver : String) (pod : Pod) : Phase :=
  if pod.prefers (Readiness.label driver) then .done .alreadyPreferred
  else if pod.volumes.any (·.inlineDriver == some driver) then .done .mutate
  else .before pod.claims

/-- How many steps are left at most. -/
def stepsLeft : Phase → Nat
  | .lookUp _ others => 2 * others.length + 2
  | .check _ others => 2 * others.length + 1
  | .done _ => 0

/-- The decision, once there is one. -/
def decision? : Phase → Option Decision
  | .done decision => some decision
  | _ => none

theorem stepsLeft_before (claims : List String) : (before claims).stepsLeft = 2 * claims.length := by
  cases claims <;> rfl

theorem before_eq_lookUp {claims others : List String} {claim : String} (h : before claims = .lookUp claim others) :
    claims = claim :: others := by
  cases claims with
  | nil => cases h
  | cons claim' others' =>
    cases h
    rfl

theorem before_ne_mutate {claims : List String} : before claims ≠ .done .mutate := by
  cases claims <;> nofun

theorem before_ne_check {claims others : List String} {className : String} :
    before claims ≠ .check className others := by
  cases claims <;> nofun

end Phase

/-- A decision in progress. -/
structure Running where
  /-- The state, which the decision shares with the watch. -/
  state : State
  phase : Phase
  /-- The claims that have been looked up, by namespace and name, in order. -/
  lookups : List (String × String) := []

/-- What happens next. -/
inductive Move (ε : Type) where
  /-- The watch takes in an event. -/
  | event (event : ClassEvent)
  /-- The decision takes a step, at a time when claims resolve so. -/
  | step (lookup : ClaimLookup ε)

/-- The event of a move, if it is one. -/
def Move.event? : Move ε → Option ClassEvent
  | .event e => some e
  | .step _ => none

/-- The class set that the events among some moves produce by themselves. -/
def classesAfter (driver : String) (state : State) (moves : List (Move ε)) : ClassSet :=
  ((moves.filterMap Move.event?).foldl (State.apply driver) state).classes

namespace Running

/-- The decision after the lookup of a claim of the namespace, which has failed or not. -/
def afterLookup (inNamespace claim : String) (others : List String) (self : Running) :
    Except ε (Option String) → Running
  | .ok named =>
    { self with
      phase := .check (ClassSet.effective named) others
      lookups := self.lookups ++ [(inNamespace, claim)] }
  | .error _ =>
    { state := { self.state with metrics := self.state.metrics.recordLookupFailures 1 }
      phase := .before others
      lookups := self.lookups ++ [(inNamespace, claim)] }

/-- The next step of a decision on a pod in a namespace. -/
def step (inNamespace : String) (lookup : ClaimLookup ε) (self : Running) : Running :=
  match self.phase with
  | .lookUp claim others => self.afterLookup inNamespace claim others (lookup inNamespace claim)
  | .check className others =>
    { self with phase := if self.state.classes.contains className then .done .mutate else .before others }
  | .done _ => self

/-- The decision and the state after a move. -/
def move (driver inNamespace : String) (self : Running) : Move ε → Running
  | .event event => { self with state := self.state.apply driver event }
  | .step lookup => self.step inNamespace lookup

/-- The decision and the state after some moves. -/
def run (driver inNamespace : String) (self : Running) (moves : List (Move ε)) : Running :=
  moves.foldl (move driver inNamespace) self

/-- The decision on a pod, before its first step. -/
def begin (driver : String) (state : State) (pod : Pod) : Running := { state, phase := .start driver pod }

/-! ## 2. What one step does -/

/-- All that a step can do. -/
theorem step_cases (inNamespace : String) (lookup : ClaimLookup ε) (self : Running) :
    (∃ claim others, self.phase = .lookUp claim others
      ∧ ((∃ named, lookup inNamespace claim = .ok named
          ∧ self.step inNamespace lookup = self.afterLookup inNamespace claim others (.ok named : Except ε _))
        ∨ ∃ fault, lookup inNamespace claim = .error fault
          ∧ self.step inNamespace lookup = self.afterLookup inNamespace claim others (.error fault)))
    ∨ (∃ className others, self.phase = .check className others
      ∧ (self.state.classes.contains className = true
          ∧ self.step inNamespace lookup = { self with phase := .done .mutate }
        ∨ self.state.classes.contains className = false
          ∧ self.step inNamespace lookup = { self with phase := .before others }))
    ∨ ∃ decision, self.phase = .done decision ∧ self.step inNamespace lookup = self := by
  unfold step
  cases self.phase with
  | lookUp claim others =>
    refine .inl ⟨claim, others, rfl, ?_⟩
    dsimp only
    cases lookup inNamespace claim with
    | ok named => exact .inl ⟨named, rfl, rfl⟩
    | error fault => exact .inr ⟨fault, rfl, rfl⟩
  | check className others =>
    refine .inr (.inl ⟨className, others, rfl, ?_⟩)
    cases hclass : self.state.classes.contains className with
    | true => exact .inl ⟨rfl, by simp only [hclass, if_true]⟩
    | false => exact .inr ⟨rfl, by simp only [hclass, Bool.false_eq_true, if_false]⟩
  | done decision => exact .inr (.inr ⟨decision, rfl, rfl⟩)

variable (driver inNamespace : String)

theorem step_of_done {self : Running} {decision : Decision} (h : self.phase = .done decision) (lookup : ClaimLookup ε) :
    self.step inNamespace lookup = self := by
  rw [step, h]

/-! ## 3. What moves preserve -/

theorem run_append (self : Running) (first second : List (Move ε)) :
    self.run driver inNamespace (first ++ second) = (self.run driver inNamespace first).run driver inNamespace second :=
  List.foldl_append

theorem run_concat (self : Running) (moves : List (Move ε)) (m : Move ε) :
    self.run driver inNamespace (moves ++ [m]) = (self.run driver inNamespace moves).move driver inNamespace m := by
  rw [run_append]
  rfl

theorem classes_step (self : Running) (lookup : ClaimLookup ε) :
    (self.step inNamespace lookup).state.classes = self.state.classes := by
  rcases step_cases inNamespace lookup self with
    ⟨claim, others, -, ⟨named, -, hstep⟩ | ⟨fault, -, hstep⟩⟩ | ⟨className, others, -, ⟨-, hstep⟩ | ⟨-, hstep⟩⟩
    | ⟨decision, -, hstep⟩
  all_goals simp only [hstep, afterLookup]

/-- Only events change the class set. -/
theorem classes_run (self : Running) (moves : List (Move ε)) :
    (self.run driver inNamespace moves).state.classes = classesAfter driver self.state moves := by
  unfold classesAfter
  induction moves using List.reverseRecOn with
  | nil => rfl
  | append_singleton moves m ih =>
    rw [run_concat, List.filterMap_append, List.foldl_append]
    cases m with
    | event event => exact congrArg (ClassSet.after driver · event) ih
    | step lookup => exact (classes_step inNamespace _ lookup).trans ih

/-- What holds before a run, and is preserved by events and by steps, holds after it. -/
theorem run_preserves {P : Running → Prop} (hevent : ∀ r e, P r → P { r with state := r.state.apply driver e })
    (hstep : ∀ r (lookup : ClaimLookup ε), P r → P (r.step inNamespace lookup)) {self : Running} (h : P self)
    (moves : List (Move ε)) : P (self.run driver inNamespace moves) := by
  induction moves using List.reverseRecOn with
  | nil => exact h
  | append_singleton moves m ih =>
    rw [run_concat]
    cases m with
    | event event => exact hevent _ event ih
    | step lookup => exact hstep _ lookup ih

/-- What is decided is not decided again. -/
theorem run_of_done {self : Running} {decision : Decision} (h : self.phase = .done decision) (moves : List (Move ε)) :
    (self.run driver inNamespace moves).phase = .done decision
      ∧ (self.run driver inNamespace moves).lookups = self.lookups := by
  refine run_preserves driver inNamespace (P := fun r => r.phase = .done decision ∧ r.lookups = self.lookups)
    (fun _ _ hr => hr) (fun r lookup hr => ?_) ⟨h, rfl⟩ moves
  rw [step_of_done inNamespace hr.1]
  exact hr

/-- How far the lookups of the given claims have come: those in `looked` are behind, and those in `left` ahead. -/
def Between (claims looked left : List String) (self : Running) : Prop :=
  claims = looked ++ left ∧ self.lookups = looked.map (inNamespace, ·)
    ∧ (self.phase = .before left ∨ ∃ className, self.phase = .check className left)

theorem Between.step {claims looked left : List String} {self : Running}
    (h : self.Between inNamespace claims looked left) (lookup : ClaimLookup ε) :
    (∃ looked left, (self.step inNamespace lookup).Between inNamespace claims looked left)
      ∨ (self.step inNamespace lookup).phase = .done .mutate := by
  obtain ⟨hclaims, hlookups, hphase⟩ := h
  rcases step_cases inNamespace lookup self with
    ⟨claim, others, hlook, hstep⟩ | ⟨className, others, hcheck, hstep⟩ | ⟨decision, -, hstep⟩
  · rw [hlook] at hphase
    obtain rfl : left = claim :: others := by
      rcases hphase with hphase | ⟨className, hphase⟩
      · exact Phase.before_eq_lookUp hphase.symm
      · cases hphase
    have hlooked : claims = (looked ++ [claim]) ++ others := by rw [hclaims, List.append_assoc, List.singleton_append]
    have hlookups' : self.lookups ++ [(inNamespace, claim)] = (looked ++ [claim]).map (inNamespace, ·) := by
      rw [hlookups, List.map_append, List.map_singleton]
    rcases hstep with ⟨named, -, hstep⟩ | ⟨fault, -, hstep⟩
    · exact .inl ⟨looked ++ [claim], others, hlooked, by rw [hstep]; exact hlookups', .inr ⟨_, by rw [hstep]; rfl⟩⟩
    · exact .inl ⟨looked ++ [claim], others, hlooked, by rw [hstep]; exact hlookups', .inl (by rw [hstep]; rfl)⟩
  · rcases hstep with ⟨-, hstep⟩ | ⟨-, hstep⟩
    · exact .inr (by rw [hstep])
    · rw [hcheck] at hphase
      obtain rfl : left = others := by
        rcases hphase with hphase | ⟨className', hphase⟩
        · exact absurd hphase.symm Phase.before_ne_check
        · cases hphase
          rfl
      exact .inl ⟨looked, left, hclaims, by rw [hstep]; exact hlookups, .inl (by rw [hstep])⟩
  · rw [hstep]
    exact .inl ⟨looked, left, hclaims, hlookups, hphase⟩

/-- The claims are looked up one after the other, until a class is found. -/
theorem run_between {self : Running} {claims : List String} (h : self.Between inNamespace claims [] claims)
    (moves : List (Move ε)) :
    (∃ looked left, (self.run driver inNamespace moves).Between inNamespace claims looked left)
      ∨ (self.run driver inNamespace moves).phase = .done .mutate := by
  refine run_preserves driver inNamespace
    (P := fun r => (∃ looked left, r.Between inNamespace claims looked left) ∨ r.phase = .done .mutate)
    (fun _ _ hr => hr) (fun r lookup hr => ?_) (.inl ⟨[], claims, h⟩) moves
  rcases hr with ⟨looked, left, hbetween⟩ | hdone
  · exact hbetween.step inNamespace lookup
  · rw [step_of_done inNamespace hdone]
    exact .inr hdone

/-- Every step brings the decision nearer. -/
theorem stepsLeft_step (self : Running) (lookup : ClaimLookup ε) :
    (self.step inNamespace lookup).phase.stepsLeft ≤ self.phase.stepsLeft - 1 := by
  rcases step_cases inNamespace lookup self with
    ⟨claim, others, hlook, ⟨named, -, hstep⟩ | ⟨fault, -, hstep⟩⟩
    | ⟨className, others, hcheck, ⟨-, hstep⟩ | ⟨-, hstep⟩⟩ | ⟨decision, hdone, hstep⟩
  · rw [hstep, hlook]
    exact Nat.le_refl _
  · rw [hstep, hlook, afterLookup, Phase.stepsLeft_before]
    exact Nat.le_succ _
  · rw [hstep]
    exact Nat.zero_le _
  · rw [hstep, hcheck, Phase.stepsLeft_before]
    exact Nat.le_refl _
  · rw [hstep, hdone]
    exact Nat.le_refl _

theorem stepsLeft_run (self : Running) (moves : List (Move ε)) :
    (self.run driver inNamespace moves).phase.stepsLeft ≤ self.phase.stepsLeft - moves.countP (·.event?.isNone) := by
  induction moves using List.reverseRecOn with
  | nil => exact Nat.le_refl _
  | append_singleton moves m ih =>
    rw [run_concat, List.countP_append]
    cases m with
    | event event => exact ih
    | step lookup => exact Nat.le_trans (stepsLeft_step inNamespace _ lookup) (Nat.sub_le_sub_right ih 1)

/-! ## 4. Checks -/

/-- Events do not bring a decision on. -/
theorem phase_run_of_events (self : Running) {moves : List (Move ε)} (h : ∀ m ∈ moves, m.event?.isSome = true) :
    (self.run driver inNamespace moves).phase = self.phase := by
  induction moves using List.reverseRecOn with
  | nil => rfl
  | append_singleton moves m ih =>
    rw [run_concat]
    have hmove := h m (by simp)
    cases m with
    | event event => exact ih fun m hm => h m (List.mem_append_left _ hm)
    | step lookup => cases hmove

/-- The last step in `seen` has looked up a claim, which names the given class or none. -/
def Resolves (self : Running) (seen : List (Move ε)) (claim : String) (named : Option String) : Prop :=
  ∃ first lookup others events, seen = first ++ .step lookup :: events ∧ (∀ m ∈ events, m.event?.isSome = true)
    ∧ (self.run driver inNamespace first).phase = .lookUp claim others ∧ lookup inNamespace claim = .ok named

/-- After `seen` comes the check for the class of a claim that has just been looked up. -/
def Checks (self : Running) (moves seen : List (Move ε)) (claim : String) (named : Option String) : Prop :=
  self.Resolves driver inNamespace seen claim named ∧ ∃ lookup rest, moves = seen ++ .step lookup :: rest

theorem phase_of_resolves {self : Running} {seen : List (Move ε)} {claim : String} {named : Option String}
    (h : self.Resolves driver inNamespace seen claim named) :
    ∃ others, (self.run driver inNamespace seen).phase = .check (ClassSet.effective named) others := by
  obtain ⟨first, lookup, others, events, rfl, hevents, hlook, hnamed⟩ := h
  refine ⟨others, ?_⟩
  rw [List.append_cons, run_append, phase_run_of_events driver inNamespace _ hevents, run_concat, move, step, hlook]
  dsimp only
  rw [hnamed]
  rfl

/-- A class is only looked for after a claim of it has been looked up. -/
theorem resolves_of_phase {self : Running} (hself : ∀ className others, self.phase ≠ .check className others)
    {seen : List (Move ε)} {className : String} {others : List String}
    (h : (self.run driver inNamespace seen).phase = .check className others) :
    ∃ claim named, self.Resolves driver inNamespace seen claim named ∧ className = ClassSet.effective named := by
  induction seen using List.reverseRecOn with
  | nil => exact absurd h (hself _ _)
  | append_singleton seen m ih =>
    rw [run_concat] at h
    cases m with
    | event event =>
      obtain ⟨claim, named, ⟨first, lookup, others, events, rfl, hevents, hlook, hnamed⟩, hclass⟩ := ih h
      refine ⟨claim, named, ⟨first, lookup, others, events ++ [.event event], by simp, ?_, hlook, hnamed⟩, hclass⟩
      intro m hm
      rcases List.mem_append.mp hm with hm | hm
      · exact hevents m hm
      · rw [List.mem_singleton.mp hm]
        rfl
    | step lookup =>
      rw [move] at h
      rcases step_cases inNamespace lookup (self.run driver inNamespace seen) with
        ⟨claim, others', hlook, ⟨named, hnamed, hstep⟩ | ⟨fault, -, hstep⟩⟩
        | ⟨_, others', -, ⟨-, hstep⟩ | ⟨-, hstep⟩⟩ | ⟨decision, hdone, hstep⟩
      · rw [hstep] at h
        cases h
        exact ⟨claim, named, ⟨seen, lookup, _, [], rfl, nofun, hlook, hnamed⟩, rfl⟩
      · rw [hstep] at h
        exact absurd h Phase.before_ne_check
      · rw [hstep] at h
        cases h
      · rw [hstep] at h
        exact absurd h Phase.before_ne_check
      · rw [hstep, hdone] at h
        cases h

/-- The decision to mutate is made by a check that finds its class. -/
theorem done_mutate_iff {self : Running} (hcheck : ∀ className others, self.phase ≠ .check className others)
    (hself : self.phase ≠ .done .mutate) (moves : List (Move ε)) :
    (self.run driver inNamespace moves).phase = .done .mutate ↔ ∃ seen claim named,
      self.Checks driver inNamespace moves seen claim named
      ∧ (classesAfter driver self.state seen).contains (ClassSet.effective named) = true := by
  constructor
  · intro h
    induction moves using List.reverseRecOn with
    | nil => exact absurd h hself
    | append_singleton moves m ih =>
      rw [run_concat] at h
      have hearlier (hdone : (self.run driver inNamespace moves).phase = .done .mutate) : ∃ seen claim named,
          self.Checks driver inNamespace (moves ++ [m]) seen claim named
          ∧ (classesAfter driver self.state seen).contains (ClassSet.effective named) = true := by
        obtain ⟨seen, claim, named, ⟨hresolves, lookup, rest, rfl⟩, hclass⟩ := ih hdone
        exact ⟨seen, claim, named, ⟨hresolves, lookup, rest ++ [m], by simp⟩, hclass⟩
      cases m with
      | event event => exact hearlier h
      | step lookup =>
        rw [move] at h
        rcases step_cases inNamespace lookup (self.run driver inNamespace moves) with
          ⟨claim, others, -, ⟨named, -, hstep⟩ | ⟨fault, -, hstep⟩⟩
          | ⟨className, others, hphase, ⟨hclass, hstep⟩ | ⟨-, hstep⟩⟩ | ⟨decision, -, hstep⟩
        · rw [hstep] at h
          cases h
        · rw [hstep] at h
          exact absurd h Phase.before_ne_mutate
        · obtain ⟨claim, named, hresolves, rfl⟩ := resolves_of_phase driver inNamespace hcheck hphase
          rw [classes_run] at hclass
          exact ⟨moves, claim, named, ⟨hresolves, lookup, [], rfl⟩, hclass⟩
        · rw [hstep] at h
          exact absurd h Phase.before_ne_mutate
        · rw [hstep] at h
          exact hearlier h
  · intro h
    obtain ⟨seen, claim, named, ⟨hresolves, lookup, rest, rfl⟩, hclass⟩ := h
    obtain ⟨others, hphase⟩ := phase_of_resolves driver inNamespace hresolves
    rw [← classes_run driver inNamespace] at hclass
    have hstep : ((self.run driver inNamespace seen).step inNamespace lookup).phase = .done .mutate := by
      rw [step, hphase]
      exact if_pos hclass
    rw [List.append_cons, run_append, run_concat]
    exact (run_of_done driver inNamespace hstep rest).1

/-- Among moves that are not all events there is a first step. -/
theorem exists_step (moves : List (Move ε)) :
    (∀ m ∈ moves, m.event?.isSome = true)
      ∨ ∃ events lookup rest, moves = events ++ .step lookup :: rest ∧ ∀ m ∈ events, m.event?.isSome = true := by
  induction moves with
  | nil => exact .inl nofun
  | cons m moves ih =>
    cases m with
    | step lookup => exact .inr ⟨[], lookup, moves, rfl, nofun⟩
    | event event =>
      have hevent : (Move.event event : Move ε).event?.isSome = true := rfl
      rcases ih with hall | ⟨events, lookup, rest, rfl, hevents⟩
      · exact .inl (List.forall_mem_cons.mpr ⟨hevent, hall⟩)
      · exact .inr ⟨.event event :: events, lookup, rest, rfl, List.forall_mem_cons.mpr ⟨hevent, hevents⟩⟩

theorem Resolves.more {self : Running} {seen : List (Move ε)} {claim : String} {named : Option String}
    (h : self.Resolves driver inNamespace seen claim named) {events : List (Move ε)}
    (hevents : ∀ m ∈ events, m.event?.isSome = true) :
    self.Resolves driver inNamespace (seen ++ events) claim named := by
  obtain ⟨first, lookup, others, events', rfl, hevents', hlook, hnamed⟩ := h
  refine ⟨first, lookup, others, events' ++ events, by simp, fun m hm => ?_, hlook, hnamed⟩
  exact (List.mem_append.mp hm).elim (hevents' m) (hevents m)

/-- A class that is in the set as long as nothing is decided is found, once its claim has been looked up. -/
theorem mutate_of_throughout {self : Running} (hcheck : ∀ className others, self.phase ≠ .check className others)
    {moves seen : List (Move ε)} (hseen : seen <+: moves) {claim : String} {named : Option String}
    (h : self.Resolves driver inNamespace seen claim named)
    (hclass : ∀ seen', seen' <+: moves → (self.run driver inNamespace seen').phase.decision? = none →
      (classesAfter driver self.state seen').contains (ClassSet.effective named) = true)
    {decision : Decision} (hdone : (self.run driver inNamespace moves).phase = .done decision) :
    decision = .mutate := by
  obtain ⟨rest, rfl⟩ := hseen
  obtain ⟨others, hphase⟩ := phase_of_resolves driver inNamespace h
  rcases exists_step rest with hevents | ⟨events, lookup, rest, rfl, hevents⟩
  · rw [run_append, phase_run_of_events driver inNamespace _ hevents, hphase] at hdone
    cases hdone
  · have hmore := h.more driver inNamespace hevents
    obtain ⟨others', hphase'⟩ := phase_of_resolves driver inNamespace hmore
    have hfound := hclass (seen ++ events) ⟨.step lookup :: rest, by simp⟩ (by rw [hphase']; rfl)
    have hmutate := (done_mutate_iff driver inNamespace hcheck ?_ (seen ++ (events ++ .step lookup :: rest))).mpr
      ⟨seen ++ events, claim, named, ⟨hmore, lookup, rest, by simp⟩, hfound⟩
    · cases hdone.symm.trans hmutate
      rfl
    · intro hself
      cases hphase.symm.trans (run_of_done driver inNamespace hself seen).1

/-! ## 5. Decisions that are left alone -/

theorem recordVerdict_zero (state : State) {verdict : Verdict} (h : verdict.failures = 0) :
    state.recordVerdict verdict = state := by
  simp [State.recordVerdict, Metrics.recordLookupFailures, h]

/-- Lookups that are counted at once and those that are counted at the end come to the same. -/
theorem recordVerdict_afterLookup (state : State) (verdict : Verdict) (pair : String × String) :
    { state with metrics := state.metrics.recordLookupFailures 1 : State }.recordVerdict verdict
      = state.recordVerdict (verdict.afterLookup pair true) := by
  simp [State.recordVerdict, Metrics.recordLookupFailures, Verdict.afterLookup, UInt64.ofNat_add]
  ac_rfl

theorem run_replicate_succ (self : Running) (lookup : ClaimLookup ε) (n : Nat) :
    self.run driver inNamespace (List.replicate (n + 1) (.step lookup))
      = (self.step inNamespace lookup).run driver inNamespace (List.replicate n (.step lookup)) := rfl

theorem run_replicate_of_done {self : Running} {decision : Decision} (h : self.phase = .done decision)
    (lookup : ClaimLookup ε) (n : Nat) : self.run driver inNamespace (List.replicate n (.step lookup)) = self := by
  induction n with
  | zero => rfl
  | succ n ih =>
    rw [run_replicate_succ, step_of_done inNamespace h, ih]

/-- With claims that always resolve alike, a run that is left alone comes to the verdict on the claims. -/
theorem run_lookUpClaims (lookup : ClaimLookup ε) (claims : List String) : ∀ (state : State) lookups (n : Nat),
    2 * claims.length ≤ n →
    ({ state, phase := .before claims, lookups } : Running).run driver inNamespace (List.replicate n (.step lookup))
      = { state := state.recordVerdict (lookUpClaims state.classes lookup inNamespace claims)
          phase := .done (lookUpClaims state.classes lookup inNamespace claims).decision
          lookups := lookups ++ (lookUpClaims state.classes lookup inNamespace claims).lookups } := by
  induction claims with
  | nil =>
    intro state lookups n _
    rw [run_replicate_of_done driver inNamespace rfl, lookUpClaims, recordVerdict_zero state rfl, List.append_nil]
    rfl
  | cons claim claims ih =>
    intro state lookups n hn
    obtain ⟨n, rfl⟩ : ∃ k, n = k + 2 := ⟨n - 2, by simp only [List.length_cons] at hn; omega⟩
    have hleft : 2 * claims.length ≤ n := by simp only [List.length_cons] at hn; omega
    rw [lookUpClaims, run_replicate_succ, step]
    simp only [Phase.before]
    cases lookup inNamespace claim with
    | error fault =>
      simp only [afterLookup]
      rw [ih _ _ _ (Nat.le_succ_of_le hleft), recordVerdict_afterLookup state _ (inNamespace, claim)]
      simp [Verdict.afterLookup]
    | ok named =>
      simp only [afterLookup]
      rw [run_replicate_succ, step]
      cases hclass : state.classes.contains (ClassSet.effective named) with
      | true =>
        simp only [hclass, if_true]
        rw [run_replicate_of_done driver inNamespace rfl, recordVerdict_zero state rfl]
      | false =>
        simp only [hclass, Bool.false_eq_true, if_false]
        rw [ih _ _ _ hleft]
        simp [Verdict.afterLookup, State.recordVerdict]

/-- By itself a run makes the decision that is made at once. -/
theorem run_eq_decide (state : State) (pod : Pod) (lookup : ClaimLookup ε) {n : Nat} (hn : 2 * pod.claims.length ≤ n) :
    (begin driver state pod).run driver pod.inNamespace (List.replicate n (.step lookup))
      = { state := (state.decide driver lookup pod).2
          phase := .done (state.decide driver lookup pod).1.decision
          lookups := (state.decide driver lookup pod).1.lookups } := by
  unfold begin Phase.start State.decide decide
  dsimp only
  split
  · rw [run_replicate_of_done driver pod.inNamespace rfl, recordVerdict_zero state rfl]
  split
  · rw [run_replicate_of_done driver pod.inNamespace rfl, recordVerdict_zero state rfl]
  · exact (run_lookUpClaims driver pod.inNamespace lookup pod.claims state [] n hn).trans rfl

/-! ## 6. Decisions in any company -/

theorem begin_ne_check (state : State) (pod : Pod) (className : String) (others : List String) :
    (begin driver state pod).phase ≠ .check className others := by
  unfold begin Phase.start
  dsimp only
  split
  · nofun
  split
  · nofun
  · exact Phase.before_ne_check

theorem stepsLeft_begin_le (state : State) (pod : Pod) :
    (begin driver state pod).phase.stepsLeft ≤ 2 * pod.claims.length := by
  unfold begin Phase.start
  dsimp only
  split
  · exact Nat.zero_le _
  split
  · exact Nat.zero_le _
  · exact Nat.le_of_eq (Phase.stepsLeft_before _)

end Running

/-- The decision on a pod, and the state, after some moves. -/
def deciding (driver : String) (state : State) (pod : Pod) (moves : List (Move ε)) : Running :=
  (Running.begin driver state pod).run driver pod.inNamespace moves

/-- Whether the pod itself tells what to do, so that its claims do not matter. -/
def TellsItself (driver : String) (pod : Pod) : Prop :=
  pod.prefers (Readiness.label driver) = true ∨ pod.volumes.any (·.inlineDriver == some driver) = true

/-- What is to be said of a decision on a pod while `moves` are made. -/
structure Sound (driver : String) (state : State) (pod : Pod) (moves : List (Move ε)) : Prop where
  /-- The class set is the one that the events produce by themselves. -/
  classes : (deciding driver state pod moves).state.classes
    = ((moves.filterMap Move.event?).foldl (State.apply driver) state).classes
  /-- A pod with a ready preference is left alone, whatever the events and the claims. -/
  preferring : pod.prefers (Readiness.label driver) = true →
    (deciding driver state pod moves).phase = .done .alreadyPreferred ∧ (deciding driver state pod moves).lookups = []
  /-- Any other pod with an inline volume of the driver is given the patch, whatever the events and the claims. -/
  inline : pod.prefers (Readiness.label driver) = false → pod.volumes.any (·.inlineDriver == some driver) = true →
    (deciding driver state pod moves).phase = .done .mutate ∧ (deciding driver state pod moves).lookups = []
  /-- All others are given it exactly when a check that took place found the class of its claim in the set as it was
  at that very moment. -/
  mutate_iff : ¬ TellsItself driver pod → ((deciding driver state pod moves).phase = .done .mutate ↔
    ∃ seen claim named, claim ∈ pod.claims
      ∧ (Running.begin driver state pod).Checks driver pod.inNamespace moves seen claim named
      ∧ (classesAfter driver state seen).contains (ClassSet.effective named) = true)
  /-- The only other decision on them is that they do not use the driver, and only after every claim has been
  looked up. -/
  otherwise : ¬ TellsItself driver pod → ∀ decision, (deciding driver state pod moves).phase = .done decision →
    decision ≠ .mutate → decision = .notUsingDriver
      ∧ (deciding driver state pod moves).lookups = pod.claims.map (pod.inNamespace, ·)
  /-- Two steps for each claim are enough to decide. -/
  decides : 2 * pod.claims.length ≤ moves.countP (·.event?.isNone) →
    ∃ decision, (deciding driver state pod moves).phase = .done decision
  /-- If a claim has been looked up, and its class is in the set for as long as nothing is decided, the decision
  can only be to mutate. -/
  throughout : ∀ seen claim named, seen <+: moves →
    (Running.begin driver state pod).Resolves driver pod.inNamespace seen claim named →
    (∀ seen', seen' <+: moves → (deciding driver state pod seen').phase.decision? = none →
      (classesAfter driver state seen').contains (ClassSet.effective named) = true) →
    ∀ decision, (deciding driver state pod moves).phase = .done decision → decision = .mutate
  /-- If no claim that has been looked up has its class in the set as long as nothing is decided, the decision is not
  to mutate. -/
  never : ¬ TellsItself driver pod → (∀ seen claim named, seen <+: moves →
      (Running.begin driver state pod).Resolves driver pod.inNamespace seen claim named →
      ∀ seen', seen' <+: moves → (deciding driver state pod seen').phase.decision? = none →
        (classesAfter driver state seen').contains (ClassSet.effective named) = false) →
    (deciding driver state pod moves).phase ≠ .done .mutate
  /-- Without events, and with claims that always resolve alike, it is the decision that is made at once. -/
  undisturbed : ∀ lookup n, moves = List.replicate n (.step lookup) → 2 * pod.claims.length ≤ n →
    deciding driver state pod moves
      = { state := (state.decide driver lookup pod).2
          phase := .done (state.decide driver lookup pod).1.decision
          lookups := (state.decide driver lookup pod).1.lookups }

/-- **Decisions beside the watch.** Whatever events come before, between and after the steps of a decision, and however
claims resolve at each step, the decision is sound at every check. -/
theorem interleaving_is_sound (driver : String) (state : State) (pod : Pod) (moves : List (Move ε)) :
    Sound driver state pod moves := by
  have hcheck := Running.begin_ne_check driver state pod
  have hown (h : ¬ TellsItself driver pod) : (Running.begin driver state pod).phase = .before pod.claims := by
    obtain ⟨hprefers, hinline⟩ := not_or.mp h
    simp only [Running.begin, Phase.start, if_neg hprefers, if_neg hinline]
  have hmutate (h : ¬ TellsItself driver pod) := Running.done_mutate_iff driver pod.inNamespace hcheck
    (by rw [hown h]; exact Phase.before_ne_mutate) moves
  have hbetween (h : ¬ TellsItself driver pod) (moves : List (Move ε)) := by
    have hbegin : (Running.begin driver state pod).Between pod.inNamespace pod.claims [] pod.claims :=
      ⟨(List.nil_append _).symm, rfl, .inl (hown h)⟩
    exact Running.run_between driver pod.inNamespace hbegin moves
  refine { classes := ?classes, preferring := ?preferring, inline := ?inline, mutate_iff := ?mutate_iff,
           otherwise := ?otherwise, decides := ?decides, throughout := ?throughout, never := ?never,
           undisturbed := ?undisturbed }
  case classes => exact Running.classes_run driver pod.inNamespace _ moves
  case preferring =>
    intro hprefers
    exact Running.run_of_done driver pod.inNamespace (if_pos hprefers) moves
  case inline =>
    intro hprefers hinline
    refine Running.run_of_done driver pod.inNamespace (?_ : Phase.start driver pod = .done .mutate) moves
    simp only [Phase.start, hprefers, hinline, Bool.false_eq_true, if_false, if_true]
  case mutate_iff =>
    intro htells
    refine (hmutate htells).trans ⟨fun h => ?_, fun h => ?_⟩
    · obtain ⟨seen, claim, named, ⟨hresolves, hstep⟩, hclass⟩ := h
      refine ⟨seen, claim, named, ?_, ⟨hresolves, hstep⟩, hclass⟩
      -- The claim stood in front of those that were left when it was looked up.
      obtain ⟨first, lookup, others, events, -, -, hlook, -⟩ := hresolves
      rcases hbetween htells first with ⟨looked, left, hclaims, -, hphase | ⟨className, hphase⟩⟩ | hdone
      · rw [hclaims, Phase.before_eq_lookUp (hphase.symm.trans hlook)]
        simp
      · cases hphase.symm.trans hlook
      · cases hdone.symm.trans hlook
    · obtain ⟨seen, claim, named, -, hchecks, hclass⟩ := h
      exact ⟨seen, claim, named, hchecks, hclass⟩
  case otherwise =>
    intro htells decision hdone hne
    rcases hbetween htells moves with ⟨looked, left, hclaims, hlookups, hphase | ⟨className, hphase⟩⟩ | hdone'
    · cases left with
      | nil =>
        cases hphase.symm.trans hdone
        rw [List.append_nil] at hclaims
        exact ⟨rfl, by rw [hclaims]; exact hlookups⟩
      | cons claim left => cases hphase.symm.trans hdone
    · cases hphase.symm.trans hdone
    · cases hdone'.symm.trans hdone
      exact absurd rfl hne
  case decides =>
    intro hsteps
    have hleft := Running.stepsLeft_run driver pod.inNamespace (Running.begin driver state pod) moves
    have hbegin := Running.stepsLeft_begin_le driver state pod
    have hzero : (deciding driver state pod moves).phase.stepsLeft = 0 := by
      rw [deciding]
      omega
    cases hphase : (deciding driver state pod moves).phase with
    | done decision => exact ⟨decision, rfl⟩
    | lookUp claim others =>
      rw [hphase] at hzero
      cases hzero
    | check className others =>
      rw [hphase] at hzero
      cases hzero
  case throughout =>
    intro seen claim named hseen hresolves hclass decision hdone
    exact Running.mutate_of_throughout driver pod.inNamespace hcheck hseen hresolves hclass hdone
  case never =>
    intro htells hclass hdone
    obtain ⟨seen, claim, named, ⟨hresolves, lookup, rest, rfl⟩, hfound⟩ := (hmutate htells).mp hdone
    obtain ⟨others, hphase⟩ := Running.phase_of_resolves driver pod.inNamespace hresolves
    have hseen : seen <+: seen ++ .step lookup :: rest := List.prefix_append _ _
    have hnot := hclass seen claim named hseen hresolves seen hseen (by rw [deciding, hphase]; rfl)
    exact Bool.false_ne_true (hnot.symm.trans hfound)
  case undisturbed =>
    intro lookup n hmoves hn
    rw [hmoves]
    exact Running.run_eq_decide driver state pod lookup hn

-- A class that comes between the lookup of its claim and the check is found; one that comes later is not.
example :
    let pod : Pod := { spec := some { volumes := [{ claim := some "data" }] } }
    let named : Move Unit := .step fun _ _ => .ok (some "fast")
    let come : Move Unit := .event (.applied { metadata := { name := some "fast" }, provisioner := "d" })
    (deciding "d" {} pod [named, come, named]).phase = .done .mutate
      ∧ (deciding "d" {} pod [named, named, come]).phase = .done .notUsingDriver := by
  decide

end Policy

end ReadyPin

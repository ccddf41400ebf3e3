import ReadyPin.Proofs.Policy.Interleaving
import ReadyPin.Proofs.Policy.Lookups
import ReadyPin.Proofs.Policy.Rule

/-!
# The lookups that a decision needs

A lookup is a request to the cluster, and what comes of it may change from one lookup to the next. So a resolver is any
action with a state of its own here, and `ClaimAction.logged` keeps a record of each time that it is called. What a
decision has to ask for is said without the decision: all claims of the pod in their order (`ClaimAction.all`), up to
the first one that has a class of the set.

`lookUpClaimsBy_logged` is the induction over the claims: the log has these lookups and no others, and the verdict can
be read off it (`Verdict.ofLookups`). `decisions_look_up_what_they_need` says what that comes to for the state.
-/

namespace ReadyPin

variable {σ ε : Type}

/-! ## 1. Lookups on record -/

/-- A lookup that was made, and what came of it. -/
structure Lookup (ε : Type) where
  inNamespace : String
  claim : String
  result : Except ε (Option String)

namespace Lookup

/-- What was looked up. -/
def pair (self : Lookup ε) : String × String := (self.inNamespace, self.claim)

/-- Whether nothing could be found out. -/
def failed (self : Lookup ε) : Bool :=
  match self.result with
  | .ok _ => false
  | .error _ => true

/-- Whether the claim has a class of the set, the one it names or the default class. -/
def finds (classes : ClassSet) (self : Lookup ε) : Bool :=
  match self.result with
  | .ok named => classes.contains (named.getD ClassSet.defaultClass)
  | .error _ => false

/-- What has to be asked for: the lookups up to the first one that finds a class of the set, and all if none does. -/
def needed (classes : ClassSet) (lookups : List (Lookup ε)) : List (Lookup ε) :=
  lookups.take (lookups.findIdx (finds classes) + 1)

theorem needed_cons_of_finds {classes : ClassSet} {l : Lookup ε} (h : l.finds classes = true) (ls : List (Lookup ε)) :
    needed classes (l :: ls) = [l] := by
  simp [needed, List.findIdx_cons, h]

theorem needed_cons_of_misses {classes : ClassSet} {l : Lookup ε} (h : l.finds classes = false)
    (ls : List (Lookup ε)) : needed classes (l :: ls) = l :: needed classes ls := by
  simp [needed, List.findIdx_cons, h]

end Lookup

namespace ClaimAction

/-- The resolver that also writes down each lookup, with what came of it. -/
def logged (self : ClaimAction (StateM σ) ε) : ClaimAction (StateM (σ × List (Lookup ε))) ε :=
  fun inNamespace claim (before, log) =>
    let (result, after) := self inNamespace claim before
    (result, after, log ++ [⟨inNamespace, claim, result⟩])

/-- The lookups of all the given claims, one after the other. -/
def all (self : ClaimAction (StateM σ) ε) (inNamespace : String) : List String → σ → List (Lookup ε)
  | [], _ => []
  | claim :: claims, start =>
    ⟨inNamespace, claim, (self inNamespace claim start).1⟩
      :: all self inNamespace claims (self inNamespace claim start).2

theorem logged_bind {α : Type} (resolve : ClaimAction (StateM σ) ε) (inNamespace claim : String)
    (k : Except ε (Option String) → StateM (σ × List (Lookup ε)) α) (start : σ) (log : List (Lookup ε)) :
    (resolve.logged inNamespace claim >>= k) (start, log)
      = k (resolve inNamespace claim start).1
          ((resolve inNamespace claim start).2,
            log ++ [⟨inNamespace, claim, (resolve inNamespace claim start).1⟩]) := rfl

theorem map_pair_all (resolve : ClaimAction (StateM σ) ε) (inNamespace : String) (claims : List String) (start : σ) :
    (resolve.all inNamespace claims start).map Lookup.pair = claims.map (inNamespace, ·) := by
  induction claims generalizing start with
  | nil => rfl
  | cons claim claims ih => rw [all, List.map_cons, List.map_cons, ih, Lookup.pair]

/-- A resolver that always gives the same for a claim can be asked in any state. -/
theorem all_of_steady {resolve : ClaimAction (StateM σ) ε} {lookup : ClaimLookup ε}
    (h : ∀ inNamespace claim start, (resolve inNamespace claim start).1 = lookup inNamespace claim)
    (inNamespace : String) (claims : List String) (start : σ) :
    resolve.all inNamespace claims start = claims.map fun claim => ⟨inNamespace, claim, lookup inNamespace claim⟩ := by
  induction claims generalizing start with
  | nil => rfl
  | cons claim claims ih => rw [all, List.map_cons, ih, h]

end ClaimAction

/-! ## 2. Verdicts -/

namespace Verdict

/-- The verdict that the lookups up to the first find make. -/
def ofLookups (classes : ClassSet) (looked : List (Lookup ε)) : Verdict where
  decision := if looked.any (·.finds classes) then .mutate else .notUsingDriver
  lookups := looked.map Lookup.pair
  failures := looked.countP Lookup.failed

theorem ofLookups_of_finds {classes : ClassSet} {inNamespace claim : String} {named : Option String}
    (h : classes.contains (ClassSet.effective named) = true) :
    ofLookups classes [(⟨inNamespace, claim, .ok named⟩ : Lookup ε)]
      = { decision := .mutate, lookups := [(inNamespace, claim)] } := by
  rw [ClassSet.effective] at h
  simp [ofLookups, Lookup.finds, Lookup.failed, Lookup.pair, h]

theorem ofLookups_cons_of_misses {classes : ClassSet} {l : Lookup ε} (h : l.finds classes = false)
    (looked : List (Lookup ε)) :
    ofLookups classes (l :: looked) = (ofLookups classes looked).afterLookup l.pair l.failed := by
  cases hfailed : l.failed <;> simp [ofLookups, afterLookup, h, hfailed]

end Verdict

namespace Policy

variable (driver : String) (classes : ClassSet)

/-- What is asked for while claims are looked up, and the verdict on them. -/
theorem lookUpClaimsBy_logged (resolve : ClaimAction (StateM σ) ε) (inNamespace : String) (claims : List String) :
    ∀ start log, ∃ after,
      lookUpClaimsBy classes resolve.logged inNamespace claims (start, log)
        = (.ofLookups classes (Lookup.needed classes (resolve.all inNamespace claims start)),
            after, log ++ Lookup.needed classes (resolve.all inNamespace claims start)) := by
  induction claims with
  | nil =>
    intro start log
    refine ⟨start, ?_⟩
    rw [ClaimAction.all, Lookup.needed, List.take_nil, List.append_nil]
    rfl
  | cons claim claims ih =>
    intro start log
    rw [lookUpClaimsBy, ClaimAction.logged_bind, ClaimAction.all]
    generalize (resolve inNamespace claim start).1 = result, (resolve inNamespace claim start).2 = next
    let l : Lookup ε := ⟨inNamespace, claim, result⟩
    -- A lookup that finds no class of the set is followed by those of the claims behind it.
    have hrest : l.finds classes = false → ∃ after, (do
        let rest ← lookUpClaimsBy classes resolve.logged inNamespace claims
        pure (rest.afterLookup l.pair l.failed)) (next, log ++ [l])
        = (.ofLookups classes (Lookup.needed classes (l :: resolve.all inNamespace claims next)),
            after, log ++ Lookup.needed classes (l :: resolve.all inNamespace claims next)) := by
      intro hmisses
      obtain ⟨after, hafter⟩ := ih next (log ++ [l])
      refine ⟨after, ?_⟩
      rw [bind_pure_asked, hafter, Lookup.needed_cons_of_misses hmisses, Verdict.ofLookups_cons_of_misses hmisses,
        List.append_assoc, List.singleton_append]
    cases result with
    | error fault => exact hrest rfl
    | ok named =>
      cases hclass : classes.contains (ClassSet.effective named) with
      | true =>
        have hfinds : Lookup.finds classes (⟨inNamespace, claim, .ok named⟩ : Lookup ε) = true := hclass
        refine ⟨next, ?_⟩
        rw [Lookup.needed_cons_of_finds hfinds, Verdict.ofLookups_of_finds hclass]
        simp only [hclass, if_true]
        rfl
      | false =>
        simp only [hclass, Bool.false_eq_true, if_false]
        exact hrest hclass

/-- The verdict on claims that always resolve alike. -/
theorem lookUpClaims_eq_ofLookups (lookup : ClaimLookup ε) (inNamespace : String) (claims : List String) :
    lookUpClaims classes lookup inNamespace claims = .ofLookups classes (Lookup.needed classes
      (claims.map fun claim => ⟨inNamespace, claim, lookup inNamespace claim⟩)) := by
  induction claims with
  | nil => rfl
  | cons claim claims ih =>
    rw [lookUpClaims, List.map_cons]
    cases lookup inNamespace claim with
    | error fault =>
      rw [Lookup.needed_cons_of_misses rfl, Verdict.ofLookups_cons_of_misses rfl, ← ih]
      rfl
    | ok named =>
      cases hclass : classes.contains (ClassSet.effective named) with
      | true =>
        have hfinds : Lookup.finds classes (⟨inNamespace, claim, .ok named⟩ : Lookup ε) = true := hclass
        rw [Lookup.needed_cons_of_finds hfinds, Verdict.ofLookups_of_finds hclass]
        simp only [hclass, if_true]
      | false =>
        have hmisses : Lookup.finds classes (⟨inNamespace, claim, .ok named⟩ : Lookup ε) = false := hclass
        rw [Lookup.needed_cons_of_misses hmisses, Verdict.ofLookups_cons_of_misses hmisses, ← ih]
        simp only [hclass, Bool.false_eq_true, if_false]
        rfl

/-! ## 3. Decisions -/

variable {driver} in
theorem tellsItself_iff {pod : Pod} : TellsItself driver pod ↔
    pod.AsksFor (driver ++ "/driver-ready") ∨ ∃ volume ∈ pod.volumes, volume.inlineDriver = some driver := by
  rw [TellsItself, pod.prefers_iff_asksFor, List.any_eq_true]
  simp only [beq_iff_eq, Readiness.label]

variable {m : Type → Type} [Monad m]

/-- Nothing is asked for a pod that tells what to do with it. -/
theorem decideBy_of_tellsItself {pod : Pod} (h : TellsItself driver pod) (resolve : ClaimAction m ε) :
    ∃ verdict : Verdict, verdict.lookups = [] ∧ verdict.failures = 0
      ∧ decideBy driver classes resolve pod = pure verdict
      ∧ ∀ lookup : ClaimLookup ε, decide driver classes lookup pod = verdict := by
  unfold decideBy decide
  by_cases hprefers : pod.prefers (Readiness.label driver) = true
  · simp only [if_pos hprefers]
    exact ⟨_, rfl, rfl, rfl, fun _ => rfl⟩
  · have hinline := h.resolve_left hprefers
    simp only [if_neg hprefers, if_pos hinline]
    exact ⟨_, rfl, rfl, rfl, fun _ => rfl⟩

/-- For any other pod the claims are looked up. -/
theorem decideBy_of_not_tellsItself {pod : Pod} (h : ¬ TellsItself driver pod) (resolve : ClaimAction m ε) :
    decideBy driver classes resolve pod
        = lookUpClaimsBy classes resolve pod.inNamespace (pod.volumes.filterMap Volume.claim)
      ∧ ∀ lookup : ClaimLookup ε, decide driver classes lookup pod
        = lookUpClaims classes lookup pod.inNamespace (pod.volumes.filterMap Volume.claim) := by
  obtain ⟨hprefers, hinline⟩ := not_or.mp h
  unfold decideBy decide
  simp only [if_neg hprefers, if_neg hinline]
  exact ⟨trivial, fun _ => trivial⟩

/-- What is asked for while a pod is decided on, and the verdict. -/
theorem decideBy_logged (resolve : ClaimAction (StateM σ) ε) (pod : Pod) (start : σ) : ∃ verdict after asked,
    decideBy driver classes resolve.logged pod (start, []) = (verdict, after, asked)
      ∧ verdict.lookups = asked.map Lookup.pair ∧ verdict.failures = asked.countP Lookup.failed
      ∧ (TellsItself driver pod → asked = [])
      ∧ (¬ TellsItself driver pod → asked = Lookup.needed classes
          (resolve.all pod.inNamespace (pod.volumes.filterMap Volume.claim) start))
      ∧ ∀ lookup : ClaimLookup ε,
        (∀ inNamespace claim start, (resolve inNamespace claim start).1 = lookup inNamespace claim) →
          decide driver classes lookup pod = verdict := by
  by_cases htells : TellsItself driver pod
  · obtain ⟨verdict, hlookups, hfailures, hby, hdecide⟩ :=
      decideBy_of_tellsItself driver classes htells resolve.logged
    exact ⟨verdict, start, [], by rw [hby]; rfl, hlookups, hfailures, fun _ => rfl, fun h => absurd htells h,
      fun lookup _ => hdecide lookup⟩
  · obtain ⟨hby, hdecide⟩ := decideBy_of_not_tellsItself driver classes htells resolve.logged
    obtain ⟨after, hafter⟩ := lookUpClaimsBy_logged classes resolve pod.inNamespace
      (pod.volumes.filterMap Volume.claim) start []
    refine ⟨_, after, _, hby ▸ hafter, rfl, rfl, fun h => absurd h htells, fun _ => rfl, fun lookup hsteady => ?_⟩
    rw [hdecide, lookUpClaims_eq_ofLookups, ClaimAction.all_of_steady hsteady]

end Policy

/-- Decides on a pod, with claims that are looked up by an action. -/
def State.decideBy {m : Type → Type} [Monad m] (driver : String) (resolve : ClaimAction m ε) (self : State)
    (pod : Pod) : m (Verdict × State) := do
  let verdict ← Policy.decideBy driver self.classes resolve pod
  pure (verdict, self.recordVerdict verdict)

/-- **Needed lookups.** Let a pod be decided on in any state, with claims that are looked up by any action, whatever
state of its own it has and whatever comes of each lookup.

* If the pod asks for ready nodes, or has an inline volume of the driver anywhere among its volumes, nothing is looked
  up.
* Otherwise its claims are looked up in the order of its volumes, each in the namespace of the pod, up to the first one
  that has a class of the set; all of them if there is none.
* The counter of failed lookups grows by the number of those among them that failed, as far as 64 bits go, and nothing
  else in the state changes. The verdict has the lookups in their order.
* If lookups of one claim always come to the same, all this is the decision that is made with what they come to. -/
theorem decisions_look_up_what_they_need (driver : String) (state : State) (pod : Pod)
    (resolve : ClaimAction (StateM σ) ε) (start : σ) :
    let ran := state.decideBy driver resolve.logged pod (start, [])
    let asked := ran.2.2
    let tells := pod.AsksFor (driver ++ "/driver-ready") ∨ ∃ volume ∈ pod.volumes, volume.inlineDriver = some driver
    let inNamespace := pod.metadata.inNamespace.getD ""
    let claims := pod.volumes.filterMap Volume.claim
    let all := resolve.all inNamespace claims start
    (tells → asked = [])
    ∧ (¬ tells → asked = all.take (all.findIdx (Lookup.finds state.classes) + 1))
    ∧ all.map Lookup.pair = claims.map (inNamespace, ·)
    ∧ ran.1.2 = { state with metrics := { state.metrics with
        lookupFailures := state.metrics.lookupFailures + .ofNat (asked.countP Lookup.failed) } }
    ∧ ran.1.1.lookups = asked.map Lookup.pair
    ∧ ∀ lookup : ClaimLookup ε,
      (∀ inNamespace claim start, (resolve inNamespace claim start).1 = lookup inNamespace claim) →
        ran.1 = state.decide driver lookup pod
          ∧ all = claims.map fun claim => ⟨inNamespace, claim, lookup inNamespace claim⟩ := by
  intro ran asked tells inNamespace claims all
  obtain ⟨verdict, after, looked, hrun, hlookups, hfailures, hnone, hneeded, hsteady⟩ :=
    Policy.decideBy_logged driver state.classes resolve pod start
  have hran : ran = ((verdict, state.recordVerdict verdict), after, looked) := by
    refine (bind_pure_asked _ (fun verdict => (verdict, state.recordVerdict verdict)) _).trans ?_
    rw [hrun]
  have htells : Policy.TellsItself driver pod ↔ tells := Policy.tellsItself_iff
  have hasked : asked = looked := by rw [show asked = ran.2.2 from rfl, hran]
  refine ⟨fun h => hasked.trans (hnone (htells.mpr h)), fun h => hasked.trans (hneeded (mt htells.mp h)),
    resolve.map_pair_all .., ?_, ?_, fun lookup hlookup => ⟨?_, ClaimAction.all_of_steady hlookup ..⟩⟩
  · rw [hran, hasked, ← hfailures]
    rfl
  · rw [hran, hasked, ← hlookups]
  · rw [hran, State.decide, hsteady lookup hlookup]

-- A claim that stands twice in a pod is looked up again after a failure; the one behind it need not be looked up.
example :
    let volumes : List Volume := [{ claim := some "a" }, { claim := some "a" }, { claim := some "b" }]
    let pod : Pod := { spec := some { volumes } }
    let resolve : ClaimAction (StateM Nat) Unit :=
      fun _ _ n => (if n = 0 then .error () else .ok (some "fast"), n + 1)
    let ran := State.decideBy "d" resolve.logged { classes := .ofList ["fast"] } pod (0, [])
    ran.2.2.map (fun l => (l.claim, l.failed)) = [("a", true), ("a", false)] ∧ ran.1.2.metrics.lookupFailures = 1 := by
  decide

end ReadyPin

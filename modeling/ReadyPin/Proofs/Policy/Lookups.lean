import ReadyPin.Proofs.Admission.Answers

/-!
# What is asked of the cluster

A claim is looked up by a function, and a function does not tell how often it is called. So decisions and reviews are
written here over lookups that are actions (`Policy.decideBy`, `Admission.reviewBy`), whatever such an action does
besides. With an action that notes the claims it is asked for, they give what the functions give, and the note is the
list of lookups in the verdict (`Policy.decideBy_noting`, `Admission.reviewBy_noting`). A rejected body has no verdict,
and nothing is asked for it.
-/

namespace ReadyPin

/-- Looks up a claim by its namespace and name, by an action. -/
abbrev ClaimAction (m : Type → Type) (ε : Type) := String → String → m (Except ε (Option String))

/-- The lookup that also notes what it is asked for. -/
def ClaimLookup.noting {ε : Type} (self : ClaimLookup ε) : ClaimAction (StateM (List (String × String))) ε :=
  fun inNamespace claim asked => (self inNamespace claim, asked ++ [(inNamespace, claim)])

variable {m : Type → Type} [Monad m] {ε : Type}

/-! ## 1. Decisions -/

namespace Policy

/-- Looks up claims in their order until one has a class of the set. -/
def lookUpClaimsBy (classes : ClassSet) (lookup : ClaimAction m ε) (inNamespace : String) : List String → m Verdict
  | [] => pure { decision := .notUsingDriver }
  | claim :: claims => do
    match ← lookup inNamespace claim with
    | .ok named =>
      if classes.contains (ClassSet.effective named) then
        pure { decision := .mutate, lookups := [(inNamespace, claim)] }
      else do
        let rest ← lookUpClaimsBy classes lookup inNamespace claims
        pure (rest.afterLookup (inNamespace, claim) false)
    | .error _ => do
      let rest ← lookUpClaimsBy classes lookup inNamespace claims
      pure (rest.afterLookup (inNamespace, claim) true)

/-- Decides on a pod. -/
def decideBy (driver : String) (classes : ClassSet) (lookup : ClaimAction m ε) (pod : Pod) : m Verdict :=
  if pod.prefers (Readiness.label driver) then pure { decision := .alreadyPreferred }
  else if pod.volumes.any (·.inlineDriver == some driver) then pure { decision := .mutate }
  else lookUpClaimsBy classes lookup pod.inNamespace (pod.volumes.filterMap Volume.claim)

end Policy

theorem ClaimLookup.noting_bind {α : Type} (lookup : ClaimLookup ε) (inNamespace claim : String)
    (k : Except ε (Option String) → StateM (List (String × String)) α) (asked : List (String × String)) :
    (lookup.noting inNamespace claim >>= k) asked
      = k (lookup inNamespace claim) (asked ++ [(inNamespace, claim)]) := rfl

/-- Nothing more is asked for when a result is only changed. -/
theorem bind_pure_asked {σ α β : Type} (x : StateM σ α) (g : α → β) (asked : σ) :
    (x >>= fun a => pure (g a)) asked = (g (x asked).1, (x asked).2) := rfl

namespace Policy

variable (driver : String) (classes : ClassSet) (lookup : ClaimLookup ε)

theorem lookUpClaimsBy_noting (inNamespace : String) (claims : List String) : ∀ asked,
    lookUpClaimsBy classes lookup.noting inNamespace claims asked
      = (lookUpClaims classes lookup inNamespace claims,
          asked ++ (lookUpClaims classes lookup inNamespace claims).lookups) := by
  induction claims with
  | nil =>
    intro asked
    rw [lookUpClaims, List.append_nil]
    rfl
  | cons claim claims ih =>
    intro asked
    -- What is left to look up is noted behind this claim.
    have hrest : ∀ failed, (do
        let rest ← lookUpClaimsBy classes lookup.noting inNamespace claims
        pure (rest.afterLookup (inNamespace, claim) failed)) (asked ++ [(inNamespace, claim)])
          = (let verdict := (lookUpClaims classes lookup inNamespace claims).afterLookup (inNamespace, claim) failed
             (verdict, asked ++ verdict.lookups)) := by
      intro failed
      rw [bind_pure_asked, ih]
      simp only [Verdict.afterLookup, List.append_assoc, List.singleton_append]
    rw [lookUpClaimsBy, ClaimLookup.noting_bind, lookUpClaims]
    cases lookup inNamespace claim with
    | error fault => exact hrest true
    | ok named =>
      cases hclass : classes.contains (ClassSet.effective named) with
      | true =>
        simp only [hclass, if_true]
        rfl
      | false =>
        simp only [hclass, Bool.false_eq_true, if_false]
        exact hrest false

theorem decideBy_noting (pod : Pod) (asked : List (String × String)) :
    decideBy driver classes lookup.noting pod asked
      = (decide driver classes lookup pod, asked ++ (decide driver classes lookup pod).lookups) := by
  unfold decideBy decide
  split
  · rw [List.append_nil]
    rfl
  split
  · rw [List.append_nil]
    rfl
  · exact lookUpClaimsBy_noting classes lookup _ _ asked

end Policy

/-! ## 2. Reviews -/

namespace Admission

/-- Answers the body of an admission request. -/
def reviewBy (driver : String) (classes : ClassSet) (lookup : ClaimAction m ε) (body : List UInt8) :
    m (Except Rejection Answered) :=
  match podOf body with
  | .error rejection => pure (.error rejection)
  | .ok (types, request, pod) => do
    let verdict ← Policy.decideBy driver classes lookup (placed request pod)
    pure (conclude driver types request.uid verdict)

/-- The lookups that a review tells of. -/
def lookupsOf : Except Rejection Answered → List (String × String)
  | .ok answered => answered.verdict.lookups
  | .error _ => []

theorem reviewBy_noting (driver : String) (classes : ClassSet) (lookup : ClaimLookup ε) (body : List UInt8)
    (asked : List (String × String)) :
    reviewBy driver classes lookup.noting body asked
      = (review driver classes lookup body, asked ++ lookupsOf (review driver classes lookup body)) := by
  unfold reviewBy
  cases hpod : podOf body with
  | error rejection =>
    rw [review_of_podOf_error hpod, lookupsOf, List.append_nil]
    rfl
  | ok parts =>
    obtain ⟨types, request, pod⟩ := parts
    rw [review_of_podOf hpod, conclude_eq_ok, lookupsOf]
    refine (bind_pure_asked _ (conclude driver types request.uid) asked).trans ?_
    rw [Policy.decideBy_noting, conclude_eq_ok]

end Admission

end ReadyPin

import ReadyPin.Proofs.Api.ClaimAddress
import ReadyPin.Proofs.Api.ClaimValue
import ReadyPin.Proofs.Policy.Rule
import ReadyPin.Service.State

/-!
# What comes of a lookup

A lookup of a claim ends in one of three ways. It has found the class of the claim, it has found that there is no such
claim, or it reports a failure of the API. Which of them it is depends on five things in turn: whether the path of the
claim can be sent, whether an answer comes, whether the answer is text, what status it has, and what its body says. In
an error the code that the body gives counts, and the status only if the body gives none (`ApiAnswer.codeOf`), so that
the two may contradict each other.

`ApiAnswer.decode_cases` has all that can become of an answer, and `ClaimRequest.storageClass_cases` of a lookup. A
decision treats all failures alike: the pod does not use the driver by that claim.
-/

namespace ReadyPin

/-! ## 1. Targets -/

namespace Uri

/-- A text can be sent as a target: it is not too long, and up to a number sign it is a path, with a query after the
first question mark. -/
structure IsTarget (text : String) : Prop where
  length : (Utf8.bytes text).length ≤ maxLength
  path : ∀ b ∈ ((Utf8.bytes text).takeWhile (· ≠ 0x23)).takeWhile (· ≠ 0x3F), inPath b = true
  query : ∀ b ∈ (((Utf8.bytes text).takeWhile (· ≠ 0x23)).dropWhile (· ≠ 0x3F)).tail, inQuery b = true

theorem isOk_map {α β : Type} (x : Except Fault α) (f : α → β) : (x.map f).isOk = x.isOk := by
  cases x <;> rfl

theorem isOk_query (bs : List UInt8) :
    (query bs).isOk = true ↔ ∀ b ∈ bs.takeWhile (· ≠ 0x23), inQuery b = true := by
  induction bs with
  | nil => simp [query, Except.isOk, Except.toBool]
  | cons b bs ih =>
    unfold query
    by_cases hsign : b = 0x23
    · simp [hsign, Except.isOk, Except.toBool]
    rw [if_neg hsign, List.takeWhile_cons_of_pos (by simpa using hsign), List.forall_mem_cons]
    by_cases hin : inQuery b = true
    · rw [if_pos hin, isOk_map, ih]
      exact (and_iff_right hin).symm
    · rw [if_neg hin]
      exact iff_of_false Bool.false_ne_true fun h => hin h.1

theorem isOk_path (bs : List UInt8) : (path bs).isOk = true
    ↔ (∀ b ∈ (bs.takeWhile (· ≠ 0x23)).takeWhile (· ≠ 0x3F), inPath b = true)
      ∧ ∀ b ∈ ((bs.takeWhile (· ≠ 0x23)).dropWhile (· ≠ 0x3F)).tail, inQuery b = true := by
  induction bs with
  | nil => simp [path, Except.isOk, Except.toBool]
  | cons b bs ih =>
    unfold path
    by_cases hsign : b = 0x23
    · simp [hsign, Except.isOk, Except.toBool]
    rw [if_neg hsign, List.takeWhile_cons_of_pos (by simpa using hsign)]
    by_cases hmark : b = 0x3F
    · rw [if_pos hmark, isOk_map, isOk_query, List.takeWhile_cons_of_neg (by simpa using hmark),
        List.dropWhile_cons_of_neg (by simpa using hmark), List.tail_cons]
      exact (and_iff_right (List.forall_mem_nil _)).symm
    rw [if_neg hmark, List.takeWhile_cons_of_pos (by simpa using hmark), List.forall_mem_cons,
      List.dropWhile_cons_of_pos (by simpa using hmark)]
    by_cases hin : inPath b = true
    · rw [if_pos hin, isOk_map, ih, and_iff_right hin]
    · rw [if_neg hin]
      exact iff_of_false Bool.false_ne_true fun h => hin h.1.1

theorem isOk_target (text : String) : (target text).isOk = true ↔ IsTarget text := by
  have hpath := isOk_path (Utf8.bytes text)
  unfold target
  by_cases hlength : (Utf8.bytes text).length > maxLength
  · simp only [if_pos hlength]
    exact iff_of_false Bool.false_ne_true fun h => Nat.not_lt.mpr h.length hlength
  · simp only [if_neg hlength]
    have hsame : (path (Utf8.bytes text) >>= fun sent =>
        (pure (String.ofList (sent.map fun b => .ofNat b.toNat)) : Except Fault String)).isOk
          = (path (Utf8.bytes text)).isOk := by
      cases path (Utf8.bytes text) <;> rfl
    rw [hsame, hpath]
    constructor
    · rintro ⟨hpath, hquery⟩
      exact ⟨Nat.le_of_not_lt hlength, hpath, hquery⟩
    · rintro ⟨-, hpath, hquery⟩
      exact ⟨hpath, hquery⟩

end Uri

/-! ## 2. Answers -/

/-- Bytes are UTF-8: they are those of some text. -/
def Utf8.IsText (bytes : List UInt8) : Prop := ∃ text : String, Utf8.bytes text = bytes

namespace ApiAnswer

/-- The code of an error answer: that in its body, or else its status. -/
def codeOf (status : Nat) (body : List UInt8) : Nat :=
  match Reader.all ErrorStatus.read body with
  | .ok e => e.code
  | .error _ => status

theorem isError_iff {status : Nat} : isError status = true ↔ 400 ≤ status ∧ status ≤ 599 := by
  rw [isError, Bool.and_eq_true, decide_eq_true_eq, decide_eq_true_eq]

/-- All that can become of an answer. -/
theorem decode_cases {α : Type} (read : Reader α) (answer : ApiAnswer) :
    (∃ text, answer = .failed text ∧ answer.decode read = .error (.unanswered text))
    ∨ ∃ status body, answer = .answered status body
      ∧ ((¬ Utf8.IsText body ∧ ∃ fault, answer.decode read = .error (.notUtf8 fault))
        ∨ (Utf8.IsText body ∧ isError status = true
          ∧ ∃ e : ErrorStatus, e.code = codeOf status body ∧ answer.decode read = .error (.status e))
        ∨ (Utf8.IsText body ∧ isError status = false
          ∧ ((∃ v, Reader.all read body = .ok v ∧ answer.decode read = .ok v)
            ∨ ∃ fault, Reader.all read body = .error fault ∧ answer.decode read = .error (.undecodable fault)))) := by
  cases answer with
  | failed text => exact .inl ⟨text, rfl, rfl⟩
  | answered status body =>
    refine .inr ⟨status, body, rfl, ?_⟩
    cases htext : Utf8.string body with
    | error fault =>
      refine .inl ⟨?_, fault, by simp only [decode, htext]⟩
      rintro ⟨text, hbytes⟩
      cases htext.symm.trans (Utf8.string_eq_ok.mpr hbytes)
    | ok text =>
      have hbody : Utf8.IsText body := ⟨text, Utf8.string_eq_ok.mp htext⟩
      refine .inr ?_
      cases hstatus : isError status with
      | true =>
        simp only [decode, htext, hstatus, if_true, codeOf]
        refine .inl ⟨hbody, trivial, ?_⟩
        cases Reader.all ErrorStatus.read body with
        | ok e => exact ⟨e, rfl, rfl⟩
        | error fault => exact ⟨.ofBody status text, rfl, rfl⟩
      | false =>
        simp only [decode, htext, hstatus, Bool.false_eq_true, if_false]
        refine .inr ⟨hbody, trivial, ?_⟩
        cases Reader.all read body with
        | ok v => exact .inl ⟨v, rfl, rfl⟩
        | error fault => exact .inr ⟨fault, rfl, rfl⟩

end ApiAnswer

/-! ## 3. Lookups -/

namespace ClaimRequest

variable {inNamespace claim : String} {answer : ApiAnswer}

/-- An answer arrives for a claim: its request is sent, and what comes back is text. -/
def Arrives (inNamespace claim : String) (answer : ApiAnswer) (status : Nat) (body : List UInt8) : Prop :=
  Uri.IsTarget (path inNamespace claim) ∧ answer = .answered status body ∧ Utf8.IsText body

/-- What is looked up is found: the answer is no error, and its body is a claim. -/
def Found (inNamespace claim : String) (answer : ApiAnswer) (found : VolumeClaim) : Prop :=
  ∃ status body, Arrives inNamespace claim answer status body ∧ ¬ (400 ≤ status ∧ status ≤ 599)
    ∧ Reader.all VolumeClaim.read body = .ok found

theorem Found.unique {found other : VolumeClaim} (h : Found inNamespace claim answer found)
    (h' : Found inNamespace claim answer other) : found = other := by
  obtain ⟨status, body, ⟨-, rfl, -⟩, -, hread⟩ := h
  obtain ⟨_, _, ⟨-, heq, -⟩, -, hread'⟩ := h'
  cases heq
  exact Except.ok.inj (hread.symm.trans hread')

/-- There is no such claim: the answer is an error with the code 404. -/
def Missing (inNamespace claim : String) (answer : ApiAnswer) : Prop :=
  ∃ status body, Arrives inNamespace claim answer status body ∧ (400 ≤ status ∧ status ≤ 599)
    ∧ ApiAnswer.codeOf status body = 404

theorem found_iff (htarget : Uri.IsTarget (path inNamespace claim)) {status : Nat} {body : List UInt8}
    {found : VolumeClaim} : Found inNamespace claim (.answered status body) found
      ↔ Utf8.IsText body ∧ ApiAnswer.isError status = false ∧ Reader.all VolumeClaim.read body = .ok found := by
  rw [Bool.eq_false_iff, ne_eq, ApiAnswer.isError_iff]
  constructor
  · rintro ⟨_, _, ⟨-, heq, htext⟩, hstatus, hread⟩
    cases heq
    exact ⟨htext, hstatus, hread⟩
  · rintro ⟨htext, hstatus, hread⟩
    exact ⟨status, body, ⟨htarget, rfl, htext⟩, hstatus, hread⟩

theorem missing_iff (htarget : Uri.IsTarget (path inNamespace claim)) {status : Nat} {body : List UInt8} :
    Missing inNamespace claim (.answered status body)
      ↔ Utf8.IsText body ∧ ApiAnswer.isError status = true ∧ ApiAnswer.codeOf status body = 404 := by
  rw [ApiAnswer.isError_iff]
  constructor
  · rintro ⟨_, _, ⟨-, heq, htext⟩, hstatus, hcode⟩
    cases heq
    exact ⟨htext, hstatus, hcode⟩
  · rintro ⟨htext, hstatus, hcode⟩
    exact ⟨status, body, ⟨htarget, rfl, htext⟩, hstatus, hcode⟩

/-- Without an answer there is nothing to go by. -/
theorem unknown_of_not_arrives (h : ∀ status body, ¬ Arrives inNamespace claim answer status body) :
    (∀ found, ¬ Found inNamespace claim answer found) ∧ ¬ Missing inNamespace claim answer := by
  constructor
  · rintro found ⟨status, body, harrives, -⟩
    exact h status body harrives
  · rintro ⟨status, body, harrives, -⟩
    exact h status body harrives

/-- All that a lookup can come to. -/
theorem storageClass_cases (inNamespace claim : String) (answer : ApiAnswer) :
    (∃ found, Found inNamespace claim answer found ∧ ¬ Missing inNamespace claim answer
      ∧ storageClass inNamespace claim answer = .ok found.storageClass)
    ∨ (Missing inNamespace claim answer ∧ (∀ found, ¬ Found inNamespace claim answer found)
      ∧ storageClass inNamespace claim answer
        = .error (.notFound "PersistentVolumeClaim" (inNamespace ++ "/" ++ claim)))
    ∨ ((∀ found, ¬ Found inNamespace claim answer found) ∧ ¬ Missing inNamespace claim answer
      ∧ ∃ failure, storageClass inNamespace claim answer = .error (.api failure)) := by
  have hname : s!"{inNamespace}/{claim}" = inNamespace ++ "/" ++ claim := rfl
  have hisOk := Uri.isOk_target (path inNamespace claim)
  unfold storageClass target
  cases hsent : Uri.target (path inNamespace claim) with
  | error fault =>
    rw [hsent] at hisOk
    have hsilent : ∀ status body, ¬ Arrives inNamespace claim answer status body :=
      fun _ _ harrives => Bool.false_ne_true (hisOk.mpr harrives.1)
    obtain ⟨hnone, hmissing⟩ := unknown_of_not_arrives hsilent
    exact .inr (.inr ⟨hnone, hmissing, _, rfl⟩)
  | ok sent =>
    rw [hsent] at hisOk
    have htarget := hisOk.mp rfl
    rcases ApiAnswer.decode_cases VolumeClaim.read answer with ⟨text, rfl, hdecode⟩ | ⟨status, body, rfl, hcases⟩
    · have hsilent : ∀ status body, ¬ Arrives inNamespace claim (.failed text) status body := by
        rintro status body ⟨-, heq, -⟩
        cases heq
      obtain ⟨hnone, hmissing⟩ := unknown_of_not_arrives hsilent
      exact .inr (.inr ⟨hnone, hmissing, _, by rw [hdecode]; rfl⟩)
    simp only [found_iff htarget, missing_iff htarget]
    rcases hcases with ⟨htext, fault, hdecode⟩ | ⟨htext, hstatus, e, hcode, hdecode⟩
      | ⟨htext, hstatus, ⟨found, hread, hdecode⟩ | ⟨fault, hread, hdecode⟩⟩ <;> rw [hdecode]
    · exact .inr (.inr ⟨fun _ h => htext h.1, fun h => htext h.1, _, rfl⟩)
    · have hnone : ∀ found, ¬ (Utf8.IsText body ∧ ApiAnswer.isError status = false
          ∧ Reader.all VolumeClaim.read body = .ok found) := by
        rintro found ⟨-, hno, -⟩
        cases hstatus.symm.trans hno
      by_cases h404 : e.code = 404
      · refine .inr (.inl ⟨⟨htext, hstatus, hcode.symm.trans h404⟩, hnone, ?_⟩)
        simp only [errorOf, if_pos h404, hname]
      · refine .inr (.inr ⟨hnone, fun h => h404 (hcode.trans h.2.2), .status e, ?_⟩)
        simp only [errorOf, if_neg h404]
    · refine .inl ⟨found, ⟨htext, hstatus, hread⟩, ?_, rfl⟩
      rintro ⟨-, hno, -⟩
      cases hstatus.symm.trans hno
    · refine .inr (.inr ⟨?_, ?_, .undecodable fault, rfl⟩)
      · rintro found ⟨-, -, hfound⟩
        cases hread.symm.trans hfound
      · rintro ⟨-, hno, -⟩
        cases hstatus.symm.trans hno

-- A code in the body counts against the status, in both directions.
example : (storageClass "team-a" "data" (.answered 500 (Utf8.bytes "\x7b\"status\":\"Failure\",\"code\":404\x7d"))
      = .error (.notFound "PersistentVolumeClaim" "team-a/data"))
    ∧ storageClass "team-a" "data" (.answered 404 (Utf8.bytes "\x7b\"status\":\"Failure\",\"code\":500\x7d"))
      = .error (.api (.status { status := "Failure", code := 500 })) := by
  decide +kernel

theorem storageClass_eq_ok {named : Option String} : storageClass inNamespace claim answer = .ok named
    ↔ ∃ found, Found inNamespace claim answer found ∧ found.storageClass = named := by
  rcases storageClass_cases inNamespace claim answer with
    ⟨found, hfound, -, hresult⟩ | ⟨-, hnone, hresult⟩ | ⟨hnone, -, failure, hresult⟩ <;> rw [hresult]
  · constructor
    · rintro ⟨⟩
      exact ⟨found, hfound, rfl⟩
    · rintro ⟨other, hother, rfl⟩
      rw [hfound.unique hother]
  · exact iff_of_false nofun fun ⟨found, hfound, _⟩ => hnone found hfound
  · exact iff_of_false nofun fun ⟨found, hfound, _⟩ => hnone found hfound

theorem storageClass_eq_notFound {kind name : String} :
    storageClass inNamespace claim answer = .error (.notFound kind name)
      ↔ Missing inNamespace claim answer ∧ kind = "PersistentVolumeClaim" ∧ name = inNamespace ++ "/" ++ claim := by
  rcases storageClass_cases inNamespace claim answer with
    ⟨found, -, hmissing, hresult⟩ | ⟨hmissing, -, hresult⟩ | ⟨-, hmissing, failure, hresult⟩ <;> rw [hresult]
  · exact iff_of_false nofun fun h => hmissing h.1
  · rw [and_iff_right hmissing]
    constructor
    · rintro ⟨⟩
      exact ⟨rfl, rfl⟩
    · rintro ⟨rfl, rfl⟩
      rfl
  · exact iff_of_false nofun fun h => hmissing h.1

theorem storageClass_eq_api : (∃ failure, storageClass inNamespace claim answer = .error (.api failure))
    ↔ (∀ found, ¬ Found inNamespace claim answer found) ∧ ¬ Missing inNamespace claim answer := by
  rcases storageClass_cases inNamespace claim answer with
    ⟨found, hfound, -, hresult⟩ | ⟨hmissing, -, hresult⟩ | ⟨hnone, hmissing, failure, hresult⟩ <;> rw [hresult]
  · exact iff_of_false nofun fun h => h.1 found hfound
  · exact iff_of_false nofun fun h => h.2 hmissing
  · exact iff_of_true ⟨failure, rfl⟩ ⟨hnone, hmissing⟩

/-- The lookup whose requests are given certain answers. -/
def lookingUp (answers : String → String → ApiAnswer) : ClaimLookup Error :=
  fun inNamespace claim => storageClass inNamespace claim (answers inNamespace claim)

end ClaimRequest

/-! ## 4. Decisions -/

namespace Policy

variable {ε : Type} {driver : String} {classes : ClassSet} {lookup : ClaimLookup ε} {pod : Pod} {claim : String}

/-- Nothing but a claim can make a pod use the driver: the pod has no ready preference and no inline volume of the
driver, and if it has other claims, these do not count. -/
structure HangsOn (driver : String) (classes : ClassSet) (lookup : ClaimLookup ε) (pod : Pod) (claim : String) :
    Prop where
  no_preference : ¬ pod.AsksFor (driver ++ "/driver-ready")
  no_inline : ∀ volume ∈ pod.volumes, volume.inlineDriver ≠ some driver
  mounted : ∃ volume ∈ pod.volumes, volume.claim = some claim
  others : ∀ volume ∈ pod.volumes, ∀ other ∈ volume.claim, other ≠ claim →
    counts classes lookup pod.inNamespace other = false

-- A pod that asks for nothing but one volume hangs on the claim of that volume.
example : HangsOn driver classes lookup { spec := some { volumes := [{ claim := some claim }] } } claim where
  no_preference := by
    rw [← Pod.prefers_iff_asksFor]
    exact Bool.false_ne_true
  no_inline := by simp [Pod.volumes]
  mounted := ⟨_, List.mem_singleton_self _, rfl⟩
  others := by simp [Pod.volumes]

theorem HangsOn.prefers_eq_false (h : HangsOn driver classes lookup pod claim) :
    pod.prefers (Readiness.label driver) = false := by
  rw [Bool.eq_false_iff, ne_eq, Pod.prefers_iff_asksFor]
  exact h.no_preference

theorem HangsOn.decision_eq (h : HangsOn driver classes lookup pod claim) :
    (decide driver classes lookup pod).decision
      = if counts classes lookup pod.inNamespace claim then .mutate else .notUsingDriver := by
  have hbrings : pod.volumes.any (brings driver classes lookup pod.inNamespace)
      = counts classes lookup pod.inNamespace claim := by
    rw [Bool.eq_iff_iff, List.any_eq_true]
    constructor
    · rintro ⟨volume, hvolume, hbrings⟩
      rw [brings, Bool.or_eq_true, beq_iff_eq, Option.any_eq_true] at hbrings
      obtain ⟨other, hother, hcounts⟩ := hbrings.resolve_left (h.no_inline volume hvolume)
      by_cases heq : other = claim
      · exact heq ▸ hcounts
      · cases hcounts.symm.trans (h.others volume hvolume other hother heq)
    · intro hcounts
      obtain ⟨volume, hvolume, hclaim⟩ := h.mounted
      refine ⟨volume, hvolume, ?_⟩
      rw [brings, hclaim, Option.any_some, hcounts, Bool.or_true]
  rw [decide_decision, h.prefers_eq_false, hbrings]
  rfl

/-- A pod that hangs on a claim is given the patch exactly if the claim counts. -/
theorem HangsOn.mutate_iff (h : HangsOn driver classes lookup pod claim) :
    (decide driver classes lookup pod).decision = .mutate ↔ counts classes lookup pod.inNamespace claim = true := by
  rw [h.decision_eq]
  cases counts classes lookup pod.inNamespace claim <;> decide

theorem HangsOn.notUsingDriver_iff (h : HangsOn driver classes lookup pod claim) :
    (decide driver classes lookup pod).decision = .notUsingDriver
      ↔ ¬ counts classes lookup pod.inNamespace claim = true := by
  rw [h.decision_eq]
  cases counts classes lookup pod.inNamespace claim <;> decide

/-- If it is the only claim, it is looked up once. -/
theorem HangsOn.decide_eq (h : HangsOn driver classes lookup pod claim)
    (honly : pod.volumes.filterMap Volume.claim = [claim]) :
    (decide driver classes lookup pod).lookups = [(pod.inNamespace, claim)]
      ∧ (decide driver classes lookup pod).failures = if (lookup pod.inNamespace claim).isOk then 0 else 1 := by
  have hinline : pod.volumes.any (·.inlineDriver == some driver) = false := by
    rw [List.any_eq_false]
    intro volume hvolume
    simpa using h.no_inline volume hvolume
  rw [decide, h.prefers_eq_false, hinline, honly]
  simp only [Bool.false_eq_true, if_false, lookUpClaims]
  cases lookup pod.inNamespace claim with
  | error fault => exact ⟨rfl, rfl⟩
  | ok named =>
    dsimp only
    split <;> exact ⟨rfl, rfl⟩

end Policy

namespace ClaimRequest

/-- **What comes of a lookup.** Take any namespace, any claim and any answer: a failure of the transport, or a status
with whatever bytes as its body.

* The lookup comes to a class, or to none, exactly if what is looked up is found, and then it is that of the claim
  found. It is the one that stands in the JSON value of the body, if this is one: under `storageClassName` in what is
  under `spec`. Without the one or the other there is none.
* It comes to an error that says that there is no such claim, with its kind, its namespace and its name, exactly if the
  claim is missing: if the answer is an error, and has the code 404 in its body, or has no code there and that status.
* In all other cases, and in no others, it comes to a failure of the API.
* A pod that hangs on the claim is given the patch exactly if a class is found, or none, and that class, or the default
  one, is in the set. It does not use the driver otherwise, whatever the error. If the pod has no other claim, then this
  one is looked up once, a failed lookup is counted once, and nothing else changes. -/
theorem lookups_are_classified (answers : String → String → ApiAnswer) (inNamespace claim : String) :
    let answer := answers inNamespace claim
    let result := lookingUp answers inNamespace claim
    (∀ named, result = .ok named ↔ ∃ found, Found inNamespace claim answer found ∧ found.storageClass = named)
    ∧ (∀ status body v found, answer = .answered status body → Found inNamespace claim answer found →
      Json.parse body = .ok v → found.storageClass = VolumeClaim.named? v)
    ∧ (∀ kind name, result = .error (.notFound kind name)
      ↔ Missing inNamespace claim answer ∧ kind = "PersistentVolumeClaim" ∧ name = inNamespace ++ "/" ++ claim)
    ∧ ((∃ failure, result = .error (.api failure))
      ↔ (∀ found, ¬ Found inNamespace claim answer found) ∧ ¬ Missing inNamespace claim answer)
    ∧ ∀ (driver : String) (state : State) (pod : Pod), pod.inNamespace = inNamespace →
      Policy.HangsOn driver state.classes (lookingUp answers) pod claim →
      let (verdict, state') := state.decide driver (lookingUp answers) pod
      (verdict.decision = .mutate
        ↔ ∃ named, result = .ok named ∧ state.classes.contains (named.getD ClassSet.defaultClass) = true)
      ∧ (verdict.decision ≠ .mutate → verdict.decision = .notUsingDriver)
      ∧ (result.isOk = false → verdict.decision = .notUsingDriver)
      ∧ (pod.volumes.filterMap Volume.claim = [claim] → verdict.lookups = [(inNamespace, claim)]
        ∧ state' = { state with
            metrics := state.metrics.recordLookupFailures (if result.isOk then 0 else 1) }) := by
  refine ⟨fun named => storageClass_eq_ok, ?_, fun kind name => storageClass_eq_notFound, storageClass_eq_api, ?_⟩
  · rintro status body v found hanswer ⟨_, _, ⟨-, heq, -⟩, -, hread⟩ hv
    cases hanswer.symm.trans heq
    exact VolumeClaim.storageClass_of_read hread hv
  rintro driver state pod rfl h
  refine ⟨h.mutate_iff.trans Policy.counts_iff, ?_, ?_, fun honly => ?_⟩
  · intro hnot
    exact h.notUsingDriver_iff.mpr (mt h.mutate_iff.mpr hnot)
  · intro herror
    refine h.notUsingDriver_iff.mpr fun hcounts => ?_
    obtain ⟨named, hnamed, -⟩ := Policy.counts_iff.mp hcounts
    rw [hnamed] at herror
    cases herror
  · obtain ⟨hlookups, hfailures⟩ := h.decide_eq honly
    refine ⟨hlookups, ?_⟩
    rw [State.recordVerdict, hfailures]

end ClaimRequest

end ReadyPin

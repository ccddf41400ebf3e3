import ReadyPin.Api.ClaimLookup
import ReadyPin.Proofs.Classes.LastReport

/-!
# The default class and the empty name

That the default class of the cluster is one of the driver's stands in the class set under the reserved name, which is
the empty one. A claim that names no class is looked for under that name (`ClassSet.effective`). A claim can also
name the empty class: it asks for no class at all, the default one included. The lookup tells the two apart, but then
both are looked for under the same name.

So a decision to mutate rests on one of three things (`mutate_rests_on`): on a claim without a class, on the name of a
class of the driver that has been seen, or on an explicit empty name, and on that only by itself. Without the last one
the reserved name would stand for claims without a class only.
-/

namespace ReadyPin

namespace Policy

variable {ε : Type}

/-! ## 1. What a decision rests on -/

/-- One of the claims that have been looked up names the given class, or none. -/
def Names (lookup : ClaimLookup ε) (verdict : Verdict) (named : Option String) : Prop :=
  ∃ pair ∈ verdict.lookups, lookup pair.1 pair.2 = .ok named

/-- One of the claims that have been looked up counts for a class of the set. -/
def Finds (classes : ClassSet) (lookup : ClaimLookup ε) (verdict : Verdict) (named : Option String) : Prop :=
  Names lookup verdict named ∧ classes.contains (ClassSet.effective named) = true

/-- A class of the driver has been seen under a name: by itself, or in a listing. -/
def Seen (driver : String) (events : List ClassEvent) (name : String) : Prop :=
  ∃ c, ClassReport.seen c ∈ events.flatMap ClassEvent.reports ∧ c.metadata.name = some name ∧ c.provisioner = driver

/-! ## 2. The claim that decides -/

/-- A claim does not count for a class of the set: it cannot be looked up, or its class is another one. -/
def Misses (classes : ClassSet) (lookup : ClaimLookup ε) (pair : String × String) : Prop :=
  ∀ named, lookup pair.1 pair.2 = .ok named → classes.contains (ClassSet.effective named) = false

/-- The lookups go to the first claim that counts for a class of the set, or to the end. -/
def StopsAtFirst (classes : ClassSet) (lookup : ClaimLookup ε) (verdict : Verdict) : Prop :=
  (∃ missed last named, verdict.decision = .mutate ∧ verdict.lookups = missed ++ [last]
    ∧ (∀ pair ∈ missed, Misses classes lookup pair)
    ∧ lookup last.1 last.2 = .ok named ∧ classes.contains (ClassSet.effective named) = true)
  ∨ verdict.decision = .notUsingDriver ∧ ∀ pair ∈ verdict.lookups, Misses classes lookup pair

variable {classes : ClassSet} {lookup : ClaimLookup ε}

theorem StopsAtFirst.afterLookup {verdict : Verdict} (h : StopsAtFirst classes lookup verdict) {pair : String × String}
    (hpair : Misses classes lookup pair) (failed : Bool) :
    StopsAtFirst classes lookup (verdict.afterLookup pair failed) := by
  rcases h with ⟨missed, last, named, hdecision, hlookups, hmissed, hlast⟩ | ⟨hdecision, hmissed⟩
  · refine .inl ⟨pair :: missed, last, named, hdecision, ?_, List.forall_mem_cons.mpr ⟨hpair, hmissed⟩, hlast⟩
    rw [Verdict.afterLookup, hlookups, List.cons_append]
  · exact .inr ⟨hdecision, List.forall_mem_cons.mpr ⟨hpair, hmissed⟩⟩

theorem lookUpClaims_stops (classes : ClassSet) (lookup : ClaimLookup ε) (inNamespace : String) (claims : List String) :
    StopsAtFirst classes lookup (lookUpClaims classes lookup inNamespace claims) := by
  induction claims with
  | nil => exact .inr ⟨rfl, nofun⟩
  | cons claim claims ih =>
    rw [lookUpClaims]
    cases hlookup : lookup inNamespace claim with
    | error fault =>
      have hmisses : Misses classes lookup (inNamespace, claim) := fun other hother =>
        (nomatch hlookup.symm.trans hother)
      exact ih.afterLookup hmisses true
    | ok named =>
      dsimp only
      cases hclass : classes.contains (ClassSet.effective named) with
      | true => exact .inl ⟨[], (inNamespace, claim), named, rfl, rfl, nofun, hlookup, hclass⟩
      | false =>
        have hmisses : Misses classes lookup (inNamespace, claim) := by
          intro other hother
          cases hlookup.symm.trans hother
          exact hclass
        exact ih.afterLookup hmisses false

variable {verdict : Verdict}

theorem StopsAtFirst.mutate_iff (h : StopsAtFirst classes lookup verdict) :
    verdict.decision = .mutate ↔ ∃ named, Finds classes lookup verdict named := by
  rcases h with ⟨missed, last, named, hdecision, hlookups, -, hlast, hclass⟩ | ⟨hdecision, hmissed⟩
  · refine ⟨fun _ => ⟨named, ⟨last, ?_, hlast⟩, hclass⟩, fun _ => hdecision⟩
    rw [hlookups]
    exact List.mem_append_right missed (List.mem_singleton_self last)
  · refine ⟨fun hmutate => (nomatch hdecision.symm.trans hmutate), fun hfinds => ?_⟩
    obtain ⟨named, ⟨pair, hpair, hnamed⟩, hclass⟩ := hfinds
    exact absurd ((hmissed pair hpair named hnamed).symm.trans hclass) Bool.false_ne_true

/-- Only the last of the claims can count for a class of the set, so that there is one answer that decides. -/
theorem StopsAtFirst.finds_unique (h : StopsAtFirst classes lookup verdict) {named other : Option String}
    (hnamed : Finds classes lookup verdict named) (hother : Finds classes lookup verdict other) : named = other := by
  obtain ⟨⟨pair, hpair, hpairNamed⟩, hclass⟩ := hnamed
  obtain ⟨⟨pair', hpair', hpairOther⟩, hclass'⟩ := hother
  rcases h with ⟨missed, last, -, -, hlookups, hmissed, -⟩ | ⟨-, hmissed⟩
  · have hlast : ∀ pair ∈ verdict.lookups, ∀ named, lookup pair.1 pair.2 = .ok named →
        classes.contains (ClassSet.effective named) = true → pair = last := by
      intro pair hpair named hnamed hclass
      rw [hlookups] at hpair
      rcases List.mem_append.mp hpair with hpair | hpair
      · exact absurd ((hmissed pair hpair named hnamed).symm.trans hclass) Bool.false_ne_true
      · exact List.mem_singleton.mp hpair
    obtain rfl := hlast pair hpair named hpairNamed hclass
    obtain rfl := hlast pair' hpair' other hpairOther hclass'
    exact Except.ok.inj (hpairNamed.symm.trans hpairOther)
  · exact absurd ((hmissed pair hpair named hpairNamed).symm.trans hclass) Bool.false_ne_true

theorem decide_stops {driver : String} {pod : Pod} (hprefers : pod.prefers (Readiness.label driver) = false)
    (hinline : pod.volumes.any (·.inlineDriver == some driver) = false) :
    StopsAtFirst classes lookup (decide driver classes lookup pod) := by
  rw [decide, hprefers, hinline]
  exact lookUpClaims_stops classes lookup pod.inNamespace (pod.volumes.filterMap Volume.claim)

/-! ## 3. What is in the set -/

/-- A name that is not reserved is in the set only after a class of the driver has been seen under it. -/
theorem seen_of_contains {driver : String} {events : List ClassEvent} {name : String}
    (hname : name ≠ ClassSet.defaultClass)
    (h : (events.foldl (State.apply driver) {}).classes.contains name = true) : Seen driver events name := by
  rcases (State.contains_foldl_apply events {} name).mp h with
    ⟨earlier, r, later, hreports, hwrites, hseen, -⟩ | ⟨-, hbefore⟩
  · obtain ⟨hown, hdriver⟩ := (ClassReport.writes_iff_of_ne hname r).mp hwrites
    cases r with
    | seen c => exact ⟨c, by rw [hreports]; simp, hown, hdriver⟩
    | deleted c => cases hseen
  · cases hbefore

/-! ## 4. What a decision to mutate rests on -/

/-- **The reserved name.** After events in which no class has an empty name, a pod that neither has a ready preference
nor an inline volume of the driver is given the patch exactly if one of the claims that are looked up

* names no class, and the reserved name is in the set; or
* names a class of the set, of which the driver's has been seen; or
* names the empty class, and the reserved name is in the set, and then it is for none of the other reasons.

So that it is given the patch for one of the first two, or at least with a claim that names a class of the driver that
has been seen, is true exactly unless it is given for the third, without such a claim. -/
theorem mutate_rests_on (driver : String) (events : List ClassEvent) (lookup : ClaimLookup ε) (pod : Pod)
    (hnames : ∀ r ∈ events.flatMap ClassEvent.reports, r.storageClass.metadata.name ≠ some ClassSet.defaultClass)
    (hprefers : pod.prefers (Readiness.label driver) = false)
    (hinline : pod.volumes.any (·.inlineDriver == some driver) = false) :
    let classes := (events.foldl (State.apply driver) {}).classes
    let verdict := decide driver classes lookup pod
    let byDefault := Names lookup verdict none ∧ classes.contains ClassSet.defaultClass = true
    let byEmptyName := Names lookup verdict (some "") ∧ classes.contains ClassSet.defaultClass = true
    let byName := ∃ name, Names lookup verdict (some name) ∧ classes.contains name = true ∧ Seen driver events name
    (verdict.decision = .mutate ↔ byDefault ∨ byName ∨ byEmptyName)
    ∧ (byEmptyName → ¬ (byDefault ∨ byName))
    ∧ ((verdict.decision = .mutate → byDefault ∨ ∃ name, Names lookup verdict (some name) ∧ Seen driver events name)
      ↔ (byEmptyName → ∃ name, Names lookup verdict (some name) ∧ Seen driver events name)) := by
  intro classes verdict byDefault byEmptyName byName
  have hstops : StopsAtFirst classes lookup verdict := decide_stops hprefers hinline
  have hseen_ne : ∀ name, Seen driver events name → name ≠ ClassSet.defaultClass := by
    intro name hseen hname
    obtain ⟨c, hc, hown, -⟩ := hseen
    exact hnames _ hc (hname ▸ hown)
  have hmutate : verdict.decision = .mutate ↔ byDefault ∨ byName ∨ byEmptyName := by
    refine hstops.mutate_iff.trans ⟨fun h => ?_, fun h => ?_⟩
    · obtain ⟨named, hnamed, hclass⟩ := h
      cases named with
      | none => exact .inl ⟨hnamed, hclass⟩
      | some name =>
        refine .inr ?_
        by_cases hname : name = ClassSet.defaultClass
        · subst hname
          exact .inr ⟨hnamed, hclass⟩
        · exact .inl ⟨name, hnamed, hclass, seen_of_contains hname hclass⟩
    · rcases h with ⟨hnamed, hclass⟩ | ⟨name, hnamed, hclass, -⟩ | ⟨hnamed, hclass⟩
      · exact ⟨none, hnamed, hclass⟩
      · exact ⟨some name, hnamed, hclass⟩
      · exact ⟨some "", hnamed, hclass⟩
  have halone : byEmptyName → ¬ (byDefault ∨ byName) := by
    rintro hempty (hdefault | ⟨name, hnamed, hclass, hseen⟩)
    · cases hstops.finds_unique hempty hdefault
    · obtain hname : some "" = some name := hstops.finds_unique hempty ⟨hnamed, hclass⟩
      exact hseen_ne name hseen (Option.some.inj hname).symm
  refine ⟨hmutate, halone, fun h hempty => ?_, fun h hdecision => ?_⟩
  · exact (h (hmutate.mpr (.inr (.inr hempty)))).resolve_left fun hdefault => halone hempty (.inl hdefault)
  · rcases hmutate.mp hdecision with hdefault | ⟨name, hnamed, -, hseen⟩ | hempty
    · exact .inl hdefault
    · exact .inr ⟨name, hnamed, hseen⟩
    · exact .inr (h hempty)

/-- A default class of the driver comes. -/
def defaultComes (driver : String) : List ClassEvent :=
  [.applied
    { metadata := { name := some "fast", annotations := [(StorageClass.defaultAnnotation, "true")] }
      provisioner := driver }]

/-- The API answers for every claim that it names the empty class. -/
def optingOut : ClaimLookup Error := fun inNamespace claim =>
  let object : Json := .object
    [("apiVersion", .string "v1"), ("kind", .string "PersistentVolumeClaim"),
      ("metadata", .object [("name", .string claim), ("namespace", .string inNamespace)]),
      ("spec", .object [("storageClassName", .string "")])]
  ClaimRequest.storageClass inNamespace claim (.answered 200 (Utf8.encode object.print))

/-- A pod with one claim. -/
def podWithClaim : Pod :=
  { metadata := { inNamespace := some "team-a" }, spec := some { volumes := [{ claim := some "data" }] } }

theorem optingOut_data : optingOut "team-a" "data" = .ok (some "") := by
  have hnamed : (optingOut "team-a" "data").toOption = some (some "") := by decide +kernel
  cases hlookup : optingOut "team-a" "data" with
  | ok named =>
    rw [hlookup] at hnamed
    rw [Option.some.inj hnamed]
  | error e =>
    rw [hlookup] at hnamed
    cases hnamed

/-- Where the claim of a pod opts out of the default class, the decision rests on the empty name alone. -/
theorem mutate_rests_on_empty_name :
    (∀ r ∈ (defaultComes "d").flatMap ClassEvent.reports, r.storageClass.metadata.name ≠ some ClassSet.defaultClass)
    ∧ podWithClaim.prefers (Readiness.label "d") = false
    ∧ podWithClaim.volumes.any (·.inlineDriver == some "d") = false
    ∧ (decide "d" ((defaultComes "d").foldl (State.apply "d") {}).classes optingOut podWithClaim).decision
      = .mutate := by
  have hnames : ∀ r ∈ (defaultComes "d").flatMap ClassEvent.reports,
      r.storageClass.metadata.name ≠ some ClassSet.defaultClass := by decide
  refine ⟨hnames, by decide, by decide, ?_⟩
  refine (mutate_rests_on "d" (defaultComes "d") optingOut podWithClaim hnames (by decide) (by decide)).1.mpr ?_
  exact .inr (.inr ⟨⟨("team-a", "data"), by decide +kernel, optingOut_data⟩, by decide⟩)

/-- So a claim that opts out of the default class makes a pod use the driver by itself. -/
theorem empty_name_counts_as_default :
    let events := defaultComes "gcs.csi.ofek.dev"
    let classes := (events.foldl (State.apply "gcs.csi.ofek.dev") {}).classes
    let verdict := decide "gcs.csi.ofek.dev" classes optingOut podWithClaim
    (∀ r ∈ events.flatMap ClassEvent.reports, r.storageClass.metadata.name ≠ some ClassSet.defaultClass)
    ∧ podWithClaim.prefers (Readiness.label "gcs.csi.ofek.dev") = false
    ∧ podWithClaim.volumes.any (·.inlineDriver == some "gcs.csi.ofek.dev") = false
    ∧ verdict.decision = .mutate
    ∧ ¬ (Names optingOut verdict none ∧ classes.contains ClassSet.defaultClass = true
      ∨ ∃ name, Names optingOut verdict (some name) ∧ Seen "gcs.csi.ofek.dev" events name) := by
  intro events classes verdict
  have hverdict : verdict = { decision := .mutate, lookups := [("team-a", "data")] } := by decide +kernel
  have hnames : ∀ named, Names optingOut verdict named → named = some "" := by
    rw [hverdict]
    rintro named ⟨pair, hpair, hnamed⟩
    obtain rfl := List.mem_singleton.mp hpair
    exact Except.ok.inj (hnamed.symm.trans optingOut_data)
  refine ⟨by decide, by decide, by decide, by rw [hverdict], ?_⟩
  rintro (⟨hnone, -⟩ | ⟨name, hname, c, hc, hown, -⟩)
  · cases hnames none hnone
  · obtain rfl := Option.some.inj (hnames (some name) hname)
    obtain rfl := ClassReport.seen.inj (List.mem_singleton.mp hc)
    exact absurd hown (by decide)

end Policy

end ReadyPin

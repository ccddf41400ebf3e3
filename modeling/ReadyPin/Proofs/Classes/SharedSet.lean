import Mathlib.Data.Finset.Card
import ReadyPin.Classes.ClassSet
import ReadyPin.Proofs.Text.OrderedMapTheorems

/-!
# Sharing the class set

The set is shared by the watch, which writes it, and by the requests, which read it. Each operation is done as a whole
before the next one. So what several clients do is one sequence of operations in the end, in which those of each client
stand in their order (`Interleaving`).

Through every such sequence the set is the one of mathematics: `ClassSet.perform_fits` says so of one operation, and
`ClassSet.members_performAll` carries it through a run. Whether a name is in the set in the end depends on the last
operation that writes it (`mem_build`). That one is the last of its client, too, so that clients who end with the same
kind of operation on a name need not wait for one another (`ClassSet.shared_faithfully`).
-/

namespace ReadyPin

/-! ## 1. Operations -/

/-- An operation on the class set. -/
inductive SetOp where
  | add (name : String)
  | remove (name : String)
  | contains (name : String)
  | len
  | isEmpty
  | snapshot
  deriving Repr, DecidableEq

/-- What an operation gives back. -/
inductive SetReply where
  | flag (value : Bool)
  | count (value : Nat)
  | names (value : List String)
  deriving Repr, DecidableEq

namespace ClassSet

/-- What an operation gives back, and the set after it. -/
def perform (self : ClassSet) : SetOp → SetReply × ClassSet
  | .add name => (self.add name).map .flag id
  | .remove name => (self.remove name).map .flag id
  | .contains name => (.flag (OrderedMap.contains self name), self)
  | .len => (.count self.size, self)
  | .isEmpty => (.flag self.isEmpty, self)
  | .snapshot => (.names self.names, self)

/-- What the operations of a sequence give back, and the set after them. -/
def performAll (self : ClassSet) : List SetOp → List SetReply × ClassSet
  | [] => ([], self)
  | op :: ops =>
    let rest := (self.perform op).2.performAll ops
    ((self.perform op).1 :: rest.1, rest.2)

end ClassSet

/-! ## 2. The set of mathematics -/

namespace SetOp

/-- The operation only reads. -/
def reads : SetOp → Bool
  | add _ | remove _ => false
  | contains _ | len | isEmpty | snapshot => true

/-- What an operation makes of a set. -/
def effect (op : SetOp) (members : Finset String) : Finset String :=
  match op with
  | add name => insert name members
  | remove name => members.erase name
  | contains _ | len | isEmpty | snapshot => members

/-- The reply of an operation is the right one for a set. -/
def Fits (op : SetOp) (members : Finset String) (reply : SetReply) : Prop :=
  match op with
  | add name => reply = .flag (decide (name ∉ members))
  | remove name => reply = .flag (decide (name ∈ members))
  | contains name => reply = .flag (decide (name ∈ members))
  | len => reply = .count members.card
  | isEmpty => reply = .flag (decide (members.card = 0))
  | snapshot => ∃ names, reply = .names names ∧ (∀ name, name ∈ names ↔ name ∈ members)
      ∧ names.Pairwise (Utf8.bytes · < Utf8.bytes ·) ∧ names.Nodup

/-- The set that operations build. -/
def build (members : Finset String) (ops : List SetOp) : Finset String :=
  ops.foldl (fun members op => op.effect members) members

theorem build_append (members : Finset String) (before after : List SetOp) :
    build members (before ++ after) = build (build members before) after :=
  List.foldl_append

end SetOp

/-- Coming first is being the smaller list of bytes. -/
theorem ByteOrder.before_iff_lt (a b : String) : before a b = true ↔ Utf8.bytes a < Utf8.bytes b := by
  rw [before_iff]
  generalize Utf8.bytes a = as, Utf8.bytes b = bs
  induction as generalizing bs with
  | nil => cases bs <;> simp [compare]
  | cons a as ih =>
    cases bs with
    | nil => simp [compare]
    | cons b bs =>
      rw [List.cons_lt_cons_iff, ← ih, compare]
      by_cases hlt : a < b
      · simp [hlt]
      by_cases hgt : b < a
      · simp [hlt, hgt, (UInt8.ne_of_lt hgt).symm]
      · simp [UInt8.le_antisymm (UInt8.not_lt.mp hgt) (UInt8.not_lt.mp hlt)]

namespace ClassSet

/-- The names in the set. -/
def members (self : ClassSet) : Finset String := self.names.toFinset

theorem mem_names_iff (self : ClassSet) (name : String) : name ∈ self.names ↔ self.contains name = true := by
  simp [names, OrderedMap.keys, OrderedMap.contains]

theorem mem_members_iff (self : ClassSet) (name : String) : name ∈ self.members ↔ self.contains name = true := by
  rw [members, List.mem_toFinset, mem_names_iff]

theorem names_increasing (self : ClassSet) : self.names.Pairwise (Utf8.bytes · < Utf8.bytes ·) := by
  refine List.pairwise_map.mpr (self.increasing.imp fun h => ?_)
  exact (ByteOrder.before_iff_lt _ _).mp h

theorem names_nodup (self : ClassSet) : self.names.Nodup :=
  List.pairwise_map.mpr (self.increasing.imp ByteOrder.ne_of_before)

theorem card_members (self : ClassSet) : self.members.card = self.size := by
  rw [members, List.toFinset_card_of_nodup self.names_nodup]
  exact List.length_map _

/-- The set is determined by the names in it. -/
theorem eq_of_members_eq {one other : ClassSet} (h : one.members = other.members) : one = other := by
  refine OrderedMap.ext_find? fun name => ?_
  have hcontains : one.contains name = other.contains name := by
    rw [Bool.eq_iff_iff, ← mem_members_iff, ← mem_members_iff, h]
  rw [OrderedMap.contains_eq_isSome, OrderedMap.contains_eq_isSome] at hcontains
  cases hone : one.find? name <;> cases hother : other.find? name <;> simp_all

/-- One operation: its reply is the right one for the names in the set, and it makes of them what it should. -/
theorem perform_fits (self : ClassSet) (op : SetOp) :
    op.Fits self.members (self.perform op).1 ∧ (self.perform op).2.members = op.effect self.members := by
  have hcontains (name : String) : self.contains name = decide (name ∈ self.members) := by
    rw [Bool.eq_iff_iff, decide_eq_true_iff, mem_members_iff]
  cases op with
  | add name =>
    refine ⟨?_, ?_⟩
    · show SetReply.flag (!self.contains name) = _
      rw [hcontains, decide_not]
    · ext other
      show other ∈ members (self.insert name ()) ↔ other ∈ insert name self.members
      rw [mem_members_iff, OrderedMap.contains_insert, Finset.mem_insert, mem_members_iff, Bool.or_eq_true, beq_iff_eq]
  | remove name =>
    refine ⟨congrArg SetReply.flag (hcontains name), ?_⟩
    ext other
    show other ∈ members (self.erase name) ↔ other ∈ self.members.erase name
    rw [mem_members_iff, OrderedMap.contains_erase, Finset.mem_erase, mem_members_iff, Bool.and_eq_true, bne_iff_ne]
  | contains name => exact ⟨congrArg SetReply.flag (hcontains name), rfl⟩
  | len => exact ⟨congrArg SetReply.count self.card_members.symm, rfl⟩
  | isEmpty =>
    refine ⟨congrArg SetReply.flag ?_, rfl⟩
    rw [card_members, Bool.eq_iff_iff, isEmpty, List.isEmpty_iff_length_eq_zero, decide_eq_true_iff]
    rfl
  | snapshot =>
    exact ⟨⟨self.names, rfl, fun name => List.mem_toFinset.symm, self.names_increasing, self.names_nodup⟩, rfl⟩

theorem perform_of_reads (self : ClassSet) {op : SetOp} (h : op.reads = true) : (self.perform op).2 = self := by
  cases op with
  | add name | remove name => cases h
  | contains name | len | isEmpty | snapshot => rfl

/-! ## 3. Sequences of operations -/

theorem performAll_append (self : ClassSet) (before after : List SetOp) :
    self.performAll (before ++ after)
      = ((self.performAll before).1 ++ ((self.performAll before).2.performAll after).1,
        ((self.performAll before).2.performAll after).2) := by
  induction before generalizing self with
  | nil => rfl
  | cons op before ih => rw [List.cons_append, performAll, performAll, ih, List.cons_append]

theorem length_performAll (self : ClassSet) (ops : List SetOp) : (self.performAll ops).1.length = ops.length := by
  induction ops generalizing self with
  | nil => rfl
  | cons op ops ih => exact congrArg Nat.succ (ih _)

/-- After a sequence of operations the set holds what they build. -/
theorem members_performAll (self : ClassSet) (ops : List SetOp) :
    (self.performAll ops).2.members = SetOp.build self.members ops := by
  induction ops generalizing self with
  | nil => rfl
  | cons op ops ih =>
    show ((self.perform op).2.performAll ops).2.members = SetOp.build (op.effect self.members) ops
    rw [ih, (self.perform_fits op).2]

/-- An operation within a sequence replies by the set before it. -/
theorem reply_performAll (self : ClassSet) (before : List SetOp) (op : SetOp) (after : List SetOp) :
    (self.performAll (before ++ op :: after)).1[before.length]?
      = some ((self.performAll before).2.perform op).1 := by
  rw [performAll_append, ← length_performAll self before, List.getElem?_append_right (Nat.le_refl _), Nat.sub_self]
  rfl

end ClassSet

/-! ## 4. The last write of a name -/

namespace SetOp

/-- Whether an operation that writes the name leaves it in the set. -/
def leaves? (name : String) : SetOp → Option Bool
  | add other => if other = name then some true else none
  | remove other => if other = name then some false else none
  | contains _ | len | isEmpty | snapshot => none

/-- What the last operation that writes the name leaves. -/
def lastWrite (name : String) (ops : List SetOp) : Option Bool := (ops.filterMap (leaves? name)).getLast?

theorem lastWrite_concat (name : String) (ops : List SetOp) (op : SetOp) :
    lastWrite name (ops ++ [op]) = (op.leaves? name).or (lastWrite name ops) := by
  unfold lastWrite
  rw [List.filterMap_append, List.getLast?_append]
  cases hop : op.leaves? name <;> simp [hop]

theorem lastWrite_eq_none_iff (name : String) (ops : List SetOp) :
    lastWrite name ops = none ↔ ∀ op ∈ ops, op.leaves? name = none := by
  rw [lastWrite, List.getLast?_eq_none_iff, List.filterMap_eq_nil_iff]

theorem mem_effect (op : SetOp) (members : Finset String) (name : String) :
    name ∈ op.effect members ↔ (op.leaves? name).getD (decide (name ∈ members)) = true := by
  cases op with
  | add other => by_cases h : other = name <;> simp [effect, leaves?, h, Ne.symm]
  | remove other => by_cases h : other = name <;> simp [effect, leaves?, h, Ne.symm]
  | contains _ | len | isEmpty | snapshot => simp [effect, leaves?]

/-- Whether a name is in the set in the end is up to the last write of it. -/
theorem mem_build (members : Finset String) (ops : List SetOp) (name : String) :
    name ∈ build members ops ↔ (lastWrite name ops).getD (decide (name ∈ members)) = true := by
  induction ops using List.reverseRecOn with
  | nil => simp [build, lastWrite]
  | append_singleton ops op ih =>
    rw [build_append, lastWrite_concat]
    show name ∈ op.effect (build members ops) ↔ _
    rw [mem_effect]
    cases op.leaves? name with
    | some left => rfl
    | none => simpa using ih

end SetOp

/-! ## 5. Interleavings -/

variable {κ : Type} [DecidableEq κ]

/-- The operations of the clients are done one after the other, in any order in which those of each client are in its
own: next comes the first one that is left of some client. -/
inductive Interleaving : (κ → List SetOp) → List (κ × SetOp) → Prop
  | done {programs : κ → List SetOp} (h : ∀ client, programs client = []) : Interleaving programs []
  | next {programs : κ → List SetOp} {client : κ} {op : SetOp} {rest : List SetOp} {schedule : List (κ × SetOp)}
      (h : programs client = op :: rest) (hrest : Interleaving (Function.update programs client rest) schedule) :
      Interleaving programs ((client, op) :: schedule)

/-- The operations of one client. -/
def ownSteps (client : κ) (schedule : List (κ × SetOp)) : List SetOp :=
  (schedule.filter fun step => step.1 = client).map Prod.snd

theorem ownSteps_concat (client other : κ) (schedule : List (κ × SetOp)) (op : SetOp) :
    ownSteps client (schedule ++ [(other, op)]) = ownSteps client schedule ++ if other = client then [op] else [] := by
  rw [ownSteps, List.filter_append, List.map_append]
  by_cases h : other = client <;> simp [ownSteps, h]

/-- In an interleaving each client does what it has to do. -/
theorem Interleaving.ownSteps_eq {programs : κ → List SetOp} {schedule : List (κ × SetOp)}
    (h : Interleaving programs schedule) (client : κ) : ownSteps client schedule = programs client := by
  induction h with
  | done h => exact (h client).symm
  | @next programs other op rest schedule h _ ih =>
    by_cases hclient : other = client
    · subst hclient
      rw [Function.update_self] at ih
      rw [h, ← ih]
      simp [ownSteps]
    · rw [Function.update_of_ne (Ne.symm hclient)] at ih
      rw [← ih]
      simp [ownSteps, hclient]

/-- The last write of a name is the last one of its client. -/
theorem exists_lastWrite_ownSteps {name : String} {schedule : List (κ × SetOp)} {left : Bool}
    (h : SetOp.lastWrite name (schedule.map Prod.snd) = some left) :
    ∃ client, SetOp.lastWrite name (ownSteps client schedule) = some left := by
  induction schedule using List.reverseRecOn with
  | nil => cases h
  | append_singleton schedule step ih =>
    obtain ⟨writer, op⟩ := step
    rw [List.map_append, List.map_singleton, SetOp.lastWrite_concat] at h
    cases hop : op.leaves? name with
    | some now =>
      refine ⟨writer, ?_⟩
      rw [ownSteps_concat, if_pos rfl, SetOp.lastWrite_concat, hop]
      rwa [hop] at h
    | none =>
      rw [hop] at h
      obtain ⟨client, hclient⟩ := ih h
      refine ⟨client, ?_⟩
      rw [ownSteps_concat]
      split
      · rw [SetOp.lastWrite_concat, hop]
        exact hclient
      · rw [List.append_nil]
        exact hclient

theorem mem_of_mem_ownSteps {client : κ} {schedule : List (κ × SetOp)} {op : SetOp}
    (h : op ∈ ownSteps client schedule) : op ∈ schedule.map Prod.snd :=
  (List.filter_sublist.map Prod.snd).subset h

/-- Clients that agree on how they leave a name leave it so together. -/
theorem Interleaving.lastWrite_of_agree {programs : κ → List SetOp} {schedule : List (κ × SetOp)}
    (h : Interleaving programs schedule) {name : String} {left : Option Bool}
    (hagree : ∀ client, SetOp.lastWrite name (programs client) = none ∨ SetOp.lastWrite name (programs client) = left)
    (hwriter : ∃ client, SetOp.lastWrite name (programs client) = left) :
    SetOp.lastWrite name (schedule.map Prod.snd) = left := by
  cases hlast : SetOp.lastWrite name (schedule.map Prod.snd) with
  | none =>
    obtain ⟨client, hclient⟩ := hwriter
    rw [← hclient, eq_comm, SetOp.lastWrite_eq_none_iff]
    intro op hop
    rw [← h.ownSteps_eq] at hop
    exact (SetOp.lastWrite_eq_none_iff name _).mp hlast op (mem_of_mem_ownSteps hop)
  | some now =>
    obtain ⟨client, hclient⟩ := exists_lastWrite_ownSteps hlast
    rw [h.ownSteps_eq] at hclient
    rcases hagree client with hnone | hleft
    · cases hclient.symm.trans hnone
    · exact hclient.symm.trans hleft

/-- However many clients add a name and remove it again, they leave the set as one of them would. -/
theorem Interleaving.performAll_pairs {programs : κ → List SetOp} {schedule : List (κ × SetOp)}
    (h : Interleaving programs schedule) {name : String}
    (hpairs : ∀ client, programs client = [] ∨ programs client = [.add name, .remove name])
    (hwriter : ∃ client, programs client ≠ []) (start : ClassSet) :
    (start.performAll (schedule.map Prod.snd)).2 = (start.performAll [.add name, .remove name]).2 := by
  have hlast (other : String) : SetOp.lastWrite other (schedule.map Prod.snd)
      = SetOp.lastWrite other [.add name, .remove name] := by
    refine h.lastWrite_of_agree (fun client => ?_) ?_
    · exact (hpairs client).imp (fun hnil => by rw [hnil]; rfl) fun hpair => by rw [hpair]
    · obtain ⟨client, hclient⟩ := hwriter
      exact ⟨client, by rw [(hpairs client).resolve_left hclient]⟩
  refine ClassSet.eq_of_members_eq ?_
  ext other
  rw [ClassSet.members_performAll, ClassSet.members_performAll, SetOp.mem_build, SetOp.mem_build, hlast]

/-! ## 6. The shared set -/

/-- **The shared set.** Let any number of clients work on one class set, each with its operations one after the other,
and let these be interleaved in any way. Then

* each operation finds the set that the operations before it build, and its reply is the right one for that set;
* in the end the set is the one that they all build;
* an operation that only reads leaves the set as it is;
* a name that is written, and that each client who writes it leaves in the same way, is left in that way;
* clients who all add a name and remove it again leave the set as one of them would. -/
theorem ClassSet.shared_faithfully (start : ClassSet) {programs : κ → List SetOp} {schedule : List (κ × SetOp)}
    (h : Interleaving programs schedule) :
    let ops := schedule.map Prod.snd
    let replies := (start.performAll ops).1
    let final := (start.performAll ops).2
    (∀ before client op after, schedule = before ++ (client, op) :: after →
      let found := (start.performAll (before.map Prod.snd)).2
      found.members = SetOp.build start.members (before.map Prod.snd)
      ∧ (∃ reply, replies[before.length]? = some reply ∧ op.Fits found.members reply)
      ∧ (op.reads = true → (found.perform op).2 = found))
    ∧ replies.length = schedule.length
    ∧ final.members = SetOp.build start.members ops
    ∧ (∀ name left,
      (∀ client, SetOp.lastWrite name (programs client) = none
        ∨ SetOp.lastWrite name (programs client) = some left) →
      (∃ client, SetOp.lastWrite name (programs client) = some left) → final.contains name = left)
    ∧ ∀ name, (∀ client, programs client = [] ∨ programs client = [.add name, .remove name]) →
      (∃ client, programs client ≠ []) → final = (start.performAll [.add name, .remove name]).2 := by
  intro ops replies final
  refine ⟨?_, ?_, start.members_performAll ops, ?_, fun name hpairs hwriter => h.performAll_pairs hpairs hwriter start⟩
  · intro before client op after hschedule found
    have hops : ops = before.map Prod.snd ++ op :: after.map Prod.snd := by
      show schedule.map Prod.snd = _
      rw [hschedule, List.map_append, List.map_cons]
    refine ⟨start.members_performAll _, ⟨(found.perform op).1, ?_, (found.perform_fits op).1⟩, found.perform_of_reads⟩
    show (start.performAll ops).1[before.length]? = _
    rw [hops, ← List.length_map (Prod.snd : κ × SetOp → SetOp)]
    exact start.reply_performAll _ op _
  · exact (start.length_performAll ops).trans (List.length_map _)
  · intro name left hagree hwriter
    have hmem : name ∈ final.members ↔ left = true := by
      rw [start.members_performAll ops, SetOp.mem_build, h.lastWrite_of_agree hagree hwriter]
      rfl
    rw [Bool.eq_iff_iff, ← mem_members_iff, hmem]

/-- Two deliveries of one class that comes and goes, one overtaking the other. -/
theorem ClassSet.twice_delivered_faithfully :
    let programs : Bool → List SetOp := fun _ => [.add "gcs", .remove "gcs"]
    let schedule : List (Bool × SetOp) :=
      [(true, .add "gcs"), (false, .add "gcs"), (false, .remove "gcs"), (true, .remove "gcs")]
    Interleaving programs schedule
    ∧ (({} : ClassSet).performAll (schedule.map Prod.snd)).1 = [.flag true, .flag false, .flag true, .flag false]
    ∧ (({} : ClassSet).performAll (schedule.map Prod.snd)).2
      = (({} : ClassSet).performAll [.add "gcs", .remove "gcs"]).2 := by
  intro programs schedule
  have h : Interleaving programs schedule :=
    .next rfl (.next rfl (.next rfl (.next rfl (.done fun client => by cases client <;> rfl))))
  refine ⟨h, by decide, ?_⟩
  exact (ClassSet.shared_faithfully {} h).2.2.2.2 "gcs" (fun _ => .inr rfl) ⟨true, List.cons_ne_nil _ _⟩

end ReadyPin

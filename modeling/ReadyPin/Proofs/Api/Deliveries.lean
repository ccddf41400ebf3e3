import Mathlib.Data.List.Infix
import ReadyPin.Api.Watch

/-!
# What a watch delivers

A run of a watch is told item by item what the answers say, `Watch.told`, and its states are those of a stream of
these items (`Watch.run_eq`). Which events are among the items can be said of the answers themselves: `Delivered` lists
the two ways, a list of which every page has come, and a line of an answer that tells of a change. Everything else,
such as a page that cannot be read, a list that breaks off and the lines behind one that ends an answer, delivers
nothing (`Watch.event_mem_told_iff`).
-/

namespace ReadyPin

open State (StreamItem)

/-! ## 1. Streams in parts -/

namespace State

variable {driver : String}

/-- A stream that is not cancelled can be taken in two parts. -/
theorem consume_append_eq {items : List StreamItem} (h : .cancel ∉ items) (more : List StreamItem) (state : State) :
    state.consume driver (items ++ more)
      = let first := state.consume driver items
        let rest := first.state.consume driver more
        { rest with taken := first.taken + rest.taken } := by
  induction items generalizing state with
  | nil => simp only [List.nil_append, consume, Nat.zero_add]
  | cons item items ih =>
    have hitems : .cancel ∉ items := mt (List.mem_cons_of_mem item) h
    cases item with
    | event event =>
      simp only [List.cons_append, consume, ih hitems]
      rw [Nat.add_right_comm]
    | error text =>
      simp only [List.cons_append, consume, ih hitems]
      rw [Nat.add_right_comm]
    | cancel => exact absurd List.mem_cons_self h

theorem consume_append {items : List StreamItem} (h : .cancel ∉ items) (rest : List StreamItem) (state : State) :
    (state.consume driver (items ++ rest)).state = ((state.consume driver items).state.consume driver rest).state := by
  rw [consume_append_eq h]

end State

namespace Watch

/-! ## 2. Lines -/

/-- Whether a line ends its answer, whatever comes after it: it is no text, it tells of a class without a version, or
it says that the version of the watch is gone. -/
def breaksOff (line : List UInt8) : Bool :=
  match Utf8.decode (withoutReturn line) with
  | .error _ => true
  | .ok _ =>
    match Reader.all WatchLine.read (withoutReturn line) with
    | .ok (.applied c) => (nonempty c.metadata.resourceVersion).isNone
    | .ok (.deleted c) => (nonempty c.metadata.resourceVersion).isNone
    | .ok (.error status) => status.code = gone
    | _ => false

/-- The lines up to the one that ends their answer. -/
def heard : List (List UInt8) → List (List UInt8)
  | [] => []
  | line :: ls => if breaksOff line then [line] else line :: heard ls

/-- Whether a line tells of a change: that a class was made or changed, or that it was deleted. The class must have a
version for the watch to go on from. -/
def Changes (line : List UInt8) (event : ClassEvent) : Prop :=
  (Utf8.decode (withoutReturn line)).isOk = true ∧ ∃ c, nonempty c.metadata.resourceVersion ≠ none
    ∧ (Reader.all WatchLine.read (withoutReturn line) = .ok (.applied c) ∧ event = .applied c
      ∨ Reader.all WatchLine.read (withoutReturn line) = .ok (.deleted c) ∧ event = .deleted c)

/-- What can be said of a line: the change that it tells of, an error, or nothing. -/
inductive Says (line : List UInt8) : List StreamItem → Prop where
  | change (event : ClassEvent) : (∀ other, Changes line other ↔ other = event) → Says line [.event event]
  | error (text : String) : (∀ event, ¬ Changes line event) → Says line [.error text]
  | nothing : (∀ event, ¬ Changes line event) → Says line []

/-- A line says its part, and then the lines after it are told of unless it ends the answer. -/
theorem exists_says (line : List UInt8) : ∃ items, Says line items ∧ ∀ version ls, ∃ next,
    (afterLines version (line :: ls)).1 = items ++ if breaksOff line then [] else (afterLines next ls).1 := by
  cases hdecode : Utf8.decode (withoutReturn line) with
  | error fault =>
    refine ⟨_, .error fault.message fun event => ?_, fun version ls => ⟨version, ?_⟩⟩
    · simp [Changes, hdecode, Except.isOk, Except.toBool]
    · simp [afterLines, breaksOff, hdecode]
  | ok text =>
    cases hread : Reader.all WatchLine.read (withoutReturn line) with
    | error fault =>
      have hnone : ∀ event, ¬ Changes line event := by
        simp [Changes, hread]
      cases hend : fault.isEnd with
      | true =>
        refine ⟨[], .nothing hnone, fun version ls => ⟨version, ?_⟩⟩
        simp [afterLines, breaksOff, hdecode, hread, hend]
      | false =>
        refine ⟨_, .error fault.message hnone, fun version ls => ⟨version, ?_⟩⟩
        simp [afterLines, breaksOff, hdecode, hread, hend, before]
    | ok parsed =>
      cases parsed with
      | applied c =>
        cases hversion : nonempty c.metadata.resourceVersion with
        | none =>
          refine ⟨_, .error "the object has no version" fun event => ?_, fun version ls => ⟨version, ?_⟩⟩
          · simp [Changes, hread, hversion]
          · simp [afterLines, breaksOff, hdecode, hread, hversion]
        | some next =>
          refine ⟨_, .change (.applied c) fun other => ?_, fun version ls => ⟨next, ?_⟩⟩
          · simp [Changes, hread, hdecode, hversion, Except.isOk, Except.toBool]
          · simp [afterLines, breaksOff, hdecode, hread, hversion, before]
      | deleted c =>
        cases hversion : nonempty c.metadata.resourceVersion with
        | none =>
          refine ⟨_, .error "the object has no version" fun event => ?_, fun version ls => ⟨version, ?_⟩⟩
          · simp [Changes, hread, hversion]
          · simp [afterLines, breaksOff, hdecode, hread, hversion]
        | some next =>
          refine ⟨_, .change (.deleted c) fun other => ?_, fun version ls => ⟨next, ?_⟩⟩
          · simp [Changes, hread, hdecode, hversion, Except.isOk, Except.toBool]
          · simp [afterLines, breaksOff, hdecode, hread, hversion, before]
      | bookmark next =>
        refine ⟨_, .nothing fun event => ?_, fun version ls => ⟨next, ?_⟩⟩
        · simp [Changes, hread]
        · simp [afterLines, breaksOff, hdecode, hread]
      | error status =>
        refine ⟨_, .error status.message fun event => ?_, fun version ls => ⟨version, ?_⟩⟩
        · simp [Changes, hread]
        · by_cases hgone : status.code = gone
          · simp [afterLines, breaksOff, hdecode, hread, hgone]
          · simp [afterLines, breaksOff, hdecode, hread, hgone, before]

theorem Says.event_mem_iff {line : List UInt8} {items : List StreamItem} (h : Says line items) {event : ClassEvent} :
    .event event ∈ items ↔ Changes line event := by
  cases h with
  | change event honly => rw [List.mem_singleton, StreamItem.event.injEq, honly]
  | error text hnone => simp [hnone]
  | nothing hnone => simp [hnone]

theorem Says.cancel_not_mem {line : List UInt8} {items : List StreamItem} (h : Says line items) : .cancel ∉ items := by
  cases h <;> simp

/-- What a line says, alone in its answer. -/
def said (line : List UInt8) : List StreamItem := (afterLines "" [line]).1

theorem said_spec (line : List UInt8) : Says line (said line) ∧ ∀ version ls, ∃ next,
    (afterLines version (line :: ls)).1 = said line ++ if breaksOff line then [] else (afterLines next ls).1 := by
  obtain ⟨items, hsaid, hafter⟩ := exists_says line
  obtain ⟨next, hnext⟩ := hafter "" []
  rw [afterLines, ite_self, List.append_nil] at hnext
  rw [said, hnext]
  exact ⟨hsaid, hafter⟩

/-- An answer says what each of its lines says that is heard. -/
theorem afterLines_eq (version : String) (ls : List (List UInt8)) :
    (afterLines version ls).1 = (heard ls).flatMap said := by
  induction ls generalizing version with
  | nil => rfl
  | cons line ls ih =>
    obtain ⟨next, hnext⟩ := (said_spec line).2 version ls
    rw [hnext, heard]
    split
    · rw [List.flatMap_singleton, List.append_nil]
    · rw [List.flatMap_cons, ih]

theorem event_mem_afterLines_iff {version : String} {ls : List (List UInt8)} {event : ClassEvent} :
    .event event ∈ (afterLines version ls).1 ↔ ∃ line ∈ heard ls, Changes line event := by
  rw [afterLines_eq, List.mem_flatMap]
  exact exists_congr fun line => and_congr_right fun _ => (said_spec line).1.event_mem_iff

theorem cancel_not_mem_afterLines (version : String) (ls : List (List UInt8)) :
    .cancel ∉ (afterLines version ls).1 := by
  rw [afterLines_eq, List.mem_flatMap]
  rintro ⟨line, -, hcancel⟩
  exact (said_spec line).1.cancel_not_mem hcancel

/-- A line that tells only how far the watch has come. -/
def IsBookmark (line : List UInt8) : Prop :=
  (Utf8.decode (withoutReturn line)).isOk = true
    ∧ ∃ version, Reader.all WatchLine.read (withoutReturn line) = .ok (.bookmark version)

/-- An answer says the same without its bookmarks. -/
theorem afterLines_bookmark {line : List UInt8} (h : IsBookmark line) (version : String)
    (before rest : List (List UInt8)) :
    (afterLines version (before ++ line :: rest)).1 = (afterLines version (before ++ rest)).1 := by
  obtain ⟨hdecode, next, hread⟩ := h
  obtain ⟨text, hdecode⟩ : ∃ text, Utf8.decode (withoutReturn line) = .ok text := by
    cases h : Utf8.decode (withoutReturn line) with
    | error fault => simp [h, Except.isOk, Except.toBool] at hdecode
    | ok text => exact ⟨text, rfl⟩
  have hsaid : said line = [] := by
    simp [said, afterLines, hdecode, hread]
  have hon : breaksOff line = false := by
    simp [breaksOff, hdecode, hread]
  rw [afterLines_eq, afterLines_eq]
  induction before with
  | nil => simp [heard, hon, hsaid]
  | cons other before ih =>
    rw [List.cons_append, List.cons_append, heard, heard]
    split
    · rfl
    · rw [List.flatMap_cons, List.flatMap_cons, ih]

/-- After an answer with lines the watch goes on, or it starts again. -/
theorem afterLines_snd (version : String) (ls : List (List UInt8)) :
    (afterLines version ls).2 = start ∨ ∃ next, (afterLines version ls).2 = .following next := by
  induction ls generalizing version with
  | nil => exact .inr ⟨version, rfl⟩
  | cons line ls ih =>
    unfold afterLines
    dsimp only
    split
    · exact .inr ⟨version, rfl⟩
    split
    · split
      · exact ih _
      · exact .inl rfl
    · split
      · exact ih _
      · exact .inl rfl
    · exact ih _
    · split
      · exact .inl rfl
      · exact ih _
    · split
      · exact ih _
      · exact ih _

/-! ## 3. Pages -/

/-- Whether an answer is a page that more pages come after. -/
def GoesOn (answer : ApiAnswer) (page : ClassPage) : Prop :=
  answer.decode ClassPage.read = .ok page ∧ nonempty page.metadata.continueAt ≠ none

/-- Whether an answer is the last page of a list, which must have a version. -/
def IsLast (answer : ApiAnswer) (page : ClassPage) : Prop :=
  answer.decode ClassPage.read = .ok page ∧ nonempty page.metadata.continueAt = none
    ∧ nonempty page.metadata.resourceVersion ≠ none

section Pages

variable (token : Option String) (gathered : List StorageClass) {answer : ApiAnswer} {page : ClassPage}

/-- A page that goes on says nothing yet; its classes are gathered. -/
theorem after_of_goesOn (h : GoesOn answer page) :
    ∃ next, (listing token gathered).after answer = ([], .listing (some next) (gathered ++ page.classes)) := by
  obtain ⟨hpage, hnext⟩ := h
  obtain ⟨next, hnext⟩ := Option.ne_none_iff_exists'.mp hnext
  exact ⟨next, by simp [after, hpage, afterPage, hnext]⟩

/-- The last page tells of the classes of all pages. -/
theorem after_of_isLast (h : IsLast answer page) : ∃ version,
    (listing token gathered).after answer = ([.event (.restarted (gathered ++ page.classes))], .following version) := by
  obtain ⟨hpage, hnext, hversion⟩ := h
  obtain ⟨version, hversion⟩ := Option.ne_none_iff_exists'.mp hversion
  exact ⟨version, by simp [after, hpage, afterPage, hnext, hversion]⟩

/-- All that can come of the answer to a list request. What is no page ends the list, which starts again. -/
theorem after_listing_cases (answer : ApiAnswer) :
    (∃ page next, GoesOn answer page
      ∧ (listing token gathered).after answer = ([], .listing (some next) (gathered ++ page.classes)))
    ∨ (∃ page version, IsLast answer page ∧ (listing token gathered).after answer
        = ([.event (.restarted (gathered ++ page.classes))], .following version))
    ∨ ∃ text, (listing token gathered).after answer = ([.error text], start) := by
  cases hdecode : answer.decode ClassPage.read with
  | error failure => exact .inr (.inr ⟨failure.message, by simp [after, hdecode]⟩)
  | ok page =>
    cases hnext : nonempty page.metadata.continueAt with
    | some token' =>
      have hpage : GoesOn answer page := ⟨hdecode, by simp [hnext]⟩
      obtain ⟨next, hafter⟩ := after_of_goesOn token gathered hpage
      exact .inl ⟨page, next, hpage, hafter⟩
    | none =>
      cases hversion : nonempty page.metadata.resourceVersion with
      | some version' =>
        have hpage : IsLast answer page := ⟨hdecode, hnext, by simp [hversion]⟩
        obtain ⟨version, hafter⟩ := after_of_isLast token gathered hpage
        exact .inr (.inl ⟨page, version, hpage, hafter⟩)
      | none =>
        exact .inr (.inr ⟨"the list has no version", by simp [after, hdecode, afterPage, hnext, hversion]⟩)

/-- The answer to a list request tells of a list exactly if it is the last page. -/
theorem event_mem_after_listing_iff {event : ClassEvent} : .event event ∈ ((listing token gathered).after answer).1 ↔
    ∃ page, IsLast answer page ∧ event = .restarted (gathered ++ page.classes) := by
  constructor
  · intro h
    obtain ⟨page, next, -, hafter⟩ | ⟨page, version, hpage, hafter⟩ | ⟨text, hafter⟩ :=
      after_listing_cases token gathered answer
    · rw [hafter] at h
      cases h
    · rw [hafter, List.mem_singleton] at h
      exact ⟨page, hpage, StreamItem.event.inj h⟩
    · rw [hafter, List.mem_singleton] at h
      cases h
  · rintro ⟨page, hpage, rfl⟩
    obtain ⟨version, hafter⟩ := after_of_isLast token gathered hpage
    rw [hafter]
    exact List.mem_singleton_self _

theorem cancel_not_mem_after_listing : .cancel ∉ ((listing token gathered).after answer).1 := by
  obtain ⟨page, next, -, hafter⟩ | ⟨page, version, -, hafter⟩ | ⟨text, hafter⟩ :=
    after_listing_cases token gathered answer
  all_goals simp [hafter]

/-- After the answer to a list request the list goes on, or it has come to an end. -/
theorem listing_of_after_listing {next : Option String} {classes : List StorageClass}
    (h : ((listing token gathered).after answer).2 = .listing next classes) :
    ((listing token gathered).after answer).2 = start
      ∨ ∃ page, GoesOn answer page ∧ classes = gathered ++ page.classes := by
  obtain ⟨page, next, hpage, hafter⟩ | ⟨page, version, -, hafter⟩ | ⟨text, hafter⟩ :=
    after_listing_cases token gathered answer
  · rw [hafter] at h
    cases h
    exact .inr ⟨page, hpage, rfl⟩
  · rw [hafter] at h
    cases h
  · rw [hafter]
    exact .inl rfl

end Pages

/-- No answer asks for the end of the program. -/
theorem cancel_not_mem_after (watch : Watch) (answer : ApiAnswer) : .cancel ∉ (watch.after answer).1 := by
  cases watch with
  | listing token gathered => exact cancel_not_mem_after_listing token gathered
  | following version =>
    cases answer with
    | failed text => simp [after]
    | answered status body => exact cancel_not_mem_afterLines version _

/-- A watch in the middle of a list has been there before, or it has just begun. -/
theorem listing_of_after {watch : Watch} {answer : ApiAnswer} {token : Option String} {classes : List StorageClass}
    (h : (watch.after answer).2 = .listing token classes) : (watch.after answer).2 = start
      ∨ ∃ before gathered page, watch = .listing before gathered ∧ GoesOn answer page
        ∧ classes = gathered ++ page.classes := by
  cases watch with
  | listing before gathered =>
    refine (listing_of_after_listing before gathered h).imp_right fun hpage => ?_
    obtain ⟨page, hgoes, rfl⟩ := hpage
    exact ⟨before, gathered, page, rfl, hgoes, rfl⟩
  | following version =>
    cases answer with
    | failed text => cases h
    | answered status body =>
      rcases afterLines_snd version (lines body) with hstart | ⟨next, hnext⟩
      · exact .inl hstart
      · cases hnext.symm.trans h

/-! ## 4. Runs -/

/-- The items that some answers say, one answer after the other. -/
def told (self : Watch) : List ApiAnswer → List StreamItem
  | [] => []
  | answer :: answers => (self.after answer).1 ++ (self.after answer).2.told answers

/-- Where a watch stands after some answers. -/
def reached (self : Watch) (answers : List ApiAnswer) : Watch := answers.foldl (fun watch a => (watch.after a).2) self

variable {watch : Watch}

theorem reached_append (answers rest : List ApiAnswer) :
    watch.reached (answers ++ rest) = (watch.reached answers).reached rest := List.foldl_append

theorem reached_concat (answers : List ApiAnswer) (answer : ApiAnswer) :
    watch.reached (answers ++ [answer]) = ((watch.reached answers).after answer).2 := reached_append answers [answer]

theorem told_append (answers rest : List ApiAnswer) :
    watch.told (answers ++ rest) = watch.told answers ++ (watch.reached answers).told rest := by
  induction answers generalizing watch with
  | nil => rfl
  | cons answer answers ih =>
    rw [List.cons_append, told, ih, told, List.append_assoc]
    rfl

theorem told_concat (answers : List ApiAnswer) (answer : ApiAnswer) :
    watch.told (answers ++ [answer]) = watch.told answers ++ ((watch.reached answers).after answer).1 := by
  rw [told_append, told, told, List.append_nil]

/-- Every item has been said by one of the answers. -/
theorem mem_told_iff {item : StreamItem} {answers : List ApiAnswer} : item ∈ watch.told answers ↔
    ∃ before answer rest, answers = before ++ answer :: rest ∧ item ∈ ((watch.reached before).after answer).1 := by
  constructor
  · intro h
    induction answers generalizing watch with
    | nil => cases h
    | cons answer answers ih =>
      rcases List.mem_append.mp h with h | h
      · exact ⟨[], answer, answers, rfl, h⟩
      · obtain ⟨before, answer', rest, rfl, hitem⟩ := ih h
        exact ⟨answer :: before, answer', rest, rfl, hitem⟩
  · intro h
    obtain ⟨before, answer, rest, rfl, hitem⟩ := h
    rw [told_append, told]
    exact List.mem_append_right _ (List.mem_append_left _ hitem)

theorem cancel_not_mem_told (answers : List ApiAnswer) : .cancel ∉ watch.told answers := by
  rw [mem_told_iff]
  rintro ⟨before, answer, -, -, h⟩
  exact cancel_not_mem_after _ answer h

/-- The states of a run are those of the stream of the items that have been said. -/
theorem run_eq (driver : String) (watch : Watch) (state : State) (answers : List ApiAnswer) :
    watch.run driver state answers = answers.inits.map fun seen =>
      ((watch.reached seen).request, (state.consume driver (watch.told seen)).state) := by
  induction answers generalizing watch state with
  | nil => rfl
  | cons answer answers ih =>
    have hstep : watch.run driver state (answer :: answers) = (watch.request, state)
        :: (watch.after answer).2.run driver (state.consume driver (watch.after answer).1).state answers := rfl
    rw [hstep, ih, List.inits, List.map_cons, List.map_map]
    refine congrArg _ (List.map_congr_left fun seen _ => ?_)
    rw [Function.comp_apply, told, State.consume_append (cancel_not_mem_after watch answer)]
    rfl

/-! ## 5. Deliveries -/

/-- The classes that some pages have, of a list that goes on after them. -/
inductive Pages : List ApiAnswer → List StorageClass → Prop where
  | none : Pages [] []
  | more {answers : List ApiAnswer} {classes : List StorageClass} {answer : ApiAnswer} {page : ClassPage} :
    Pages answers classes → GoesOn answer page → Pages (answers ++ [answer]) (classes ++ page.classes)

/-- What the answers to a watch from its beginning deliver: a list, if it was asked for and all of its pages have come,
and a change, if the changes were asked for and a line that is heard tells of it. -/
inductive Delivered (answers : List ApiAnswer) : ClassEvent → Prop where
  | list {before pages rest : List ApiAnswer} {last : ApiAnswer} {classes : List StorageClass} {page : ClassPage} :
    answers = before ++ pages ++ last :: rest → start.reached before = start → Pages pages classes →
      IsLast last page → Delivered answers (.restarted (classes ++ page.classes))
  | line {before rest : List ApiAnswer} {status : Nat} {body line : List UInt8} {version : String}
    {event : ClassEvent} :
    answers = before ++ .answered status body :: rest → start.reached before = .following version →
      line ∈ heard (lines body) → Changes line event → Delivered answers event

/-- A watch that goes through the pages of a list gathers their classes. -/
theorem Pages.exists_reached {pages : List ApiAnswer} {classes : List StorageClass} (h : Pages pages classes) :
    ∃ token, start.reached pages = .listing token classes := by
  induction h with
  | none => exact ⟨Option.none, rfl⟩
  | more hpages hgoes ih =>
    obtain ⟨token, hreached⟩ := ih
    obtain ⟨next, hafter⟩ := after_of_goesOn token _ hgoes
    rw [reached_concat, hreached, hafter]
    exact ⟨some next, rfl⟩

/-- A watch that is in the middle of a list has gathered the classes of its pages so far. -/
theorem pages_of_reached (answers : List ApiAnswer) : ∀ {token : Option String} {gathered : List StorageClass},
    start.reached answers = .listing token gathered → ∃ before pages, answers = before ++ pages
      ∧ start.reached before = start ∧ Pages pages gathered := by
  induction answers using List.reverseRecOn with
  | nil =>
    intro token gathered h
    cases h
    exact ⟨[], [], rfl, rfl, .none⟩
  | append_singleton answers answer ih =>
    intro token gathered h
    rw [reached_concat] at h
    rcases listing_of_after h with hstart | ⟨token', gathered', page, hreached, hgoes, rfl⟩
    · -- The list has just begun, so no page of it has come.
      rw [← reached_concat] at hstart h
      cases hstart.symm.trans h
      exact ⟨answers ++ [answer], [], (List.append_nil _).symm, hstart, .none⟩
    · obtain ⟨before, pages, rfl, hbefore, hpages⟩ := ih hreached
      exact ⟨before, pages ++ [answer], List.append_assoc .., hbefore, .more hpages hgoes⟩

/-- The events that a run is told of are those that its answers deliver. -/
theorem event_mem_told_iff {answers : List ApiAnswer} {event : ClassEvent} :
    .event event ∈ start.told answers ↔ Delivered answers event := by
  rw [mem_told_iff]
  constructor
  · rintro ⟨before, answer, rest, rfl, h⟩
    cases hreached : start.reached before with
    | listing token gathered =>
      rw [hreached, event_mem_after_listing_iff] at h
      obtain ⟨page, hlast, rfl⟩ := h
      obtain ⟨earlier, pages, rfl, hearlier, hpages⟩ := pages_of_reached before hreached
      exact .list rfl hearlier hpages hlast
    | following version =>
      rw [hreached] at h
      cases answer with
      | failed text => simp [after] at h
      | answered status body =>
        obtain ⟨line, hline, hchanges⟩ := event_mem_afterLines_iff.mp h
        exact .line rfl hreached hline hchanges
  · intro h
    cases h with
    | list hanswers hbefore hpages hlast =>
      obtain ⟨token, hreached⟩ := hpages.exists_reached
      refine ⟨_, _, _, hanswers, ?_⟩
      rw [reached_append, hbefore, hreached, event_mem_after_listing_iff]
      exact ⟨_, hlast, rfl⟩
    | line hanswers hreached hline hchanges =>
      refine ⟨_, _, _, hanswers, ?_⟩
      rw [hreached]
      exact event_mem_afterLines_iff.mpr ⟨_, hline, hchanges⟩

end Watch

end ReadyPin

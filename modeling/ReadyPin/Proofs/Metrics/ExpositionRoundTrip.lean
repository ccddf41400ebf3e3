import Mathlib.Data.List.Basic
import ReadyPin.Metrics.Exposition
import ReadyPin.Proofs.Text.OrderedMapTheorems

/-!
# Reading the text of the metrics

A scraper reads the text line by line (`Exposition.readSamples`): a line that begins with a number sign says nothing of
a value, and every other line that is not empty is a sample. What stands between the quotes of a label can be any text
at all. It cannot end its line, since a newline in it is written as a letter, and it cannot end its quotes either, since
a quote in it has a backslash before it (`readValue_escaped`).

So every line is read as the sample it was written for (`readSample_line`), the lines are those that were written
(`splitOn_unlines`), and all values come back (`exposition_reads_back`). The numbers are the reason for the limit on
values: above `2 ^ 53` different values can have the same text.
-/

namespace ReadyPin

namespace Exposition

/-! ## 1. A reader -/

/-- What a value is a value of: a family, or one label in it. -/
structure Series where
  family : String
  label : Option Label := none
  deriving Repr, DecidableEq

/-- What can stand in the name of a family or a label. -/
def inName (c : Char) : Bool := c.isAlphanum || c == '_'

/-- Reads the value of a label up to the quote that closes it. -/
def readValue : List Char → Option (List Char × List Char)
  | '"' :: cs => some ([], cs)
  | '\\' :: '\\' :: cs => (readValue cs).map fun (value, rest) => ('\\' :: value, rest)
  | '\\' :: 'n' :: cs => (readValue cs).map fun (value, rest) => ('\n' :: value, rest)
  | '\\' :: '"' :: cs => (readValue cs).map fun (value, rest) => ('"' :: value, rest)
  | '\\' :: _ => none
  | c :: cs => (readValue cs).map fun (value, rest) => (c :: value, rest)
  | [] => none

/-- Reads a label in braces, if one stands here. -/
def readLabel : List Char → Option (Option Label × List Char)
  | '\x7b' :: cs => do
    let '=' :: '"' :: quoted := cs.dropWhile inName | none
    let (value, '\x7d' :: rest) ← readValue quoted | none
    return (some ⟨.ofList (cs.takeWhile inName), .ofList value⟩, rest)
  | cs => return (none, cs)

/-- Reads an integer in decimal digits. -/
def readInt : List Char → Option Int
  | '-' :: digits => (readNat digits).map fun n : Nat => -(n : Int)
  | digits => (readNat digits).map fun n : Nat => (n : Int)
where
  readNat (digits : List Char) : Option Nat :=
    if digits ≠ [] ∧ digits.all Char.isDigit then some (Nat.ofDigitChars 10 digits 0) else none

/-- Reads the line of a sample: a name, a label in braces if there is one, a space and a number. -/
def readSample (line : List Char) : Option (Series × Int) := do
  let (label, ' ' :: digits) ← readLabel (line.dropWhile inName) | none
  let value ← readInt digits
  return (⟨.ofList (line.takeWhile inName), label⟩, value)

/-- Whether a line is one of a sample: it is neither empty nor does it begin with a number sign. -/
def isSample (line : List Char) : Bool := !line.isEmpty && line.head? != some '#'

/-- The lines of samples. -/
def sampleLines (text : String) : List (List Char) := (text.toList.splitOn '\n').filter isSample

/-- Reads the samples of a text. -/
def readSamples (text : String) : Option (List (Series × Int)) := (sampleLines text).mapM readSample

/-! ## 2. One line -/

/-- The quote that closes a value is not one of its own. -/
theorem readValue_escaped (value rest : List Char) :
    readValue (value.flatMap escape ++ '"' :: rest) = some (value, rest) := by
  induction value with
  | nil => rfl
  | cons c value ih =>
    rw [List.flatMap_cons, List.append_assoc]
    by_cases hbackslash : c = '\\'
    · simp [escape, readValue, ih, hbackslash]
    by_cases hnewline : c = '\n'
    · simp [escape, readValue, ih, hnewline]
    by_cases hquote : c = '"'
    · simp [escape, readValue, ih, hquote]
    · simp [escape, readValue, ih, hbackslash, hnewline, hquote]

/-- A name is read up to what cannot stand in it. -/
theorem inName_span {name : List Char} (h : ∀ c ∈ name, inName c = true) {c : Char} (hc : inName c = false)
    (rest : List Char) :
    (name ++ c :: rest).takeWhile inName = name ∧ (name ++ c :: rest).dropWhile inName = c :: rest := by
  rw [List.takeWhile_append_of_pos h, List.dropWhile_append_of_pos h, List.takeWhile_cons, List.dropWhile_cons, hc]
  exact ⟨List.append_nil _, rfl⟩

theorem readLabel_labelText {label : Option Label} (h : ∀ l ∈ label, ∀ c ∈ l.name.toList, inName c = true)
    (rest : List Char) : readLabel (labelText label ++ ' ' :: rest) = some (label, ' ' :: rest) := by
  cases label with
  | none => rfl
  | some l =>
    have hname := inName_span (h l rfl) (c := '=') (by decide)
      ('"' :: (l.value.toList.flatMap escape ++ '"' :: '\x7d' :: ' ' :: rest))
    simp [labelText, readLabel, hname, readValue_escaped]

theorem readNat_toDigits (n : Nat) : readInt.readNat (Nat.toDigits 10 n) = some n := by
  have hdigits : (Nat.toDigits 10 n).all Char.isDigit = true :=
    List.all_eq_true.mpr fun c hc => Nat.isDigit_of_mem_toDigits (by decide) (by decide) hc
  rw [readInt.readNat, if_pos ⟨Nat.toDigits_ne_nil, hdigits⟩, Nat.ofDigitChars_ten_toDigits]

/-- Up to the limit, numbers are written in decimal digits. -/
theorem readInt_number {i : Int} (h : i.natAbs ≤ exactLimit) : readInt (number i) = some i := by
  rw [number, if_pos h]
  by_cases hneg : i < 0
  · rw [if_pos hneg, List.singleton_append, readInt, readNat_toDigits, Option.map_some, Option.some.injEq]
    omega
  · have hminus : ∀ digits, Nat.toDigits 10 i.natAbs ≠ '-' :: digits := by
      intro digits hdigits
      have hmem : '-' ∈ Nat.toDigits 10 i.natAbs := by rw [hdigits]; exact List.mem_cons_self
      exact absurd (Nat.isDigit_of_mem_toDigits (by decide) (by decide) hmem) (by decide)
    rw [if_neg hneg, List.nil_append, readInt.eq_2 _ hminus, readNat_toDigits, Option.map_some, Option.some.injEq]
    omega

-- Beyond it, different numbers can have the same digits.
example : number (2 ^ 53 + 1) = number (2 ^ 53) := by decide +kernel

/-- The line of a sample. -/
def line (name : String) (sample : Option Label × Int) : List Char :=
  name.toList ++ (labelText sample.1 ++ ' ' :: number sample.2)

/-- What is read is what was written. -/
theorem readSample_line {name : String} {sample : Option Label × Int}
    (hname : ∀ c ∈ name.toList, inName c = true)
    (hlabel : ∀ l ∈ sample.1, ∀ c ∈ l.name.toList, inName c = true) (hvalue : sample.2.natAbs ≤ exactLimit) :
    readSample (line name sample) = some (⟨name, sample.1⟩, sample.2) := by
  obtain ⟨label, value⟩ := sample
  have hspan : (line name (label, value)).takeWhile inName = name.toList
      ∧ (line name (label, value)).dropWhile inName = labelText label ++ ' ' :: number value := by
    cases label with
    | none => exact inName_span hname (by decide) _
    | some l => exact inName_span hname (by decide) _
  rw [readSample, hspan.1, hspan.2, readLabel_labelText hlabel]
  simp [readInt_number hvalue]

/-! ## 3. All lines -/

theorem splitOn_unlines {lines : List (List Char)} (h : ∀ l ∈ lines, '\n' ∉ l) :
    (lines.flatMap (· ++ ['\n'])).splitOn '\n' = lines ++ [[]] := by
  induction lines with
  | nil => rfl
  | cons l lines ih =>
    obtain ⟨hl, hlines⟩ := List.forall_mem_cons.mp h
    rw [List.flatMap_cons, List.append_assoc, List.singleton_append, List.splitOn_append_cons_self_of_not_mem hl,
      ih hlines, List.cons_append]

/-- The lines of a family. -/
def Family.textLines (f : Family) : List (List Char) :=
  if f.samples.isEmpty then []
  else
    ("# HELP ".toList ++ (f.name.toList ++ ' ' :: f.help.toList))
      :: ("# TYPE ".toList ++ (f.name.toList ++ ' ' :: f.kind.word.toList)) :: f.samples.map (line f.name)

theorem Family.lines_eq (f : Family) : f.lines = f.textLines.flatMap (· ++ ['\n']) := by
  have hsample : sampleLine f.name = fun sample => line f.name sample ++ ['\n'] := by
    funext sample
    simp [sampleLine, line]
  unfold lines textLines
  split
  · rfl
  · simp [List.flatMap_map, hsample, String.toList_append, ToString.toString]

/-- A family whose lines can be read: its name and those of its labels are names, its line of help is one line, and its
numbers are exact. Nothing is said of the values of its labels. -/
structure Family.IsReadable (f : Family) : Prop where
  named : f.name ≠ ""
  name : ∀ c ∈ f.name.toList, inName c = true
  help : '\n' ∉ f.help.toList
  labels : ∀ sample ∈ f.samples, ∀ l ∈ sample.1, ∀ c ∈ l.name.toList, inName c = true
  values : ∀ sample ∈ f.samples, sample.2.natAbs ≤ exactLimit

theorem newline_not_mem_escaped (value : List Char) : '\n' ∉ value.flatMap escape := by
  intro h
  obtain ⟨c, -, hc⟩ := List.mem_flatMap.mp h
  unfold escape at hc
  split at hc
  · simp at hc
  split at hc
  · simp at hc
  split at hc
  · simp at hc
  · rename_i hnewline _
    exact hnewline (List.mem_singleton.mp hc).symm

theorem newline_not_mem_number {i : Int} (h : i.natAbs ≤ exactLimit) : '\n' ∉ number i := by
  have hdigits : '\n' ∉ Nat.toDigits 10 i.natAbs := by
    intro hmem
    exact absurd (Nat.isDigit_of_mem_toDigits (by decide) (by decide) hmem) (by decide)
  rw [number, if_pos h]
  split <;> simp [hdigits]

theorem Family.IsReadable.newline_not_mem {f : Family} (h : f.IsReadable) : ∀ l ∈ f.textLines, '\n' ∉ l := by
  have hname : '\n' ∉ f.name.toList := fun hmem => absurd (h.name _ hmem) (by decide)
  have hhelp := h.help
  have hword : '\n' ∉ f.kind.word.toList := by cases f.kind <;> decide
  intro l hl
  unfold textLines at hl
  split at hl
  · cases hl
  · rcases List.mem_cons.mp hl with rfl | hl
    · simp [hname, hhelp]
    rcases List.mem_cons.mp hl with rfl | hl
    · simp [hname, hword]
    · obtain ⟨⟨label, value⟩, hsample, rfl⟩ := List.mem_map.mp hl
      have hnumber := newline_not_mem_number (h.values _ hsample)
      cases label with
      | none => simp [line, labelText, hname, hnumber]
      | some label =>
        have hlabel : '\n' ∉ label.name.toList := fun hmem => absurd (h.labels _ hsample _ rfl _ hmem) (by decide)
        have hvalue := newline_not_mem_escaped label.value.toList
        simp only [line, labelText, List.mem_append, List.mem_cons, hname, hlabel, hvalue, hnumber]
        simp

/-- Of the lines of a family those of its samples are what is read. -/
theorem Family.IsReadable.filter_textLines {f : Family} (h : f.IsReadable) :
    f.textLines.filter isSample = f.samples.map (line f.name) := by
  unfold textLines
  split
  · rename_i hempty
    rw [List.isEmpty_iff.mp hempty]
    rfl
  · rw [List.filter_cons_of_neg (by simp [isSample]), List.filter_cons_of_neg (by simp [isSample]),
      List.filter_eq_self]
    intro l hl
    obtain ⟨sample, -, rfl⟩ := List.mem_map.mp hl
    obtain ⟨c, cs, hname⟩ := List.exists_cons_of_ne_nil (mt String.toList_eq_nil_iff.mp h.named)
    have hc : c ≠ '#' := fun hc => absurd (h.name c (by rw [hname]; exact List.mem_cons_self)) (by rw [hc]; decide)
    simp [isSample, line, hname, hc]

/-- The samples of a family with what they are values of. -/
def Family.series (f : Family) : List (Series × Int) := f.samples.map fun sample => (⟨f.name, sample.1⟩, sample.2)

theorem Family.IsReadable.map_readSample {f : Family} (h : f.IsReadable) :
    (f.samples.map (line f.name)).map readSample = f.series.map some := by
  rw [series, List.map_map, List.map_map]
  exact List.map_congr_left fun sample hsample =>
    readSample_line h.name (h.labels sample hsample) (h.values sample hsample)

section Families

variable {families : List Family}

/-- The lines of a text of families are those of each family. -/
theorem splitOn_ofFamilies (h : ∀ f ∈ families, f.IsReadable) :
    (families.flatMap Family.lines).splitOn '\n' = families.flatMap Family.textLines ++ [[]] := by
  have htext : families.flatMap Family.lines = (families.flatMap Family.textLines).flatMap (· ++ ['\n']) := by
    rw [List.flatMap_assoc]
    exact List.flatMap_congr fun f _ => f.lines_eq
  rw [htext]
  refine splitOn_unlines fun l hl => ?_
  obtain ⟨f, hf, hl⟩ := List.mem_flatMap.mp hl
  exact (h f hf).newline_not_mem l hl

/-- A text of families is read as their samples, line by line. -/
theorem sampleLines_ofFamilies (h : ∀ f ∈ families, f.IsReadable) :
    (sampleLines (String.ofList (families.flatMap Family.lines))).map readSample
      = (families.flatMap Family.series).map some := by
  have hsamples : (families.flatMap Family.textLines).filter isSample
      = families.flatMap fun f => f.samples.map (line f.name) := by
    rw [List.filter_flatMap]
    exact List.flatMap_congr fun f hf => (h f hf).filter_textLines
  have hlast : ([[]] : List (List Char)).filter isSample = [] := rfl
  rw [sampleLines, String.toList_ofList, splitOn_ofFamilies h, List.filter_append, hsamples, hlast, List.append_nil,
    List.map_flatMap, List.map_flatMap]
  exact List.flatMap_congr fun f hf => (h f hf).map_readSample

end Families

/-- A text is read if every line of a sample is. -/
theorem readSamples_of_map {text : String} {samples : List (Series × Int)}
    (h : (sampleLines text).map readSample = samples.map some) : readSamples text = some samples := by
  calc readSamples text
      = ((sampleLines text).map readSample).mapM id := by rw [List.mapM_map]; rfl
    _ = samples.mapM fun sample => some sample := by rw [h, List.mapM_map]; rfl
    _ = some samples := List.mapM_pure.trans (congrArg some (List.map_id' samples))

/-! ## 4. All values -/

/-- The label of a series, if it is a series of the given family by the given name of a label. -/
def Series.under? (family labelName : String) : Series → Option String
  | ⟨f, some label⟩ => if f = family ∧ label.name = labelName then some label.value else none
  | ⟨_, none⟩ => none

theorem Series.under?_eq_some {family labelName value : String} {series : Series} :
    series.under? family labelName = some value ↔ series = ⟨family, some ⟨labelName, value⟩⟩ := by
  obtain ⟨f, _ | ⟨name, v⟩⟩ := series
  · simp [under?]
  · simp [under?, and_assoc]

/-- The samples of the counters of a family. -/
def counterSeries (family labelName : String) (counters : Counters) : List (Series × Int) :=
  counters.entries.map fun e => (⟨family, some ⟨labelName, e.1⟩⟩, (e.2.toNat : Int))

/-- The counters of a family among some samples. -/
def countersOf (family labelName : String) (samples : List (Series × Int)) : Counters :=
  .ofEntries <| samples.filterMap fun sample =>
    (sample.1.under? family labelName).map fun label => (label, .ofNat sample.2.toNat)

section Counters

variable (family labelName : String) (counters : Counters)

/-- Each counter is there once, and nothing else. -/
theorem filter_counterSeries (series : Series) :
    (counterSeries family labelName counters).filter (·.1 = series)
      = (((series.under? family labelName).bind counters.find?).map fun count =>
          (series, (count.toNat : Int))).toList := by
  rw [counterSeries, List.filter_map]
  cases hunder : series.under? family labelName with
  | none =>
    have hother : ∀ e : String × UInt64, (⟨family, some ⟨labelName, e.1⟩⟩ : Series) ≠ series := by
      intro e he
      cases (Series.under?_eq_some.mpr he.symm).symm.trans hunder
    simp [Function.comp_def, hother]
  | some label =>
    obtain rfl := Series.under?_eq_some.mp hunder
    have hkey : (fun e : String × UInt64 => decide (e.1 = label))
        = (fun sample : Series × Int => decide (sample.1 = ⟨family, some ⟨labelName, label⟩⟩))
          ∘ fun e => (⟨family, some ⟨labelName, e.1⟩⟩, (e.2.toNat : Int)) := by
      funext e
      simp
    rw [← hkey, OrderedMap.filter_entries]
    cases h : counters.find? label <;> simp [h]

/-- The counters are read from their own samples, and from those of no other family. -/
theorem filterMap_counterSeries : (counterSeries family labelName counters).filterMap (fun sample =>
    (sample.1.under? family labelName).map fun label => (label, UInt64.ofNat sample.2.toNat)) = counters.entries := by
  rw [counterSeries, List.filterMap_map]
  simp [Function.comp_def, Series.under?]

theorem filterMap_counterSeries_of_ne {other : String} (h : other ≠ family) (otherName : String) :
    (counterSeries other otherName counters).filterMap (fun sample =>
      (sample.1.under? family labelName).map fun label => (label, UInt64.ofNat sample.2.toNat)) = [] := by
  rw [counterSeries, List.filterMap_map]
  simp [Function.comp_def, Series.under?, h]

end Counters

end Exposition

namespace Metrics

open Exposition

def admissionsFamily : String := "driver_ready_webhook_admission_requests_total"
def lookupFailuresFamily : String := "driver_ready_webhook_claim_lookup_failures_total"
def driverClassesFamily : String := "driver_ready_webhook_driver_storage_classes"
def classEventsFamily : String := "driver_ready_webhook_storage_class_events_total"

/-- All values have exact texts. -/
structure IsExact (metrics : Metrics) : Prop where
  admissions : ∀ e ∈ metrics.admissions.entries, e.2.toNat ≤ exactLimit
  lookupFailures : metrics.lookupFailures.toNat ≤ exactLimit
  classEvents : ∀ e ∈ metrics.classEvents.entries, e.2.toNat ≤ exactLimit
  driverClasses : metrics.driverClasses.toInt.natAbs ≤ exactLimit

/-- The value of a series, if the series exists. -/
def value? (self : Metrics) (series : Series) : Option Int :=
  if series = ⟨lookupFailuresFamily, none⟩ then some self.lookupFailures.toNat
  else if series = ⟨driverClassesFamily, none⟩ then some self.driverClasses.toInt
  else
    let count? := ((series.under? admissionsFamily "outcome").bind self.admissions.find?)
      <|> ((series.under? classEventsFamily "event").bind self.classEvents.find?)
    count?.map fun count => (count.toNat : Int)

/-- The metrics with the values of some samples. -/
def ofSamples (samples : List (Series × Int)) : Option Metrics := do
  let failures ← samples.find? (·.1 = ⟨lookupFailuresFamily, none⟩)
  let classes ← samples.find? (·.1 = ⟨driverClassesFamily, none⟩)
  return { admissions := countersOf admissionsFamily "outcome" samples
           lookupFailures := .ofNat failures.2.toNat
           classEvents := countersOf classEventsFamily "event" samples
           driverClasses := .ofInt classes.2 }

variable (self : Metrics)

/-- All samples, in the order of their lines. -/
def samples : List (Series × Int) := self.families.flatMap Family.series

theorem samples_eq : self.samples = counterSeries admissionsFamily "outcome" self.admissions
    ++ (⟨lookupFailuresFamily, none⟩, (self.lookupFailures.toNat : Int))
      :: (⟨driverClassesFamily, none⟩, self.driverClasses.toInt)
      :: counterSeries classEventsFamily "event" self.classEvents := by
  simp [samples, families, Family.series, ofCounters, counterSeries, admissionsFamily, lookupFailuresFamily,
    driverClassesFamily, classEventsFamily, Function.comp_def]

/-- Of every series that exists there is one sample, and of no other series there is one. -/
theorem filter_samples (series : Series) :
    self.samples.filter (·.1 = series) = ((self.value? series).map fun value => (series, value)).toList := by
  have hfamilies : driverClassesFamily ≠ lookupFailuresFamily := by decide
  rw [samples_eq, List.filter_append, List.filter_cons, List.filter_cons, filter_counterSeries, filter_counterSeries,
    value?]
  by_cases hfailures : series = ⟨lookupFailuresFamily, none⟩
  · simp [hfailures, Series.under?, hfamilies]
  by_cases hclasses : series = ⟨driverClassesFamily, none⟩
  · simp [hclasses, Series.under?, hfamilies, hfamilies.symm]
  simp only [hfailures, hclasses, Ne.symm hfailures, Ne.symm hclasses, decide_false, if_false, Bool.false_eq_true]
  cases hadmission : series.under? admissionsFamily "outcome" with
  | none => simp [Option.map_bind, Function.comp_def]
  | some label =>
    obtain rfl := Series.under?_eq_some.mp hadmission
    have hevent : admissionsFamily ≠ classEventsFamily := by decide
    simp [Series.under?, hevent, Function.comp_def]

theorem ofSamples_samples : ofSamples self.samples = some self := by
  have hfailures : self.samples.find? (·.1 = ⟨lookupFailuresFamily, none⟩)
      = some (⟨lookupFailuresFamily, none⟩, (self.lookupFailures.toNat : Int)) := by
    rw [← List.head?_filter, filter_samples, value?, if_pos rfl]
    rfl
  have hclasses : self.samples.find? (·.1 = ⟨driverClassesFamily, none⟩)
      = some (⟨driverClassesFamily, none⟩, self.driverClasses.toInt) := by
    rw [← List.head?_filter, filter_samples, value?, if_neg (by decide), if_pos rfl]
    rfl
  have hadmissions : countersOf admissionsFamily "outcome" self.samples = self.admissions := by
    rw [countersOf, samples_eq, List.filterMap_append, filterMap_counterSeries, List.filterMap_cons_none rfl,
      List.filterMap_cons_none rfl, filterMap_counterSeries_of_ne _ _ _ (by decide), List.append_nil,
      OrderedMap.ofEntries_entries]
  have hevents : countersOf classEventsFamily "event" self.samples = self.classEvents := by
    rw [countersOf, samples_eq, List.filterMap_append, filterMap_counterSeries_of_ne _ _ _ (by decide),
      List.filterMap_cons_none rfl, List.filterMap_cons_none rfl, filterMap_counterSeries, List.nil_append,
      OrderedMap.ofEntries_entries]
  rw [ofSamples, hfailures, hclasses, hadmissions, hevents]
  simp

/-- The families are those of names that can be read, whatever the values of their labels are. -/
theorem isReadable_families (h : self.IsExact) : ∀ f ∈ self.families, f.IsReadable := by
  have hlabels : ∀ (name : String) (counters : Counters), (∀ c ∈ name.toList, inName c = true) →
      ∀ sample ∈ ofCounters name counters, ∀ l ∈ sample.1, ∀ c ∈ l.name.toList, inName c = true := by
    intro name counters hname sample hsample l hl
    obtain ⟨e, -, rfl⟩ := List.mem_map.mp hsample
    cases hl
    exact hname
  have hvalues : ∀ (name : String) (counters : Counters), (∀ e ∈ counters.entries, e.2.toNat ≤ exactLimit) →
      ∀ sample ∈ ofCounters name counters, sample.2.natAbs ≤ exactLimit := by
    intro name counters hcounters sample hsample
    obtain ⟨e, he, rfl⟩ := List.mem_map.mp hsample
    exact hcounters e he
  have hfailures := h.lookupFailures
  have hclasses := h.driverClasses
  intro f hf
  simp only [families, List.mem_cons, List.not_mem_nil, or_false] at hf
  rcases hf with rfl | rfl | rfl | rfl <;>
    refine ⟨by dsimp only; decide, List.all_eq_true.mp (by dsimp only; decide), by dsimp only; decide, ?_, ?_⟩
  · exact hlabels _ _ (List.all_eq_true.mp (by decide))
  · exact hvalues _ _ h.admissions
  · simp
  · simpa using hfailures
  · simp
  · simpa using hclasses
  · exact hlabels _ _ (List.all_eq_true.mp (by decide))
  · exact hvalues _ _ h.classEvents

/-- **The text of the metrics.** Take any metrics with values of at most `2 ^ 53`, whatever was counted under whatever
labels, set or only read.

* The lines of the text are those of the families that have a value: two that describe the family, and one for each of
  its values.
* Every line of a value can be read, by itself, and of each series that exists there is exactly one, with its value. Of
  no other series there is one, whatever the labels of those that exist look like.
* From what is read all metrics come back, labels and counts, zeros included, and the gauge with its sign.
* So the text of other metrics is another text. -/
theorem exposition_reads_back (h : self.IsExact) :
    self.exposition.toList.splitOn '\n' = self.families.flatMap Family.textLines ++ [[]]
    ∧ ∃ samples, (sampleLines self.exposition).map readSample = samples.map some
      ∧ (∀ series, samples.filter (·.1 = series) = ((self.value? series).map fun value => (series, value)).toList)
      ∧ readSamples self.exposition = some samples
      ∧ ofSamples samples = some self
      ∧ ∀ other : Metrics, other.IsExact → other.exposition = self.exposition → other = self := by
  have hread : ∀ metrics : Metrics, metrics.IsExact →
      (sampleLines metrics.exposition).map readSample = metrics.samples.map some :=
    fun metrics hmetrics => sampleLines_ofFamilies (isReadable_families metrics hmetrics)
  have hlines : self.exposition.toList.splitOn '\n' = self.families.flatMap Family.textLines ++ [[]] := by
    rw [exposition, String.toList_ofList]
    exact splitOn_ofFamilies (isReadable_families self h)
  refine ⟨hlines, self.samples, hread self h, self.filter_samples, readSamples_of_map (hread self h),
    self.ofSamples_samples, fun other hother htext => ?_⟩
  have hsamples : some other.samples = some self.samples := by
    rw [← readSamples_of_map (hread other hother), htext, readSamples_of_map (hread self h)]
  have hsame : some other = some self := by
    rw [← other.ofSamples_samples, Option.some.inj hsamples, self.ofSamples_samples]
  exact Option.some.inj hsame

/-- Metrics with a label that looks like the end of one line and the beginning of another, one that was only read, and a
gauge below zero. -/
def deceptive : Metrics :=
  let label := "\"\x7d 1\n" ++ admissionsFamily ++ "\x7boutcome=\"forged"
  let metrics := ((({} : Metrics).recordAdmission label).recordClassEvent "\\n").recordLookupFailures 1
  { (metrics.readAdmissions "\n").2 with driverClasses := -3 }

theorem deceptive_reads_back : deceptive.IsExact ∧ ∃ samples, readSamples deceptive.exposition = some samples
    ∧ ofSamples samples = some deceptive
    ∧ samples.filter (·.1 = ⟨admissionsFamily, some ⟨"outcome", "forged"⟩⟩) = []
    ∧ samples.filter (·.1 = ⟨admissionsFamily, some ⟨"outcome", "\n"⟩⟩)
      = [(⟨admissionsFamily, some ⟨"outcome", "\n"⟩⟩, 0)] := by
  have hexact : deceptive.IsExact := ⟨by decide, by decide, by decide, by decide⟩
  obtain ⟨-, samples, hlines, hfilter, hread, hback, -⟩ := deceptive.exposition_reads_back hexact
  exact ⟨hexact, samples, hread, hback, (hfilter _).trans (by decide +kernel), (hfilter _).trans (by decide +kernel)⟩

end Metrics

end ReadyPin

import ReadyPin.Api.FormEncoding
import ReadyPin.Api.WatchLine
import ReadyPin.Service.State

/-!
# Watching the storage classes

A watch first lists all storage classes, page by page, and then follows their changes from the version of the list on.
`Watch` is where it stands between two requests, `Watch.request` what it asks for, and `Watch.after` what an answer
says and where the watch goes on.

A failed list starts again from its beginning. A failed watch is asked for again, unless what failed is its version:
then the classes are listed anew.

In the program: `ClassWatcher::run`, down to the requests of the `watcher` of `kube::runtime`.
-/

namespace ReadyPin

/-- Where a watch stands. -/
inductive Watch where
  /-- It lists the classes, from the given place on; those of the pages before are gathered. -/
  | listing (continueAt : Option String) (gathered : List StorageClass)
  /-- It follows the changes after a version. -/
  | following (version : String)
  deriving Repr, DecidableEq

namespace Watch

open State (StreamItem)

/-- A watch at its beginning. -/
def start : Watch := .listing none []

/-! ## 1. Requests -/

/-- The path of the storage classes with the start of a query. -/
def path : String := "/apis/storage.k8s.io/v1/storageclasses?"

/-- The number of classes on one page. -/
def pageSize : Nat := 500

/-- The number of seconds after which the API ends an answer. -/
def timeout : Nat := 290

/-- What a watch asks for. -/
def request : Watch → String
  | .listing none _ => s!"{path}&limit={pageSize}"
  | .listing (some token) _ => s!"{path}&limit={pageSize}&continue={FormEncoding.encode token}"
  | .following version =>
    let version := FormEncoding.encode version
    s!"{path}&watch=true&timeoutSeconds={timeout}&allowWatchBookmarks=true&resourceVersion={version}"

/-! ## 2. Lists -/

/-- A text, unless it is empty. -/
def nonempty (text : Option String) : Option String := text.filter (!·.isEmpty)

/-- What a page says, and where the watch goes on. -/
def afterPage (gathered : List StorageClass) (page : ClassPage) : List StreamItem × Watch :=
  let gathered := gathered ++ page.classes
  match nonempty page.metadata.continueAt with
  | some token => ([], .listing (some token) gathered)
  | none =>
    match nonempty page.metadata.resourceVersion with
    | some version => ([.event (.restarted gathered)], .following version)
    | none => ([.error "the list has no version"], start)

/-! ## 3. Changes -/

/-- Puts a byte before some lines; a line feed begins a new line. -/
def ontoLines (b : UInt8) : List (List UInt8) → List (List UInt8)
  | [] => [[b]]
  | l :: ls => if b = 0x0A then [] :: l :: ls else (b :: l) :: ls

/-- The lines of some bytes. -/
def lines (bytes : List UInt8) : List (List UInt8) := bytes.foldr ontoLines [[]]

/-- A line without the carriage return at its end. -/
def withoutReturn (line : List UInt8) : List UInt8 :=
  if line.getLast? = some 0x0D then line.dropLast else line

/-- Puts an item before others. -/
def before (item : StreamItem) (rest : List StreamItem × Watch) : List StreamItem × Watch :=
  (item :: rest.1, rest.2)

/-- The API's code for a version that it no longer knows. -/
def gone : Nat := 410

/-- What the lines of an answer say, and where the watch goes on. A line that merely ends too early says nothing. -/
def afterLines (version : String) : List (List UInt8) → List StreamItem × Watch
  | [] => ([], .following version)
  | line :: rest =>
    let line := withoutReturn line
    match Utf8.decode line with
    | .error fault => ([.error fault.message], .following version)
    | .ok _ =>
      match Reader.all WatchLine.read line with
      | .ok (.applied c) =>
        match nonempty c.metadata.resourceVersion with
        | some version => before (.event (.applied c)) (afterLines version rest)
        | none => ([.error "the object has no version"], start)
      | .ok (.deleted c) =>
        match nonempty c.metadata.resourceVersion with
        | some version => before (.event (.deleted c)) (afterLines version rest)
        | none => ([.error "the object has no version"], start)
      | .ok (.bookmark version) => afterLines version rest
      | .ok (.error status) =>
        if status.code = gone then ([.error status.message], start)
        else before (.error status.message) (afterLines version rest)
      | .error fault =>
        if fault.isEnd then afterLines version rest
        else before (.error fault.message) (afterLines version rest)

/-! ## 4. Answers -/

/-- What an answer says, and where the watch goes on. The status of an answer with changes is not looked at. -/
def after : Watch → ApiAnswer → List StreamItem × Watch
  | .listing _ gathered, answer =>
    match answer.decode ClassPage.read with
    | .ok page => afterPage gathered page
    | .error failure => ([.error failure.message], start)
  | .following version, .failed text => ([.error text], .following version)
  | .following version, .answered _ body => afterLines version (lines body)

/-- The requests that a watch makes while it is given answers, each with the state at that moment; the last request
is not answered. -/
def run (driver : String) (self : Watch) (state : State) : List ApiAnswer → List (String × State)
  | [] => [(self.request, state)]
  | answer :: answers =>
    let (items, next) := self.after answer
    (self.request, state) :: next.run driver (state.consume driver items).state answers

end Watch

end ReadyPin

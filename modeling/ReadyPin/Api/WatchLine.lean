import ReadyPin.Admission.Envelope
import ReadyPin.Api.Failure
import ReadyPin.Cluster.StorageClass

/-!
# What a watch sends

The answer to a list request is one page of the storage classes, and the answer to a watch is a line for each change: an
object with a type and the object that it is about. The object may come before the type; then it is kept first and
looked at again when the type is known.

In the program: `ObjectList` and `WatchEvent` of `kube`.
-/

namespace ReadyPin

/-! ## 1. Pages -/

/-- One page of the storage classes. -/
structure ClassPage where
  metadata : ListMetadata := {}
  classes : List StorageClass := []
  deriving Repr, DecidableEq, Inhabited

namespace ClassPage

/-- What has been read of a page. -/
structure Draft where
  metadata : Option ListMetadata := none
  classes : Option (List StorageClass) := none

/-- The next member of a page. Members beside the metadata and the items are kept but not used. -/
def member (draft : Draft) (key : String) : Reader Draft := do
  if key = "metadata" then
    if draft.metadata.isSome then Reader.mismatched (.duplicate key)
    else do
      Reader.colon
      let metadata ← ListMetadata.read
      pure { draft with metadata := some metadata }
  else if key = "items" then
    if draft.classes.isSome then Reader.mismatched (.duplicate key)
    else do
      Reader.colon
      let classes ← Reader.nullable (Reader.list (StorageClass.read 2))
      pure { draft with classes := some (classes.getD []) }
  else do
    Reader.colon
    let _ ← Reader.kept (Reader.maxDepth - 1)
    pure draft

/-- A page, which must have items. -/
def read : Reader ClassPage := do
  match ← Reader.kind with
  | .object => do
    let draft ← Reader.members {} member
    match draft.classes with
    | some classes => pure { metadata := draft.metadata.getD {}, classes }
    | none => Reader.mismatched (.missing "items")
  | k => Reader.unexpected k "struct ObjectList"

end ClassPage

/-! ## 2. Lines -/

/-- What a line of a watch says. -/
inductive WatchLine where
  /-- A class was made or changed. -/
  | applied (storageClass : StorageClass)
  | deleted (storageClass : StorageClass)
  /-- Nothing but the version that the watch has come to. -/
  | bookmark (version : String)
  | error (status : ErrorStatus)
  deriving Repr, DecidableEq

namespace WatchLine

/-- What has been read of a bookmark; its other members are in reverse. -/
structure Bookmark where
  version : Option String := none
  before : List (String × Json) := []

/-- The next member of a bookmark. -/
def bookmarkMember (draft : Bookmark) (key : String) : Reader Bookmark := do
  if key = "metadata" then
    if draft.version.isSome then Reader.mismatched (.duplicate key)
    else do
      Reader.colon
      let version ← Reader.strictRecord "BookmarkMeta" 2 ""
        [.needed "resourceVersion" Source.text fun _ v => v, .extra "annotations" Source.textMap fun v _ => v]
      pure { draft with version := some version }
  else do
    let before ← Reader.keptMember (Reader.kept (Reader.maxDepth - 2)) draft.before key
    pure { draft with before }

/-- The version of a bookmark, which must have type names. -/
def bookmarkVersion : Reader String := do
  match ← Reader.kind with
  | .object => do
    let draft ← Reader.members {} bookmarkMember
    match (TypeNames.takeFrom none none draft.before.reverse).1, draft.version with
    | .ok _, some version => pure version
    | .ok _, none => Reader.mismatched (.missing "metadata")
    | .error cause, _ => Reader.mismatched cause
  | k => Reader.unexpected k "struct Bookmark"

/-- The types of lines, each with the reader of its object. -/
def types : List (String × Reader WatchLine) :=
  [ ("ADDED", .applied <$> StorageClass.read 1),
    ("MODIFIED", .applied <$> StorageClass.read 1),
    ("DELETED", .deleted <$> StorageClass.read 1),
    ("BOOKMARK", .bookmark <$> bookmarkVersion),
    ("ERROR", .error <$> ErrorStatus.read) ]

/-- The type of a line: how its object is read. -/
def type : Reader (Reader WatchLine) := do
  Reader.nameOf types (← Source.textAs "variant identifier")

/-- What has been read of a line. -/
inductive Draft where
  | nothing
  /-- The type alone. -/
  | typed (read : Reader WatchLine)
  /-- The object alone: it is a value, and these are the bytes from its start on. -/
  | held (bytes : List UInt8)
  | complete (line : WatchLine)

/-- Keeps the bytes from the start of the next value on, and takes the value. -/
def hold : Reader (List UInt8) := fun s =>
  match Reader.kept (Reader.maxDepth - 1) s with
  | .ok (_, rest) => .ok (s, rest)
  | .error fault => .error fault

/-- Reads a value at the start of some bytes, and takes nothing. -/
def lookAgain {α : Type} (read : Reader α) (bytes : List UInt8) : Reader α := fun s =>
  match read bytes with
  | .ok (a, _) => .ok (a, s)
  | .error fault => .error fault

/-- The next member of a line. -/
def member (draft : Draft) (key : String) : Reader Draft := do
  if key = "type" then
    match draft with
    | .nothing => do
      Reader.colon
      pure (.typed (← type))
    | .held bytes => do
      Reader.colon
      let read ← type
      pure (.complete (← lookAgain read bytes))
    | .typed _ | .complete _ => Reader.mismatched (.duplicate key)
  else if key = "object" then
    match draft with
    | .nothing => do
      Reader.colon
      pure (.held (← hold))
    | .typed read => do
      Reader.colon
      pure (.complete (← read))
    | .held _ | .complete _ => Reader.mismatched (.duplicate key)
  else do
    Reader.colon
    Reader.pass
    pure draft

/-- A line as a list of its type and its object. -/
def listed : Reader WatchLine := do
  Reader.drop
  match ← Reader.item? type true with
  | none => Reader.mismatched (.length 0 "adjacently tagged enum WatchEvent")
  | some read =>
    match ← Reader.item? read false with
    | none => Reader.mismatched (.length 1 "adjacently tagged enum WatchEvent")
    | some line => do Reader.endOfList; pure line

/-- A line. -/
def read : Reader WatchLine := do
  match ← Reader.kind with
  | .object => do
    match ← Reader.members .nothing member with
    | .complete line => pure line
    | .typed _ => Reader.mismatched (.missing "object")
    | .nothing | .held _ => Reader.mismatched (.missing "type")
  | .list => listed
  | k => Reader.unexpected k "adjacently tagged enum WatchEvent"

end WatchLine

end ReadyPin

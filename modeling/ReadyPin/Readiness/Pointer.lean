/-!
# JSON pointers

A pointer names a place inside a JSON value by the keys on the way to it, each after a slash. Inside a key a slash is
written `~1` and a tilde `~0`. Tildes are escaped first, so that those of `~1` are not escaped again.

In the program: `escape_json_pointer`.
-/

namespace ReadyPin.Pointer

/-- Replaces every tilde by `~0`. -/
def escapeTildes (cs : List Char) : List Char := cs.flatMap fun c => if c = '~' then ['~', '0'] else [c]

/-- Replaces every slash by `~1`. -/
def escapeSlashes (cs : List Char) : List Char := cs.flatMap fun c => if c = '/' then ['~', '1'] else [c]

/-- A key as it is written in a pointer. -/
def escape (key : String) : String := String.ofList (escapeSlashes (escapeTildes key.toList))

/-- The key that is written in a pointer: `~1` is a slash and `~0` a tilde, and no tilde stands alone. -/
def unescape : List Char → Option (List Char)
  | [] => some []
  | '~' :: '0' :: cs => (unescape cs).map ('~' :: ·)
  | '~' :: '1' :: cs => (unescape cs).map ('/' :: ·)
  | c :: cs => if c = '~' then none else (unescape cs).map (c :: ·)

/-- The pointer to the place under the given keys. -/
def ofKeys (keys : List String) : String := String.join (keys.map fun key => "/" ++ escape key)

/-- The pieces of a text between slashes. -/
def pieces : List Char → List (List Char)
  | [] => [[]]
  | c :: cs =>
    match pieces cs with
    | [] => [[c]]
    | p :: ps => if c = '/' then [] :: p :: ps else (c :: p) :: ps

/-- The keys of a pointer: what follows each of its slashes. -/
def keys? (pointer : String) : Option (List String) :=
  match pieces pointer.toList with
  | [] :: ps => ps.mapM fun p => (unescape p).map String.ofList
  | _ => none

end ReadyPin.Pointer

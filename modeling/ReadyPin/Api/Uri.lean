import ReadyPin.Text.Utf8

/-!
# Request targets

The target of a request is a path, and after a question mark a query. `Uri.target` checks a text for the bytes that may
stand in each part. A number sign ends the target: it and what follows are not sent.

In the program: which texts the client of `kube` can build a request from.
-/

namespace ReadyPin.Uri

/-- Why a text is no request target. -/
inductive Fault where
  | invalidCharacter
  | tooLong
  deriving Repr, DecidableEq

/-- The wording of a fault. -/
def Fault.message : Fault → String
  | .invalidCharacter => "invalid uri character"
  | .tooLong => "uri too long"

/-- The greatest number of bytes of a target. -/
def maxLength : Nat := 65534

/-- Whether a byte may stand in a path. -/
def inPath (b : UInt8) : Bool :=
  b == 0x21 || b == 0x22 || (0x24 ≤ b && b ≤ 0x3B) || b == 0x3D || (0x40 ≤ b && b ≤ 0x5F) || (0x61 ≤ b && b ≤ 0x7E)

/-- Whether a byte may stand in a query. -/
def inQuery (b : UInt8) : Bool :=
  b == 0x21 || (0x24 ≤ b && b ≤ 0x3B) || b == 0x3D || (0x3F ≤ b && b ≤ 0x7E)

/-- The bytes of a query up to its end. -/
def query : List UInt8 → Except Fault (List UInt8)
  | [] => .ok []
  | b :: bs =>
    if b = 0x23 then .ok []
    else if inQuery b then (query bs).map (b :: ·)
    else .error .invalidCharacter

/-- The bytes of a path and of the query after it. -/
def path : List UInt8 → Except Fault (List UInt8)
  | [] => .ok []
  | b :: bs =>
    if b = 0x23 then .ok []
    else if b = 0x3F then (query bs).map (b :: ·)
    else if inPath b then (path bs).map (b :: ·)
    else .error .invalidCharacter

/-- The target that a text stands for, as it is sent. All its bytes are ASCII. -/
def target (text : String) : Except Fault String := do
  let bytes := Utf8.bytes text
  if bytes.length > maxLength then .error .tooLong
  else
    let sent ← path bytes
    pure (String.ofList (sent.map fun b => .ofNat b.toNat))

end ReadyPin.Uri

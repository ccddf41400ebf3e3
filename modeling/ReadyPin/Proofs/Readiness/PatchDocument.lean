import ReadyPin.Proofs.Json.PrintedText
import ReadyPin.Proofs.Readiness.EncodingRoundTrips
import ReadyPin.Readiness.Patch

/-!
# The document of a patch

A patch is three encodings around one another: the label is escaped into a pointer, the pointer is written into a JSON
text, and the text into base64. Nothing is asked of the name of the driver, so whatever is in it must get through all
three. Slashes and tildes are undone by the pointer (`Readiness.keys?_target`), quotes, backslashes and control
characters by the text (`Readiness.parse_document`), and base64 gives back any bytes (`ReadinessPatch.decode_encoded`).

On the way back nothing is lost, so each of the three tells apart what the one inside it does, down to the driver.
-/

namespace ReadyPin

/-! ## 1. The way back -/

namespace Readiness

/-- The path leads to the label, through the node selector. -/
theorem keys?_target (driver : String) :
    Pointer.keys? (target driver) = some ["spec", "nodeSelector", label driver] :=
  Pointer.keys?_ofKeys _

example : target "a/b~1" = "/spec/nodeSelector/a~1b~01~1driver-ready" := by decide

theorem parse_document (driver : String) :
    Json.parse (Utf8.encode (document driver).print) = .ok (document driver) := by
  have hfree : (document driver).numberFree = true := rfl
  have hdepth : (document driver).depth ≤ Reader.maxDepth := Nat.le_of_ble_eq_true rfl
  exact Json.parse_print hfree hdepth

end Readiness

theorem ReadinessPatch.decode_encoded (driver : String) :
    Base64.decode (ofDriver driver).encoded.toList = some (Utf8.encode (Readiness.document driver).print) := by
  have hencoded : (ofDriver driver).encoded.toList
      = Base64.encode (Utf8.encode (Readiness.document driver).print) := String.toList_ofList
  rw [hencoded, Base64.decode_encode]

/-! ## 2. No two drivers have the same patch -/

namespace Readiness

theorem label_injective : Function.Injective label := by
  intro driver other h
  have hchars := congrArg String.toList h
  simp only [label, String.toList_append, List.append_left_inj] at hchars
  exact String.toList_injective hchars

theorem target_injective : Function.Injective target := by
  intro driver other h
  have hkeys := congrArg Pointer.keys? h
  simp only [keys?_target, Option.some.injEq, List.cons.injEq, true_and, and_true] at hkeys
  exact label_injective hkeys

theorem document_injective : Function.Injective document := by
  intro driver other h
  simp only [document, Json.array.injEq, Json.object.injEq, Json.string.injEq, List.cons.injEq, Prod.mk.injEq,
    true_and, and_true] at h
  exact target_injective h

end Readiness

theorem ReadinessPatch.encoded_injective : Function.Injective fun driver => (ofDriver driver).encoded := by
  intro driver other h
  have hdecoded := congrArg (fun encoded => Base64.decode encoded.toList) h
  simp only [decode_encoded, Option.some.injEq] at hdecoded
  have hparsed := congrArg Json.parse hdecoded
  rw [Readiness.parse_document, Readiness.parse_document] at hparsed
  exact Readiness.document_injective (Except.ok.inj hparsed)

/-- **The patch of a driver.** Every text is the name of a driver that has a patch.

* What the patch carries is base64 of a JSON text, that of an array of one object. The object has an operation, a path
  and a value, and nothing else.
* The path is a pointer with three keys, and the last of them is the label.
* No other driver has a patch that carries the same. -/
theorem patch_reads_back (driver : String) :
    (ReadinessPatch.ofDriver driver).label = driver ++ "/driver-ready"
    ∧ (∃ bytes path, Base64.decode (ReadinessPatch.ofDriver driver).encoded.toList = some bytes
      ∧ Json.parse bytes
        = .ok (.array [.object [("op", .string "add"), ("path", .string path), ("value", .string "true")]])
      ∧ Pointer.keys? path = some ["spec", "nodeSelector", (ReadinessPatch.ofDriver driver).label])
    ∧ ∀ other, (ReadinessPatch.ofDriver other).encoded = (ReadinessPatch.ofDriver driver).encoded → other = driver := by
  refine ⟨rfl, ?_, fun other h => ReadinessPatch.encoded_injective h⟩
  exact ⟨_, Readiness.target driver, ReadinessPatch.decode_encoded driver, Readiness.parse_document driver,
    Readiness.keys?_target driver⟩

end ReadyPin

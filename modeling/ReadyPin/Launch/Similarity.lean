/-!
# Similar words

The Jaro similarity of two words, between zero and one. Two letters match if they are equal and not too far from
each other in their words; the more letters match, and the more of them in the same order, the more similar
the words.

In the program: how `clap` finds the option that may have been meant.
-/

namespace ReadyPin.Similarity

/-- The letters of a word, each with whether it has been matched. -/
abbrev Marked := List (Char × Bool)

/-- Matches a letter with the first equal one between two positions that is still free, `at` being the position
of the first letter of the list. -/
def matchLetter (c : Char) (least limit pos : Nat) : Marked → Option Marked
  | [] => none
  | (d, taken) :: rest =>
    if limit ≤ pos then none
    else if least ≤ pos && c == d && !taken then some ((d, true) :: rest)
    else (matchLetter c least limit (pos + 1) rest).map ((d, taken) :: ·)

/-- Matches the letters of a word in their order, `pos` being the position of the first: those that match, and the
other word with its marks. -/
def matchLetters (range : Nat) (pos : Nat) : List Char → Marked → List Char × Marked
  | [], other => ([], other)
  | c :: cs, other =>
    match matchLetter c (pos - range) (pos + range + 1) 0 other with
    | some other =>
      let (found, other) := matchLetters range (pos + 1) cs other
      (c :: found, other)
    | none => matchLetters range (pos + 1) cs other

/-- The similarity of two words. -/
def jaro (a b : List Char) : Float :=
  if a.isEmpty && b.isEmpty then 1
  else
    let range := max a.length b.length / 2 - 1
    let (found, marked) := matchLetters range 0 a (b.map fun c => (c, false))
    let met := (marked.filter (·.2)).map (·.1)
    let moved := ((found.zip met).filter fun p => p.1 != p.2).length / 2
    if found.isEmpty then 0
    else
      let n := found.length.toFloat
      (n / a.length.toFloat + n / b.length.toFloat + (found.length - moved).toFloat / n) / 3

/-- The least similarity of words that may have been meant, which they must exceed. -/
def threshold : Float := 0.7

/-- The word among some that is most similar to the given one, if any is similar enough; of equally similar ones
the last. -/
def closest? (word : String) (words : List String) : Option String :=
  let scored := (words.map fun w => (w, jaro word.toList w.toList)).filter fun s => s.2 > threshold
  (scored.foldl (fun best s =>
    match best with
    | none => some s
    | some b => if b.2 > s.2 then some b else some s) none).map (·.1)

end ReadyPin.Similarity

import CodeGraph.Number.Binary64
import Std.Data.HashMap

/-!
This file measures how similar two texts are. The longest run that both texts share is matched,
then the parts in front of it and the parts behind it, and so on. The similarity is the share of
matched characters in both texts.
-/

namespace CodeGraph.Text

/-- A run of characters that stands in both texts. -/
structure SharedRun where
  firstStart : Nat
  secondStart : Nat
  length : Nat
  deriving DecidableEq, Inhabited, Repr

/-- In a text of at least this many characters, frequent characters do not start a run. -/
def frequencyBound : Nat := 200

/-- A frequent character makes up more than a hundredth of a long text. -/
def isFrequent (length count : Nat) : Bool := frequencyBound ≤ length && length / 100 + 1 < count

/-- The places of each code point of a text in rising order. -/
def placesIn (text : List Char) : Std.HashMap Nat (List Nat) :=
  text.zipIdx.foldr
    (fun entry places =>
      places.insert entry.1.toNat (entry.2 :: places.getD entry.1.toNat [])) ∅

/-- A character of the first text, and the places of the second text at which it may start a run. -/
structure Occurrence where
  char : Char
  places : List Nat

/-- The occurrences of the characters of the first text in the second one. -/
def occurrences (first second : List Char) : List Occurrence :=
  let known := placesIn second
  let length := second.length
  first.map fun c =>
    let places := known.getD c.toNat []
    ⟨c, if isFrequent length places.length then [] else places⟩

/-- The places from `offset` on, less than `size` behind it, are counted from there. -/
def placesWithin (offset size : Nat) (places : List Nat) : List Nat :=
  (places.filter fun place => offset ≤ place && place < offset + size).map (· - offset)

/-- The runs that end at one character of the first text and at each of its places in the second
one, as the place and the length. `before` holds those of the previous character. -/
def runsAt : List Nat → List (Nat × Nat) → List (Nat × Nat)
  | [], _ => []
  | place :: rest, before =>
      let near := before.dropWhile fun run => run.1 + 1 < place
      let length :=
        match near with
        | run :: _ => if run.1 + 1 = place then run.2 + 1 else 1
        | [] => 1
      (place, length) :: runsAt rest near

/-- A longer run takes the place of the best one. `firstEnd` counts the characters of the first text
up to the end of the runs. -/
def improve (firstEnd : Nat) (best : SharedRun) : List (Nat × Nat) → SharedRun
  | [] => best
  | (place, length) :: rest =>
      improve firstEnd
        (if best.length < length then ⟨firstEnd - length, place + 1 - length, length⟩ else best)
        rest

/-- The best run after all characters of the first text from a position on. -/
def scanRuns (offset size : Nat) (position : Nat) (before : List (Nat × Nat)) (best : SharedRun) :
    List Occurrence → SharedRun
  | [] => best
  | occurrence :: rest =>
      let runs := runsAt (placesWithin offset size occurrence.places) before
      scanRuns offset size (position + 1) runs (improve (position + 1) best runs) rest

/-- The number of characters at the start of both texts that are equal. -/
def commonStart : List Char → List Char → Nat
  | first :: left, second :: right => if first = second then commonStart left right + 1 else 0
  | _, _ => 0

/-- A run grows to both sides as long as the characters are equal. -/
def extend (first second : List Char) (run : SharedRun) : SharedRun :=
  let back := commonStart (first.take run.firstStart).reverse
    (second.take run.secondStart).reverse
  let forth := commonStart (first.drop (run.firstStart + run.length))
    (second.drop (run.secondStart + run.length))
  ⟨run.firstStart - back, run.secondStart - back, back + run.length + forth⟩

/-- The longest run of characters that may start one, extended to both sides. Of runs of one
length the earliest in the first text wins, and then the earliest in the second one. The second text
begins at the offset. -/
def longestRun (offset : Nat) (first : List Occurrence) (second : List Char) : SharedRun :=
  extend (first.map Occurrence.char) second
    (scanRuns offset second.length 0 [] ⟨0, 0, 0⟩ first)

/-- The number of characters that are matched. The second text begins at the offset. -/
def matchedCount (offset : Nat) (first : List Occurrence) (second : List Char) : Nat :=
  let run := longestRun offset first second
  if 0 < run.length ∧ run.firstStart < first.length then
    run.length +
      matchedCount offset (first.take run.firstStart) (second.take run.secondStart) +
      matchedCount (offset + (run.secondStart + run.length))
        (first.drop (run.firstStart + run.length)) (second.drop (run.secondStart + run.length))
  else 0
termination_by first.length
decreasing_by
  · rename_i inside
    have same : run = longestRun offset first second := rfl
    rw [same] at inside
    simp only [List.length_take]
    omega
  · rename_i inside
    have same : run = longestRun offset first second := rfl
    rw [same] at inside
    simp only [List.length_drop]
    omega

/-- Twice the matched characters over the characters of both texts. Two empty texts are equal. -/
def similarity (first second : List Char) : Binary64 :=
  let total := first.length + second.length
  if total = 0 then Binary64.ofInt 1
  else Binary64.ofQuotient false (2 * matchedCount 0 (occurrences first second) second) total

end CodeGraph.Text

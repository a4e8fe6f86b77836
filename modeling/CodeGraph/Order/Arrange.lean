import CodeGraph.Order.Merge

/-!
This file sorts elements of which not all two can be compared. The comparisons are made in a fixed
order, so that the first one that fails is known, and so is the outcome of a relation that is no
order. Runs that are there already are taken as they are, short ones are filled up, and neighbouring
runs are merged.
-/

namespace CodeGraph.Order

variable {α ε : Type}

/-- The number of elements that go on with a run, each of which compares in the same way with the
one in front of it. -/
def runLength (precedes : α → α → Except ε Bool) (falling : Bool) (last : α) :
    List α → Except ε Nat
  | [] => .ok 0
  | next :: rest => do
      if (← precedes next last) == falling then
        return (← runLength precedes falling next rest) + 1
      else return 0

/-- A run falls when its second element comes before its first one. -/
def isFalling (precedes : α → α → Except ε Bool) (head : α) (tail : List α) : Except ε Bool :=
  match tail with
  | [] => .ok false
  | next :: _ => precedes next head

/-- The element is put behind the ones that it does not precede. -/
def place (precedes : α → α → Except ε Bool) (elements : List α) (element : α) :
    Except ε (List α) := do
  let count ← boundary (fun other => (precedes element other).map not) elements
  return elements.take count ++ element :: elements.drop count

/-- The run with which the elements begin, in rising order. With the elements behind it, it is
filled up to the least size. -/
def leadingRun (precedes : α → α → Except ε Bool) (leastSize : Nat) (head : α) (tail : List α) :
    Except ε (List α) := do
  let falling ← isFalling precedes head tail
  let length ← runLength precedes falling head tail
  let run := head :: tail.take length
  ((tail.drop length).take (leastSize - run.length)).foldlM (place precedes)
    (if falling then run.reverse else run)

/-- Lists of fewer elements are sorted as one run. -/
def longestSingleRun : Nat := 64

/-- The least size of the runs of a list: it is halved until it is small, and rounded up if one of
the halves was. -/
def leastRunSize (rounded : Bool) (size : Nat) : Nat :=
  if size < longestSingleRun then size + rounded.toNat
  else leastRunSize (rounded || size % 2 == 1) (size / 2)
termination_by size
decreasing_by
  simp only [longestSingleRun] at *
  omega

/-- A run that waits to be merged with a neighbour: the place where it starts and the depth of the
boundary in front of it. -/
structure PendingRun (α : Type) where
  start : Nat
  depth : Nat
  elements : List α

/-- The depth of the boundary between two neighbouring runs: after so many halvings of the whole
list the middles of the two runs lie in different parts. -/
def boundaryDepth (total start firstSize secondSize : Nat) : Nat :=
  let middle := 2 * start + firstSize
  let nextMiddle := middle + firstSize + secondSize
  let apart := (List.range (Nat.log2 total + 1)).find? fun halvings =>
    middle * Nat.pow 2 halvings / total != nextMiddle * Nat.pow 2 halvings / total
  apart.getD 0 + 1

/-- The runs that wait, the latest one first, and the patience of the next merge. -/
structure Arranging (α : Type) where
  pending : List (PendingRun α)
  patience : Nat

/-- The latest runs are merged as long as the boundary between them lies deeper than the new one. -/
def settle (precedes : α → α → Except ε Bool) (depth patience : Nat) :
    List (PendingRun α) → Except ε (Arranging α)
  | last :: before :: rest => do
      if depth < last.depth then
        let merged ← mergeRuns precedes patience before.elements last.elements
        settle precedes depth merged.2 (⟨before.start, before.depth, merged.1⟩ :: rest)
      else return ⟨last :: before :: rest, patience⟩
  | pending => .ok ⟨pending, patience⟩
termination_by pending => pending.length

/-- A new run joins the ones that wait. -/
def Arranging.push (precedes : α → α → Except ε Bool) (total start : Nat) (run : List α)
    (state : Arranging α) : Except ε (Arranging α) :=
  match state.pending with
  | [] => .ok ⟨[⟨start, 0, run⟩], state.patience⟩
  | last :: rest => do
      let depth := boundaryDepth total last.start last.elements.length run.length
      let settled ← settle precedes depth state.patience (last :: rest)
      return ⟨⟨start, depth, run⟩ :: settled.pending, settled.patience⟩

/-- The elements are cut into runs, which join the ones that wait. -/
def pushRuns (precedes : α → α → Except ε Bool) (total leastSize start : Nat)
    (state : Arranging α) : List α → Except ε (Arranging α)
  | [] => .ok state
  | head :: tail => do
      let run ← leadingRun precedes leastSize head tail
      let next ← state.push precedes total start run
      pushRuns precedes total leastSize (start + run.length) next (tail.drop (run.length - 1))
termination_by elements => elements.length
decreasing_by
  simp only [List.length_drop, List.length_cons]
  omega

/-- All runs are merged, a run before the last one with the shorter one of its neighbours. -/
def mergePending (precedes : α → α → Except ε Bool) (patience : Nat) :
    List (PendingRun α) → Except ε (List α)
  | [] => .ok []
  | [run] => .ok run.elements
  | [last, before] => do
      return (← mergeRuns precedes patience before.elements last.elements).1
  | last :: middle :: before :: rest => do
      if before.elements.length < last.elements.length then
        let merged ← mergeRuns precedes patience before.elements middle.elements
        mergePending precedes merged.2 (last :: ⟨before.start, before.depth, merged.1⟩ :: rest)
      else
        let merged ← mergeRuns precedes patience middle.elements last.elements
        mergePending precedes merged.2
          (⟨middle.start, middle.depth, merged.1⟩ :: before :: rest)
termination_by pending => pending.length

/-- The elements in the order to which the comparisons lead, unless one of them fails. -/
def arrange (precedes : α → α → Except ε Bool) (elements : List α) : Except ε (List α) := do
  let arranging ← pushRuns precedes elements.length (leastRunSize false elements.length) 0
    ⟨[], worthwhileWins⟩ elements
  mergePending precedes arranging.patience arranging.pending

end CodeGraph.Order

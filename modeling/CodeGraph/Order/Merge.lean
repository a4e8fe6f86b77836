import CodeGraph.Order.Boundary

/-!
This file merges two runs of elements of which not all two can be compared. The comparisons are made
in a fixed order. Elements are moved one by one until one run wins often in a row, and from then on
many elements are moved at a time.
-/

namespace CodeGraph.Order

variable {α ε : Type}

/-- What is left of two neighbouring runs, and the part that is merged. -/
structure Merging (α : Type) where
  first : List α
  second : List α
  merged : List α

/-- The two runs are merged from one of their sides. A move of one element tells whether it was of
the second run, and a move of many elements tells how many of one run were moved in a row. -/
structure MergeSide (α ε : Type) where
  isDone : Merging α → Bool
  moveOne : Merging α → Except ε (Merging α × Bool)
  moveMany : Merging α → Except ε (Merging α × Nat)
  gather : Merging α → List α

/-- Elements are moved one by one, after so many wins of one run in a row, or many at a time. -/
inductive Pace where
  | single (second : Bool) (wins : Nat)
  | many

/-- So many wins in a row make it worthwhile to go on with many elements at a time. -/
def worthwhileWins : Nat := 7

/-- One more win of a run; the wins of the other run count no more. -/
def Pace.afterWin (patience : Nat) (second : Bool) (winner : Bool) (wins : Nat) : Pace :=
  let wins := if winner == second then wins + 1 else 1
  if patience ≤ wins then .many else .single winner wins

namespace Merging

variable (precedes : α → α → Except ε Bool)

/-- The last element of the first run goes behind all others. -/
def isDoneFromFront (state : Merging α) : Bool :=
  state.second.isEmpty || decide (state.first.length ≤ 1)

def moveOneFromFront (state : Merging α) : Except ε (Merging α × Bool) :=
  match state.first, state.second with
  | element :: first, other :: second => do
      if ← precedes other element then
        return (⟨element :: first, second, state.merged ++ [other]⟩, true)
      else return (⟨first, other :: second, state.merged ++ [element]⟩, false)
  | _, _ => .ok (state, false)

/-- The elements of the first run that do not come behind the second run are moved, and then the
element in front of the second run. -/
def moveFirstFromFront (state : Merging α) : Except ε (Merging α × Nat) :=
  match state.second with
  | [] => .ok (state, 0)
  | other :: second => do
      let count ← boundaryFromFront (fun element => (precedes other element).map not) 0 state.first
      let passed : Merging α :=
        ⟨state.first.drop count, state.second, state.merged ++ state.first.take count⟩
      if passed.isDoneFromFront then return (passed, count)
      else return (⟨passed.first, second, passed.merged ++ [other]⟩, count)

/-- The elements of the second run that come before the first run are moved, and then the element in
front of the first run. -/
def moveSecondFromFront (state : Merging α) : Except ε (Merging α × Nat) :=
  match state.first with
  | [] => .ok (state, 0)
  | element :: first => do
      let count ← boundaryFromFront (fun other => precedes other element) 0 state.second
      let passed : Merging α :=
        ⟨state.first, state.second.drop count, state.merged ++ state.second.take count⟩
      if passed.isDoneFromFront then return (passed, count)
      else return (⟨first, passed.second, passed.merged ++ [element]⟩, count)

def moveManyFromFront (state : Merging α) : Except ε (Merging α × Nat) := do
  let moved ← state.moveFirstFromFront precedes
  if moved.1.isDoneFromFront then return moved
  else
    let next ← moved.1.moveSecondFromFront precedes
    return (next.1, max moved.2 next.2)

/-- The first element of the second run goes in front of all others. -/
def isDoneFromBack (state : Merging α) : Bool :=
  state.first.isEmpty || decide (state.second.length ≤ 1)

def moveOneFromBack (state : Merging α) : Except ε (Merging α × Bool) :=
  match state.first.getLast?, state.second.getLast? with
  | some element, some other => do
      if ← precedes other element then
        return (⟨state.first.dropLast, state.second, element :: state.merged⟩, false)
      else return (⟨state.first, state.second.dropLast, other :: state.merged⟩, true)
  | _, _ => .ok (state, false)

/-- The elements of the first run that come behind the second run are moved, and then the element at
the end of the second run. -/
def moveFirstFromBack (state : Merging α) : Except ε (Merging α × Nat) :=
  match state.second.getLast? with
  | none => .ok (state, 0)
  | some other => do
      let count ← boundaryFromBack (fun element => (precedes other element).map not) 0 state.first
      let moved := state.first.drop count
      let passed : Merging α := ⟨state.first.take count, state.second, moved ++ state.merged⟩
      if passed.first.isEmpty then return (passed, moved.length)
      else return (⟨passed.first, state.second.dropLast, other :: passed.merged⟩, moved.length)

/-- The elements of the second run that do not come before the first run are moved, and then the
element at the end of the first run. -/
def moveSecondFromBack (state : Merging α) : Except ε (Merging α × Nat) :=
  match state.first.getLast? with
  | none => .ok (state, 0)
  | some element => do
      let count ← boundaryFromBack (fun other => precedes other element) 0 state.second
      let moved := state.second.drop count
      let passed : Merging α := ⟨state.first, state.second.take count, moved ++ state.merged⟩
      if passed.isDoneFromBack then return (passed, moved.length)
      else return (⟨state.first.dropLast, passed.second, element :: passed.merged⟩, moved.length)

def moveManyFromBack (state : Merging α) : Except ε (Merging α × Nat) := do
  let moved ← state.moveFirstFromBack precedes
  if moved.1.isDoneFromBack then return moved
  else
    let next ← moved.1.moveSecondFromBack precedes
    return (next.1, max moved.2 next.2)

end Merging

namespace MergeSide

def front (precedes : α → α → Except ε Bool) : MergeSide α ε where
  isDone := Merging.isDoneFromFront
  moveOne := Merging.moveOneFromFront precedes
  moveMany := Merging.moveManyFromFront precedes
  gather := fun state => state.merged ++ state.second ++ state.first

def back (precedes : α → α → Except ε Bool) : MergeSide α ε where
  isDone := Merging.isDoneFromBack
  moveOne := Merging.moveOneFromBack precedes
  moveMany := Merging.moveManyFromBack precedes
  gather := fun state => state.second ++ state.first ++ state.merged

/-- Each step moves an element, so the number of elements bounds the steps. The patience grows when
many elements at a time are not worthwhile, and shrinks when they are. -/
def run (side : MergeSide α ε) :
    Nat → Nat → Pace → Merging α → Except ε (List α × Nat)
  | 0, patience, _, state => .ok (side.gather state, patience)
  | steps + 1, patience, pace, state =>
      if side.isDone state then .ok (side.gather state, patience)
      else
        match pace with
        | .single second wins => do
            let moved ← side.moveOne state
            run side steps patience (Pace.afterWin patience second moved.2 wins) moved.1
        | .many => do
            let moved ← side.moveMany state
            if side.isDone moved.1 then return (side.gather moved.1, patience)
            else if worthwhileWins ≤ moved.2 then
              run side steps (max (patience - 1) 1) .many moved.1
            else run side steps (patience + 1) (.single false 0) moved.1

end MergeSide

/-- The shorter run is moved out of the way, so a merge begins at the end of the shorter one: the
first move needs no comparison. -/
def mergeOverlap (precedes : α → α → Except ε Bool) (patience : Nat) (first second : List α) :
    Except ε (List α × Nat) :=
  let size := first.length + second.length
  if first.length ≤ second.length then
    (MergeSide.front precedes).run size patience (.single false 0)
      ⟨first, second.drop 1, second.take 1⟩
  else
    (MergeSide.back precedes).run size patience (.single false 0)
      ⟨first.dropLast, second, first.drop (first.length - 1)⟩

/-- Two neighbouring runs become one. Elements that stand in their places already take no part in
the merge. -/
def mergeRuns (precedes : α → α → Except ε Bool) (patience : Nat) (first second : List α) :
    Except ε (List α × Nat) :=
  match second with
  | [] => .ok (first, patience)
  | other :: _ => do
      let kept ← boundaryFromFront (fun element => (precedes other element).map not) 0 first
      match (first.drop kept).getLast? with
      | none => return (first ++ second, patience)
      | some element =>
          let moved ← boundaryFromBack (fun other => precedes other element) 0 second
          if moved = 0 then return (first ++ second, patience)
          else
            let merged ← mergeOverlap precedes patience (first.drop kept) (second.take moved)
            return (first.take kept ++ merged.1 ++ second.drop moved, merged.2)

end CodeGraph.Order

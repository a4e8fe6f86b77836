import CodeGraph.Order

/-!
This file holds breadth-first walks. Each layer of a walk holds the places that are one step
further from the start than the layer before, and no place is met twice.
-/

namespace CodeGraph.Walk

variable {α : Type} [DecidableEq α]

/-- The places that one step leads to and that were not visited before. -/
def reached (next : α → List α) (visited frontier : List α) : List α :=
  Order.distinct ((frontier.flatMap next).filter fun place => !decide (place ∈ visited))

/-- The layers of a walk with at most the given number of steps. It ends early where no new place
is met. -/
def layersFrom (next : α → List α) : Nat → List α → List α → List (List α)
  | 0, _, _ => []
  | steps + 1, visited, frontier =>
      let layer := reached next visited frontier
      if layer.isEmpty then [] else layer :: layersFrom next steps (layer ++ visited) layer

/-- The layers around a start, which is in none of them. -/
def layers (next : α → List α) (steps : Nat) (start : α) : List (List α) :=
  layersFrom next steps [start] [start]

theorem mem_reached {next : α → List α} {visited frontier : List α} {place : α} :
    place ∈ reached next visited frontier ↔
      (∃ before ∈ frontier, place ∈ next before) ∧ place ∉ visited := by
  simp [reached, Order.mem_distinct]

end CodeGraph.Walk

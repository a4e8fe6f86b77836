import CodeGraph.Proofs.FittingEntries
import Mathlib.Algebra.Order.BigOperators.Group.List

/-!
This file says which candidates a selection picks within its token budget, and how the selection
changes with the budget.
-/

namespace CodeGraph

namespace ContextSelection

open ContextEntry (fitting left total)

variable {vocabulary : Vocabulary} {snapshot : Snapshot} {key : Value} {focus : Address}
  {budget larger maxDepth : Nat} {reached : List ContextEntry}

/-- The picked candidates. -/
def candidates (selection : ContextSelection) : List Candidate :=
  selection.entries.map ContextEntry.candidate

/-- The ranked candidates are reached, each with its entity. -/
structure AreReached (snapshot : Snapshot) (focus : Address) (maxDepth : Nat)
    (reached : List ContextEntry) : Prop where
  ranked : reached.map ContextEntry.candidate = Candidate.ranked snapshot focus maxDepth
  entities : ∀ entry ∈ reached, snapshot.entity? entry.candidate.address = some entry.entity

/-- A request with a key of the focus is answered by the measured selection. -/
theorem ofRequest_eq (resolved : snapshot.resolve vocabulary key = .ok focus) (funded : 0 < budget)
    (positive : 0 < maxDepth) :
    ofRequest vocabulary snapshot key (.int budget) (.int maxDepth) =
      measure snapshot focus budget maxDepth := by
  have paid : Argument.positive? (.int budget) = some budget := by
    simp [Argument.positive?, funded]
  have deep : Argument.positive? (.int maxDepth) = some maxDepth := by
    simp [Argument.positive?, positive]
  rw [ofRequest, paid]
  dsimp only
  rw [deep]
  dsimp only
  rw [resolved]
  rfl

/-- The candidates in front of one are reached in front of it. -/
theorem AreReached.split (areReached : AreReached snapshot focus maxDepth reached)
    {front behind : List Candidate} {candidate : Candidate}
    (parts : Candidate.ranked snapshot focus maxDepth = front ++ candidate :: behind) :
    ∃ before entry after, reached = before ++ entry :: after ∧
      before.map ContextEntry.candidate = front ∧ entry.candidate = candidate := by
  rw [← areReached.ranked] at parts
  obtain ⟨before, rest, rfl, same, others⟩ := List.map_eq_append_iff.mp parts
  obtain ⟨entry, after, rfl, first, -⟩ := List.map_eq_cons_iff.mp others
  exact ⟨before, entry, after, rfl, same, first⟩

theorem AreReached.nodup (areReached : AreReached snapshot focus maxDepth reached)
    (positive : 0 < maxDepth) : (reached.map ContextEntry.candidate).Nodup := by
  have around := Candidate.collect_areAround snapshot focus positive
  rw [areReached.ranked]
  exact (Candidate.ranked_perm snapshot focus maxDepth).nodup_iff.mpr around.once.of_map

end ContextSelection

end CodeGraph

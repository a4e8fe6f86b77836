import CodeGraph.Order.Arrange

/-!
This file says which faults can come of a computation, and that sorting fails only where one of its
comparisons does.
-/

namespace CodeGraph

/-- Every fault that comes of the computation is of one kind. -/
def FailsWithin {ε α : Type} (kind : ε → Prop) (computed : Except ε α) : Prop :=
  ∀ fault, computed = .error fault → kind fault

namespace FailsWithin

variable {α β ε : Type} {kind : ε → Prop}

theorem ok (value : α) : FailsWithin kind (.ok value) := fun _ failed => nomatch failed

theorem error {fault : ε} (given : kind fault) : FailsWithin kind (.error fault : Except ε α) := by
  intro other failed
  cases failed
  exact given

theorem mono {other : ε → Prop} {computed : Except ε α} (within : FailsWithin kind computed)
    (wider : ∀ fault, kind fault → other fault) : FailsWithin other computed :=
  fun fault failed => wider fault (within fault failed)

theorem bind {first : Except ε α} {next : α → Except ε β} (former : FailsWithin kind first)
    (latter : ∀ value, first = .ok value → FailsWithin kind (next value)) :
    FailsWithin kind (first >>= next) := by
  intro fault failed
  cases first with
  | error cause => exact former fault (congrArg Except.error (Except.error.inj failed))
  | ok value => exact latter value rfl fault failed

theorem map {computed : Except ε α} (within : FailsWithin kind computed) (change : α → β) :
    FailsWithin kind (computed.map change) := by
  intro fault failed
  cases computed with
  | error cause => exact within fault (congrArg Except.error (Except.error.inj failed))
  | ok value => cases failed

theorem mapM {convert : α → Except ε β} {items : List α}
    (each : ∀ item ∈ items, FailsWithin kind (convert item)) :
    FailsWithin kind (items.mapM convert) := by
  induction items with
  | nil => exact ok _
  | cons item rest inductionHypothesis =>
      rw [List.mapM_cons]
      apply (each item List.mem_cons_self).bind
      intro value _
      have others := inductionHypothesis fun other member =>
        each other (List.mem_cons_of_mem _ member)
      apply others.bind
      exact fun values _ => ok _

theorem foldlM {step : β → α → Except ε β} (each : ∀ state item, FailsWithin kind (step state item))
    (items : List α) (start : β) : FailsWithin kind (items.foldlM step start) := by
  induction items generalizing start with
  | nil => exact ok _
  | cons item rest inductionHypothesis =>
      rw [List.foldlM_cons]
      exact (each start item).bind fun state _ => inductionHypothesis state

end FailsWithin

namespace Order

open FailsWithin

variable {α ε : Type} {kind : ε → Prop}

section Boundary

variable {passes : α → Except ε Bool} (test : ∀ element, FailsWithin kind (passes element))

include test

theorem boundary_failsWithin (elements : List α) :
    FailsWithin kind (boundary passes elements) := by
  induction elements using boundary.induct with
  | case1 elements half none =>
      rw [boundary]
      split
      · exact ok _
      · rename_i middle upper same
        exact absurd (none.symm.trans same) (List.cons_ne_nil _ _).symm
  | case2 elements half middle upper same above below =>
      rw [boundary]
      split
      · exact ok _
      · rename_i other rest again
        obtain ⟨rfl, rfl⟩ := List.cons.inj (same.symm.trans again)
        apply (test middle).bind
        intro passed _
        split
        · exact above.bind fun count _ => ok _
        · exact below

theorem boundaryFromFront_failsWithin (passed : Nat) (elements : List α) :
    FailsWithin kind (boundaryFromFront passes passed elements) := by
  induction passed, elements using boundaryFromFront.induct with
  | case1 passed elements stride none =>
      rw [boundaryFromFront]
      split
      · exact (boundary_failsWithin test elements).bind fun count _ => ok _
      · rename_i last beyond same
        exact absurd (none.symm.trans same) (List.cons_ne_nil _ _).symm
  | case2 passed elements stride last beyond same further =>
      rw [boundaryFromFront]
      split
      · exact (boundary_failsWithin test elements).bind fun count _ => ok _
      · rename_i other rest again
        obtain ⟨rfl, rfl⟩ := List.cons.inj (same.symm.trans again)
        apply (test last).bind
        intro passes _
        split
        · exact further
        · exact (boundary_failsWithin test _).bind fun count _ => ok _

theorem boundaryFromBack_failsWithin (passed : Nat) (elements : List α) :
    FailsWithin kind (boundaryFromBack passes passed elements) := by
  induction passed, elements using boundaryFromBack.induct with
  | case1 passed elements stride short =>
      rw [boundaryFromBack, dif_pos short]
      exact boundary_failsWithin test elements
  | case2 passed elements stride front long none =>
      rw [boundaryFromBack, dif_neg long]
      split
      · exact ok _
      · rename_i first beyond same
        exact absurd (none.symm.trans same) (List.cons_ne_nil _ _).symm
  | case3 passed elements stride front long first beyond same further =>
      rw [boundaryFromBack, dif_neg long]
      split
      · exact ok _
      · rename_i other rest again
        obtain ⟨rfl, rfl⟩ := List.cons.inj (same.symm.trans again)
        apply (test first).bind
        intro passes _
        split
        · exact (boundary_failsWithin test beyond).bind fun count _ => ok _
        · exact further

end Boundary

/-- A merge fails only where one of its moves does. -/
theorem MergeSide.run_failsWithin (side : MergeSide α ε)
    (one : ∀ state, FailsWithin kind (side.moveOne state))
    (many : ∀ state, FailsWithin kind (side.moveMany state)) (steps patience : Nat) (pace : Pace)
    (state : Merging α) : FailsWithin kind (side.run steps patience pace state) := by
  induction steps generalizing patience pace state with
  | zero => exact ok _
  | succ steps inductionHypothesis =>
      unfold run
      split
      · exact ok _
      · split
        · exact (one state).bind fun moved _ => inductionHypothesis _ _ _
        · apply (many state).bind
          intro moved _
          split
          · exact ok _
          · split <;> exact inductionHypothesis _ _ _

section Comparison

variable {precedes : α → α → Except ε Bool}
  (compare : ∀ first second, FailsWithin kind (precedes first second))

include compare

/-- A comparison whose answer is turned round fails like the comparison. -/
theorem not_failsWithin (first second : α) :
    FailsWithin kind ((precedes first second).map not) := (compare first second).map not

namespace Merging

theorem moveOneFromFront_failsWithin (state : Merging α) :
    FailsWithin kind (state.moveOneFromFront precedes) := by
  unfold moveOneFromFront
  split
  · apply (compare _ _).bind
    intro before _
    split <;> exact ok _
  · exact ok _

theorem moveManyFromFront_failsWithin (state : Merging α) :
    FailsWithin kind (state.moveManyFromFront precedes) := by
  have first (state : Merging α) : FailsWithin kind (state.moveFirstFromFront precedes) := by
    unfold moveFirstFromFront
    split
    · exact ok _
    · apply (boundaryFromFront_failsWithin (not_failsWithin compare _) 0 _).bind
      intro count _
      dsimp only
      split <;> exact ok _
  have second (state : Merging α) : FailsWithin kind (state.moveSecondFromFront precedes) := by
    unfold moveSecondFromFront
    split
    · exact ok _
    · apply (boundaryFromFront_failsWithin (fun other => compare other _) 0 _).bind
      intro count _
      dsimp only
      split <;> exact ok _
  unfold moveManyFromFront
  apply (first state).bind
  intro moved _
  split
  · exact ok _
  · exact (second moved.1).bind fun next _ => ok _

theorem moveOneFromBack_failsWithin (state : Merging α) :
    FailsWithin kind (state.moveOneFromBack precedes) := by
  unfold moveOneFromBack
  split
  · apply (compare _ _).bind
    intro before _
    split <;> exact ok _
  · exact ok _

theorem moveManyFromBack_failsWithin (state : Merging α) :
    FailsWithin kind (state.moveManyFromBack precedes) := by
  have first (state : Merging α) : FailsWithin kind (state.moveFirstFromBack precedes) := by
    unfold moveFirstFromBack
    split
    · exact ok _
    · apply (boundaryFromBack_failsWithin (not_failsWithin compare _) 0 _).bind
      intro count _
      dsimp only
      split <;> exact ok _
  have second (state : Merging α) : FailsWithin kind (state.moveSecondFromBack precedes) := by
    unfold moveSecondFromBack
    split
    · exact ok _
    · apply (boundaryFromBack_failsWithin (fun other => compare other _) 0 _).bind
      intro count _
      dsimp only
      split <;> exact ok _
  unfold moveManyFromBack
  apply (first state).bind
  intro moved _
  split
  · exact ok _
  · exact (second moved.1).bind fun next _ => ok _

end Merging

theorem mergeOverlap_failsWithin (patience : Nat) (first second : List α) :
    FailsWithin kind (mergeOverlap precedes patience first second) := by
  unfold mergeOverlap
  dsimp only
  split
  · exact (MergeSide.front precedes).run_failsWithin (Merging.moveOneFromFront_failsWithin compare)
      (Merging.moveManyFromFront_failsWithin compare) _ _ _ _
  · exact (MergeSide.back precedes).run_failsWithin (Merging.moveOneFromBack_failsWithin compare)
      (Merging.moveManyFromBack_failsWithin compare) _ _ _ _

theorem mergeRuns_failsWithin (patience : Nat) (first second : List α) :
    FailsWithin kind (mergeRuns precedes patience first second) := by
  unfold mergeRuns
  split
  · exact ok _
  · apply (boundaryFromFront_failsWithin (not_failsWithin compare _) 0 first).bind
    intro kept _
    split
    · exact ok _
    · apply (boundaryFromBack_failsWithin (fun other => compare other _) 0 _).bind
      intro moved _
      split
      · exact ok _
      · exact (mergeOverlap_failsWithin compare _ _ _).bind fun merged _ => ok _

theorem leadingRun_failsWithin (leastSize : Nat) (head : α) (tail : List α) :
    FailsWithin kind (leadingRun precedes leastSize head tail) := by
  have falls : FailsWithin kind (isFalling precedes head tail) := by
    unfold isFalling
    split
    · exact ok _
    · exact compare _ _
  have length (falling : Bool) (last : α) (elements : List α) :
      FailsWithin kind (runLength precedes falling last elements) := by
    induction elements generalizing last with
    | nil => exact ok _
    | cons next rest inductionHypothesis =>
        unfold runLength
        apply (compare next last).bind
        intro before _
        split
        · exact (inductionHypothesis next).bind fun count _ => ok _
        · exact ok _
  have placed (elements : List α) (element : α) :
      FailsWithin kind (place precedes elements element) :=
    (boundary_failsWithin (not_failsWithin compare element) elements).bind fun count _ => ok _
  unfold leadingRun
  apply falls.bind
  intro falling _
  apply (length falling head tail).bind
  intro count _
  exact FailsWithin.foldlM placed _ _

theorem settle_failsWithin (depth patience : Nat) (pending : List (PendingRun α)) :
    FailsWithin kind (settle precedes depth patience pending) := by
  induction patience, pending using settle.induct depth with
  | case1 patience last before rest deeper inductionHypothesis =>
      rw [settle, if_pos deeper]
      exact (mergeRuns_failsWithin compare _ _ _).bind fun merged _ => inductionHypothesis merged
  | case2 patience last before rest shallow =>
      rw [settle, if_neg shallow]
      exact ok _
  | case3 patience pending short =>
      rw [settle]
      · exact ok _
      · exact short

theorem push_failsWithin (total start : Nat) (run : List α) (state : Arranging α) :
    FailsWithin kind (state.push precedes total start run) := by
  unfold Arranging.push
  split
  · exact ok _
  · exact (settle_failsWithin compare _ _ _).bind fun settled _ => ok _

theorem pushRuns_failsWithin (total leastSize start : Nat) (state : Arranging α)
    (elements : List α) :
    FailsWithin kind (pushRuns precedes total leastSize start state elements) := by
  induction start, state, elements using pushRuns.induct with
  | case1 start state =>
      rw [pushRuns]
      exact ok _
  | case2 start state head tail inductionHypothesis =>
      rw [pushRuns]
      apply (leadingRun_failsWithin compare leastSize head tail).bind
      intro run _
      exact (push_failsWithin compare total start run state).bind fun next _ =>
        inductionHypothesis run next

theorem mergePending_failsWithin (patience : Nat) (pending : List (PendingRun α)) :
    FailsWithin kind (mergePending precedes patience pending) := by
  have merged := mergeRuns_failsWithin compare
  induction patience, pending using mergePending.induct with
  | case1 patience =>
      rw [mergePending]
      exact ok _
  | case2 patience run =>
      rw [mergePending]
      exact ok _
  | case3 patience last before =>
      rw [mergePending]
      exact (merged _ _ _).bind fun merged _ => ok _
  | case4 patience last middle before rest shorter inductionHypothesis =>
      rw [mergePending, if_pos shorter]
      exact (merged _ _ _).bind fun merged _ => inductionHypothesis merged
  | case5 patience last middle before rest longer inductionHypothesis =>
      rw [mergePending, if_neg longer]
      exact (merged _ _ _).bind fun merged _ => inductionHypothesis merged

/-- Elements that cannot all be compared are arranged, or a comparison of two of them fails. -/
theorem arrange_failsWithin (elements : List α) :
    FailsWithin kind (arrange precedes elements) := by
  unfold arrange
  apply (pushRuns_failsWithin compare _ _ _ _ _).bind
  exact fun arranging _ => mergePending_failsWithin compare _ _

end Comparison

end Order

end CodeGraph

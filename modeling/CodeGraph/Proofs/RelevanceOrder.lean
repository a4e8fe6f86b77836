import CodeGraph.Proofs.KeyText
import CodeGraph.Proofs.RoundedOrder
import CodeGraph.Proofs.Sorting
import CodeGraph.Report.ContextSelection
import Mathlib.Data.Prod.Lex
import Mathlib.Data.String.Basic

/-!
This file says that the scores put candidates in the order of their relevance, their distance and
their key. The scores are rounded and bounded from below, but they never grow with the distance.
-/

namespace CodeGraph

namespace RelevanceScore

/-- More steps do not raise the score. -/
theorem afterSteps_le {first second : Binary64} (fewer : first.le second = true) :
    (afterSteps second).le (afterSteps first) = true := by
  obtain ⟨baseUnits, -, base⟩ := Binary64.exists_units transitiveBase (by decide +kernel)
  obtain ⟨decayUnits, positive, decay⟩ :=
    Binary64.exists_units RelevanceScore.decay (by decide +kernel)
  unfold afterSteps
  dsimp only
  apply Binary64.roundPlaces_le
  apply Binary64.raise_le (by decide +kernel)
  rw [base, decay]
  exact Binary64.sub_le_sub_left _ _ (Binary64.mul_le_mul positive fewer)

/-- The score does not grow with the distance, below the floor as well. -/
theorem atDepth_le {near far : Nat} (further : near ≤ far) :
    (atDepth far).le (atDepth near) = true := by
  apply afterSteps_le
  apply Binary64.ofInt_le
  omega

/-- The scores reach their bottom, where the distance no longer shows in them. -/
example : atDepth 9 = atDepth 10 := by decide +kernel

theorem caller_le_caller : caller.le caller = true := by decide +kernel

theorem callee_le_callee : callee.le callee = true := by decide +kernel

theorem callee_lt_caller : callee.lt caller = true := by decide +kernel

/-- A direct neighbour scores higher than every other candidate. -/
theorem atDepth_lt_callee (depth : Nat) : (atDepth depth).lt callee = true :=
  Binary64.lt_of_le_of_lt (atDepth_le (Nat.zero_le depth)) (by decide +kernel)

end RelevanceScore

/-- Callers come first, then callees, then all others. -/
def Relevance.rank : Relevance → Nat
  | .directCaller => 0
  | .directCallee => 1
  | .transitive => 2

theorem Relevance.rank_injective : Function.Injective Relevance.rank := by
  intro first second same
  cases first <;> cases second <;> first | rfl | cases same

namespace Candidate

variable {first second : Candidate}

/-- The candidates stand in the order of their relevance, then of their distance, then of their
keys. -/
def IsBefore (first second : Candidate) : Prop :=
  first.relevance.rank < second.relevance.rank ∨
    (first.relevance = second.relevance ∧ (first.depth < second.depth ∨
      (first.depth = second.depth ∧ first.address.text < second.address.text)))

/-- A candidate of higher relevance scores higher. -/
theorem score_lt_of_rank (closer : first.relevance.rank < second.relevance.rank) :
    second.score.lt first.score = true := by
  unfold score
  cases firstLabel : first.relevance <;> cases secondLabel : second.relevance <;>
    rw [firstLabel, secondLabel] at closer
  case directCaller.directCallee => exact RelevanceScore.callee_lt_caller
  case directCaller.transitive =>
    exact Binary64.lt_of_le_of_lt (Binary64.lt_iff.mp (RelevanceScore.atDepth_lt_callee _)).1
      RelevanceScore.callee_lt_caller
  case directCallee.transitive => exact RelevanceScore.atDepth_lt_callee _
  all_goals exact absurd closer (by decide)

/-- Of two candidates of one relevance the nearer one scores no lower. -/
theorem score_le_of_depth (same : first.relevance = second.relevance)
    (nearer : first.depth ≤ second.depth) : second.score.le first.score = true := by
  unfold score
  rw [← same]
  cases first.relevance with
  | directCaller => exact RelevanceScore.caller_le_caller
  | directCallee => exact RelevanceScore.callee_le_callee
  | transitive => exact RelevanceScore.atDepth_le nearer

/-- The scores give the order by relevance, distance and key. -/
theorem precedes_iff : first.precedes second = true ↔ first.IsBefore second := by
  have reversed {left right : Candidate} (higher : right.score.lt left.score = true) :
      left.score.lt right.score = false :=
    Binary64.lt_eq_false_of_le (Binary64.lt_iff.mp higher).1
  unfold precedes IsBefore
  rcases Nat.lt_trichotomy first.relevance.rank second.relevance.rank with closer | same | further
  · simp [score_lt_of_rank closer, closer]
  · have labels := Relevance.rank_injective same
    rcases Nat.lt_trichotomy first.depth second.depth with nearer | level | farther
    · have notHigher := Binary64.lt_eq_false_of_le (score_le_of_depth labels nearer.le)
      simp [notHigher, labels, nearer, nearer.ne]
    · have left := Binary64.lt_eq_false_of_le (score_le_of_depth labels level.le)
      have right := Binary64.lt_eq_false_of_le (score_le_of_depth labels.symm level.ge)
      simp [left, right, labels, level, Address.precedes]
    · have notHigher := Binary64.lt_eq_false_of_le (score_le_of_depth labels.symm farther.le)
      simp [notHigher, labels, farther.ne', farther.not_gt]
  · have lower := score_lt_of_rank further
    have labels : first.relevance ≠ second.relevance := fun equal => by
      rw [equal] at further
      exact Nat.lt_irrefl _ further
    simp [lower, reversed lower, labels, further.not_gt]

/-- No two candidates stand at one place of the order. -/
theorem precedes_strict : Order.IsStrict precedes fun _ => True := by
  have compared (first second : Candidate) : first.precedes second = true ↔
      toLex (first.relevance.rank, toLex (first.depth, first.address.text)) <
        toLex (second.relevance.rank, toLex (second.depth, second.address.text)) := by
    rw [precedes_iff, IsBefore, Prod.Lex.toLex_lt_toLex, Prod.Lex.toLex_lt_toLex]
    simp only [Relevance.rank_injective.eq_iff]
  refine .of_key (fun first second _ _ => compared first second) fun first second _ _ same => ?_
  obtain ⟨ranks, places⟩ := Prod.mk.inj (toLex_inj.mp same)
  obtain ⟨depths, keys⟩ := Prod.mk.inj (toLex_inj.mp places)
  cases first
  cases second
  rw [mk.injEq]
  exact ⟨Address.text_injective keys, depths, Relevance.rank_injective ranks⟩

/-- Different candidates are ranked by relevance, distance and key. -/
theorem sort_isBefore {candidates : List Candidate} (distinct : candidates.Nodup) :
    (Order.sort precedes candidates).Pairwise IsBefore :=
  (Order.sort_increasing precedes_strict (fun _ _ => trivial) distinct).imp precedes_iff.mp

end Candidate

end CodeGraph

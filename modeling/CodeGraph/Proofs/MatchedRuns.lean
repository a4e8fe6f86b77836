import CodeGraph.Proofs.RoundedOrder
import CodeGraph.Text.Similarity

/-!
This file bounds the similarity of texts. A run that two texts share lies inside both of them, so no
character is matched twice, and the similarity is a share between zero and one.
-/

namespace CodeGraph.Text

/-- The run lies inside texts of the given lengths. -/
structure SharedRun.Fits (run : SharedRun) (first second : Nat) : Prop where
  inFirst : run.firstStart + run.length ≤ first
  inSecond : run.secondStart + run.length ≤ second

/-- The runs start inside both texts. The first text has been read up to the end of the runs, and
the second one has the given size. -/
def AreRuns (firstEnd size : Nat) (runs : List (Nat × Nat)) : Prop :=
  ∀ run ∈ runs, run.2 ≤ firstEnd ∧ run.2 ≤ run.1 + 1 ∧ run.1 < size

section Scan

variable {offset size firstEnd first : Nat} {runs : List (Nat × Nat)} {best : SharedRun}

theorem lt_of_mem_placesWithin {places : List Nat} {place : Nat}
    (member : place ∈ placesWithin offset size places) : place < size := by
  obtain ⟨other, inside, rfl⟩ := List.mem_map.mp member
  have bounds := (List.mem_filter.mp inside).2
  simp only [Bool.and_eq_true, decide_eq_true_eq] at bounds
  omega

/-- Runs that are continued by one character stay inside both texts. -/
theorem AreRuns.runsAt {places : List Nat} {before : List (Nat × Nat)}
    (areRuns : AreRuns firstEnd size before) (inside : ∀ place ∈ places, place < size) :
    AreRuns (firstEnd + 1) size (runsAt places before) := by
  induction places generalizing before with
  | nil => exact fun _ member => absurd member List.not_mem_nil
  | cons place rest inductionHypothesis =>
      obtain ⟨here, others⟩ := List.forall_mem_cons.mp inside
      have near : AreRuns firstEnd size (before.dropWhile fun run => run.1 + 1 < place) :=
        fun run member => areRuns run ((List.dropWhile_sublist _).subset member)
      unfold Text.runsAt
      dsimp only
      refine List.forall_mem_cons.mpr ⟨?_, inductionHypothesis near others⟩
      split
      · rename_i run later found
        have bounds := near run (found ▸ List.mem_cons_self)
        dsimp only
        split_ifs <;> omega
      · dsimp only
        omega

theorem improve_fits (fits : best.Fits first size) (areRuns : AreRuns firstEnd size runs)
    (within : firstEnd ≤ first) : (improve firstEnd best runs).Fits first size := by
  induction runs generalizing best with
  | nil => exact fits
  | cons run rest inductionHypothesis =>
      obtain ⟨bounds, others⟩ := List.forall_mem_cons.mp areRuns
      refine inductionHypothesis ?_ others
      split_ifs
      · constructor <;> dsimp only <;> omega
      · exact fits

theorem scanRuns_fits {occurrences : List Occurrence} {position : Nat} {before : List (Nat × Nat)}
    (fits : best.Fits first size) (areRuns : AreRuns position size before)
    (within : position + occurrences.length ≤ first) :
    (scanRuns offset size position before best occurrences).Fits first size := by
  induction occurrences generalizing position before best with
  | nil => exact fits
  | cons occurrence rest inductionHypothesis =>
      rw [List.length_cons] at within
      have continued := areRuns.runsAt fun place member =>
        @lt_of_mem_placesWithin offset size occurrence.places place member
      exact inductionHypothesis (improve_fits fits continued (by omega)) continued (by omega)

end Scan

theorem commonStart_le (first second : List Char) :
    commonStart first second ≤ first.length ∧ commonStart first second ≤ second.length := by
  induction first generalizing second with
  | nil => simp [commonStart]
  | cons c left inductionHypothesis =>
      cases second with
      | nil => simp [commonStart]
      | cons other right =>
          have rest := inductionHypothesis right
          unfold commonStart
          split_ifs <;> simp only [List.length_cons] <;> omega

/-- A run that grows to both sides stays inside both texts. -/
theorem extend_fits {first second : List Char} {run : SharedRun}
    (fits : run.Fits first.length second.length) :
    (extend first second run).Fits first.length second.length := by
  obtain ⟨inFirst, inSecond⟩ := fits
  have back := commonStart_le (first.take run.firstStart).reverse
    (second.take run.secondStart).reverse
  have forth := commonStart_le (first.drop (run.firstStart + run.length))
    (second.drop (run.secondStart + run.length))
  simp only [List.length_reverse, List.length_take, List.length_drop] at back forth
  constructor <;> simp only [extend] <;> omega

theorem longestRun_fits (offset : Nat) (first : List Occurrence) (second : List Char) :
    (longestRun offset first second).Fits first.length second.length := by
  have scanned : (scanRuns offset second.length 0 [] ⟨0, 0, 0⟩ first).Fits first.length
      second.length :=
    scanRuns_fits ⟨Nat.zero_le _, Nat.zero_le _⟩ (fun _ member => absurd member List.not_mem_nil)
      (Nat.zero_add _).le
  rw [← List.length_map (f := Occurrence.char)] at scanned ⊢
  exact extend_fits scanned

/-- No character of either text is matched twice. -/
theorem matchedCount_le (offset : Nat) (first : List Occurrence) (second : List Char) :
    matchedCount offset first second ≤ first.length ∧
      matchedCount offset first second ≤ second.length := by
  induction offset, first, second using matchedCount.induct with
  | case1 offset first second run inside before behind =>
      have parts : matchedCount offset first second = run.length +
          matchedCount offset (first.take run.firstStart) (second.take run.secondStart) +
          matchedCount (offset + (run.secondStart + run.length))
            (first.drop (run.firstStart + run.length))
            (second.drop (run.secondStart + run.length)) := by
        rw [matchedCount]
        exact if_pos inside
      have fits : run.Fits first.length second.length := longestRun_fits offset first second
      obtain ⟨inFirst, inSecond⟩ := fits
      simp only [List.length_take, List.length_drop] at before behind
      rw [parts]
      omega
  | case2 offset first second run outside =>
      have nothing : matchedCount offset first second = 0 := by
        rw [matchedCount]
        exact if_neg outside
      rw [nothing]
      exact ⟨Nat.zero_le _, Nat.zero_le _⟩

/-- No two texts are more similar than equal ones. -/
theorem similarity_le_one (first second : List Char) :
    (similarity first second).le (Binary64.ofInt 1) = true := by
  have matched := matchedCount_le 0 (occurrences first second) second
  have length : (occurrences first second).length = first.length := List.length_map _
  unfold similarity
  dsimp only
  split_ifs with empty
  · decide +kernel
  · exact Binary64.ofQuotient_le_one (by omega) (by omega)

theorem zero_le_similarity (first second : List Char) :
    Binary64.zero.le (similarity first second) = true := by
  unfold similarity
  dsimp only
  split_ifs with empty
  · decide +kernel
  · exact Binary64.zero_le_ofQuotient _ _

end CodeGraph.Text

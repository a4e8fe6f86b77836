import CodeGraph.Proofs.FilePlaces
import CodeGraph.Proofs.NothingLeft

/-!
This file holds the names beside a snapshot file. Its path alone names their places, which differ
and stand below the directories that are made for the file.
-/

namespace CodeGraph

namespace Disk

/-- Different endings lead to different places. -/
theorem label_place_append_ne {first second : String} (firstEnding : IsEnding first)
    (secondEnding : IsEnding second) (apart : first ≠ second) (path : String) :
    label (place (path ++ first)) ≠ label (place (path ++ second)) := by
  rw [place_append firstEnding, place_append secondEnding]
  exact label_append_ne apart _ _

/-- A name that is made from a path by adding to its end is not always there. -/
theorem not_standing_append {ending : String} (isEnding : IsEnding ending) (path : String) :
    isStanding (place (path ++ ending)) = false := by
  rw [place_append isEnding]
  exact not_standing_name _ (isEnding.long_append _)

/-- The same places are below a path and below what is made from it by adding to its end. -/
theorem LeavesNothing.of_append {ending path : String} {names : List String} {first second : Disk}
    (isEnding : IsEnding ending) (leaves : LeavesNothing (path ++ ending) names first second) :
    LeavesNothing path names first second := by
  refine ⟨leaves.keeps, fun place => ?_⟩
  have nodes := leaves.nodes place
  unfold LeavesNothingAt IsBelow at nodes ⊢
  rwa [basePlace_append isEnding] at nodes

end Disk

namespace SnapshotFile

open Disk

variable {file : SnapshotFile}

/-- The places that the paths of a file name. -/
def places (file : SnapshotFile) : Places where
  path := place file.path
  temporary := place file.temporary
  lock := place file.lock.path
  claim := place file.lock.claim

/-- The labels of the places beside a file. -/
def namesBeside (file : SnapshotFile) : List String :=
  [label file.places.temporary, label file.places.lock, label file.places.claim]

theorem isBelow_temporary (file : SnapshotFile) : IsBelow file.path file.places.temporary :=
  isBelow_append temporary_isEnding file.path

theorem isBelow_lock (file : SnapshotFile) : IsBelow file.path file.places.lock :=
  isBelow_append lock_isEnding file.path

theorem isBelow_claim (slashless : '/' ∉ file.claimant.toList) :
    IsBelow file.path file.places.claim := by
  unfold places
  rw [claim_eq]
  exact isBelow_append (claim_isEnding slashless) file.path

theorem namesBeside_areBelow (slashless : '/' ∉ file.claimant.toList) :
    AreBelow file.path file.namesBeside := by
  intro place member
  unfold namesBeside at member
  unfold IsBelow
  rcases List.mem_cons.mp member with same | behind
  · rw [same]
    exact isBelow_temporary file
  · rcases List.mem_cons.mp behind with same | last
    · rw [same]
      exact isBelow_lock file
    · rw [List.mem_singleton.mp last]
      exact isBelow_claim slashless

theorem lock_mem_namesBeside (file : SnapshotFile) :
    label (place file.lock.path) ∈ file.namesBeside :=
  List.mem_cons_of_mem _ List.mem_cons_self

theorem claim_mem_namesBeside (file : SnapshotFile) :
    label (place file.lock.claim) ∈ file.namesBeside :=
  List.mem_cons_of_mem _ (List.mem_cons_of_mem _ List.mem_cons_self)

theorem lock_apart_claim (slashless : '/' ∉ file.claimant.toList) :
    label file.places.lock ≠ label file.places.claim := by
  unfold places
  rw [claim_eq]
  exact label_place_append_ne lock_isEnding (claim_isEnding slashless)
    (ne_claim_of_short file (by decide)) file.path

theorem temporary_apart_claim (file : SnapshotFile) (slashless : '/' ∉ file.claimant.toList) :
    label file.places.temporary ≠ label file.places.claim := by
  unfold places
  rw [claim_eq]
  exact label_place_append_ne temporary_isEnding (claim_isEnding slashless)
    (ne_claim_of_short file (by decide)) file.path

theorem lock_apart_temporary (file : SnapshotFile) :
    label file.places.lock ≠ label file.places.temporary :=
  label_place_append_ne lock_isEnding temporary_isEnding (by decide) file.path

theorem lock_unfixed (file : SnapshotFile) : isStanding file.places.lock = false :=
  not_standing_append lock_isEnding file.path

theorem claim_unfixed (slashless : '/' ∉ file.claimant.toList) :
    isStanding file.places.claim = false := by
  unfold places
  rw [claim_eq]
  exact not_standing_append (claim_isEnding slashless) file.path

theorem temporary_subset_namesBeside (file : SnapshotFile) :
    [label file.places.temporary] ⊆ file.namesBeside :=
  List.cons_subset.mpr ⟨List.mem_cons_self, List.nil_subset _⟩

/-- The path of a file is none of the names beside it. -/
theorem path_notMem_namesBeside (slashless : '/' ∉ file.claimant.toList) :
    label file.places.path ∉ file.namesBeside := by
  have apart {ending : String} (isEnding : IsEnding ending) :
      label file.places.path ≠ label (place (file.path ++ ending)) := by
    intro same
    have less := length_label_place_lt isEnding file.path
    rw [← same] at less
    exact Nat.lt_irrefl _ less
  unfold namesBeside
  refine List.not_mem_cons_of_ne_of_not_mem (apart temporary_isEnding)
    (List.not_mem_cons_of_ne_of_not_mem (apart lock_isEnding)
      (List.not_mem_cons_of_ne_of_not_mem ?_ List.not_mem_nil))
  have claim := apart (claim_isEnding slashless)
  rwa [← claim_eq] at claim

theorem temporary_apart_path (slashless : '/' ∉ file.claimant.toList) :
    label file.places.temporary ≠ label file.places.path := fun same =>
  path_notMem_namesBeside slashless (same ▸ file.temporary_subset_namesBeside List.mem_cons_self)

end SnapshotFile

end CodeGraph

import CodeGraph.Proofs.LockDiscipline

/-!
This file says what it means that a file stays as it was. Making directories leaves all files alone,
and so do loads and saves that fail with the file that they are about.
-/

namespace CodeGraph

namespace Disk

variable {disk first second third : Disk} {path : String} {place : List String}

/-- The files of both disks are the same, and no directory is gone. -/
structure KeepsFiles (first second : Disk) : Prop where
  keeps : Keeps first second
  same : ∀ place content age, second.node? place = some (.file content age) ↔
    first.node? place = some (.file content age)

/-- The file at a path is as it was, or there is none as before, and no directory is gone. -/
structure KeepsFile (path : String) (first second : Disk) : Prop where
  keeps : Keeps first second
  same : ∀ content age, second.node? (Disk.place path) = some (.file content age) ↔
    first.node? (Disk.place path) = some (.file content age)

theorem KeepsFiles.refl (disk : Disk) : KeepsFiles disk disk := ⟨Keeps.refl disk, fun _ _ _ => .rfl⟩

theorem KeepsFiles.trans (former : KeepsFiles first second) (latter : KeepsFiles second third) :
    KeepsFiles first third :=
  ⟨former.keeps.trans latter.keeps,
    fun place content age => (latter.same place content age).trans (former.same place content age)⟩

theorem KeepsFiles.keepsFile (files : KeepsFiles first second) (path : String) :
    KeepsFile path first second := ⟨files.keeps, files.same (Disk.place path)⟩

namespace KeepsFile

theorem trans (former : KeepsFile path first second) (latter : KeepsFile path second third) :
    KeepsFile path first third :=
  ⟨former.keeps.trans latter.keeps,
    fun content age => (latter.same content age).trans (former.same content age)⟩

end KeepsFile

/-- Work beside a path that leaves nothing behind at the path leaves its file alone. -/
theorem LeavesNothingAt.keepsFile {names : List String}
    (leaves : LeavesNothingAt path names first second (Disk.place path))
    (keeps : Keeps first second) (apart : label (Disk.place path) ∉ names) :
    KeepsFile path first second := by
  refine ⟨keeps, fun content age => ⟨leaves.files, fun found => ?_⟩⟩
  have present : first.node? (Disk.place path) ≠ none := by
    rw [found]
    exact Option.some_ne_none _
  exact (leaves.stays apart present).trans found

/-- A directory in an empty place leaves all files alone. -/
theorem set_directory_keepsFiles (free : disk.node? place = none) (age : Int) :
    KeepsFiles disk (disk.set place (.directory age)) := by
  have plain := not_directory_of_none free
  refine ⟨set_keeps plain _, fun other content otherAge => ?_⟩
  by_cases same : label place = label other
  · cases standing : isStanding other with
    | true => rw [node?_same_of_standing standing disk]
    | false =>
        have before : disk.node? other = none := by
          rw [node?_of_not_standing (not_standing_of_file plain)] at free
          rw [node?_of_not_standing standing, ← same, free]
        rw [before, node?_of_not_standing standing, filed?_set, if_pos same]
        simp
  · rw [node?_set_of_ne same]

/-- Making directories leaves all files alone, also when it fails. -/
theorem makeAlong_keepsFiles (disk : Disk) (made : Bool) (place components : List String) :
    KeepsFiles disk (disk.makeAlong made place components).2 := by
  induction components generalizing disk made place with
  | nil => exact KeepsFiles.refl disk
  | cons component rest inductionHypothesis =>
      unfold makeAlong
      cases disk.enter place component with
      | error fault => exact KeepsFiles.refl disk
      | ok next =>
          dsimp only
          cases found : disk.node? next with
          | none => exact (set_directory_keepsFiles found 0).trans (inductionHypothesis _ _ _)
          | some node =>
              cases node with
              | directory age => exact inductionHypothesis _ _ _
              | file content age =>
                  dsimp only
                  split
                  · exact KeepsFiles.refl disk
                  · split <;> exact KeepsFiles.refl disk

theorem makeDirectories_keepsFiles (disk : Disk) (path : String) :
    KeepsFiles disk (disk.makeDirectories path).2 := by
  unfold makeDirectories
  rcases makeBehind_snd disk 0 path with same | same
  · rw [same]
    exact KeepsFiles.refl disk
  · rw [same]
    exact makeAlong_keepsFiles disk _ _ _

end Disk

namespace SnapshotFile

variable {file : SnapshotFile} {disk : Disk}

theorem load_keepsFile (slashless : '/' ∉ file.claimant.toList) (vocabulary : Vocabulary)
    (now : String) (disk : Disk) :
    Disk.KeepsFile file.path disk (file.load vocabulary now disk).2 :=
  have leaves := load_leavesNothing slashless vocabulary now disk
  (leaves.nodes _).keepsFile leaves.keeps (path_notMem_namesBeside slashless)

/-- A save that fails leaves the file alone. -/
theorem save_keepsFile (slashless : '/' ∉ file.claimant.toList) {snapshot : Snapshot}
    {fault : Fault} (failed : (file.save snapshot disk).1 = .error fault) :
    Disk.KeepsFile file.path disk (file.save snapshot disk).2 :=
  have leaves := save_leavesOnly slashless failed
  (leaves.nodes _ (temporary_apart_path slashless)).keepsFile leaves.keeps
    (path_notMem_namesBeside slashless)

/-- After a save that succeeds the file holds the snapshot. -/
theorem find?_of_save (slashless : '/' ∉ file.claimant.toList) {snapshot : Snapshot}
    (saved : (file.save snapshot disk).1 = .ok ()) :
    (file.save snapshot disk).2.find? file.path = some (.file (content snapshot) 0) := by
  obtain ⟨places, idle, found⟩ := isIdle_of_save slashless saved
  rw [Disk.find?_of_resolve idle.ready.path]
  exact found

end SnapshotFile

end CodeGraph

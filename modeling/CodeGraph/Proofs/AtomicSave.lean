import CodeGraph.Proofs.LockAttempts
import CodeGraph.Proofs.SameContent
import CodeGraph.Proofs.SavedFile
import CodeGraph.Proofs.SnapshotDocument

/-!
This file says that a save is done as a whole or not at all, whatever the disk is like: either the
file holds the snapshot, or what stood there stays and no other file is left behind.
-/

namespace CodeGraph

/-- The document of a sound snapshot is well formed where the names of all metadata are texts. -/
theorem Snapshot.toValue_isWellFormed {snapshot : Snapshot} (sound : snapshot.IsSound)
    (named : snapshot.IsNamed) : snapshot.toValue.IsWellFormed := by
  obtain ⟨time, stamped, -⟩ := sound.createdAt
  refine ⟨toValue_hasDoubles sound, ?_⟩
  have entities : ∀ entity ∈ snapshot.entities.rows, entity.toValue.HasDistinctNames := by
    intro entity member
    obtain ⟨path, isText⟩ := sound.paths entity member
    have metadata := Metadata.toValue_hasDistinctNames (sound.metadata entity member)
      (named entity member)
    simp [Entity.toValue, Entity.fields, Value.HasDistinctNames, Value.FieldsHaveDistinctNames,
      Value.ItemsHaveDistinctNames, isText, metadata]
  simp [toValue, stamped, Value.HasDistinctNames, Value.FieldsHaveDistinctNames,
    Value.itemsHaveDistinctNames_iff, Edge.toValue_hasDistinctNames,
    ChangeSet.toValue_hasDistinctNames]
  exact entities

namespace SnapshotFile

open Disk

variable {file : SnapshotFile} {disk locked : Disk} {snapshot : Snapshot} {fault : Fault}

theorem abandon_leavesNothing (file : SnapshotFile) (disk : Disk) :
    LeavesNothing file.path [label file.places.temporary] disk (file.abandon disk).2 := by
  unfold abandon
  split
  · exact LeavesNothing.refl disk
  · exact leavesNothing_discard List.mem_cons_self disk

/-- A temporary file that was written is taken away again. -/
theorem abandon_written {bytes : ByteArray} {next : Disk}
    (written : disk.write file.temporary bytes = .ok next) :
    disk.isDirectory file.places.temporary = false ∧
      next = disk.set file.places.temporary (.file bytes 0) ∧
      file.abandon next =
        (.error (.storage (.saveFailed file.path)), next.erase file.places.temporary) := by
  obtain ⟨temporary, resolved, plain, rfl⟩ := of_write written
  have same : temporary = file.places.temporary := resolve_eq_place resolved
  subst same
  have stands : (disk.set file.places.temporary (.file bytes 0)).node?
      file.places.temporary = some (.file bytes 0) :=
    node?_set_self (not_standing_of_file plain) _
  have again := resolve_keeps (set_keeps plain (.file bytes 0)) resolved
  have found : (disk.set file.places.temporary (.file bytes 0)).find? file.temporary =
      some (.file bytes 0) := by
    rw [find?_of_resolve again]
    exact stands
  have discarded : (disk.set file.places.temporary (.file bytes 0)).discard file.temporary =
      (disk.set file.places.temporary (.file bytes 0)).erase file.places.temporary :=
    discard_eq again stands
  refine ⟨plain, rfl, ?_⟩
  unfold abandon
  rw [found, discarded]

theorem abandon_written_leavesNothing {bytes : ByteArray} {next : Disk}
    (written : disk.write file.temporary bytes = .ok next) :
    LeavesNothing file.path [label file.places.temporary] disk (file.abandon next).2 := by
  obtain ⟨plain, rfl, abandoned⟩ := abandon_written written
  rw [abandoned]
  exact leavesNothing_erase_set List.mem_cons_self plain bytes 0

/-- A document that can be written leaves no temporary file behind if it cannot be put into the
file. -/
theorem put_leavesNothing (writable : snapshot.toValue.IsWritable writeLimit)
    (failed : (file.put snapshot disk).1 = .error fault) :
    LeavesNothing file.path [label file.places.temporary] disk (file.put snapshot disk).2 := by
  rw [put_of_writable writable] at failed ⊢
  unfold putWhole at failed ⊢
  cases written : disk.write file.temporary (content snapshot) with
  | error cause => exact abandon_leavesNothing file disk
  | ok next =>
      rw [written] at failed
      dsimp only at failed ⊢
      cases replaced : next.replace file.temporary file.path with
      | ok last =>
          rw [replaced] at failed
          cases failed
      | error cause => exact abandon_written_leavesNothing written

/-- A text that breaks off leaves nothing but the temporary file behind. -/
theorem breakOff_leavesOnly (file : SnapshotFile) (snapshot : Snapshot) (cause : Defect)
    (disk : Disk) :
    LeavesOnly file.path [label file.places.temporary] (label file.places.temporary) disk
      (file.breakOff snapshot cause disk).2 := by
  unfold breakOff
  cases written : disk.write file.temporary (begunContent snapshot) with
  | error refused => exact (abandon_leavesNothing file disk).leavesOnly _
  | ok next =>
      dsimp only
      split
      · exact (abandon_written_leavesNothing written).leavesOnly _
      · obtain ⟨plain, rfl, -⟩ := abandon_written written
        exact leavesOnly_set plain _ _

/-- A snapshot that cannot be put into the file leaves at most the temporary file behind. -/
theorem put_leavesOnly (failed : (file.put snapshot disk).1 = .error fault) :
    LeavesOnly file.path [label file.places.temporary] (label file.places.temporary) disk
      (file.put snapshot disk).2 := by
  cases found : snapshot.toValue.writeDefect? writeLimit with
  | none => exact (put_leavesNothing ⟨found⟩ failed).leavesOnly _
  | some cause =>
      unfold put
      rw [found]
      exact breakOff_leavesOnly file snapshot cause disk

/-- A lock under which at most a temporary file came about is still held. -/
theorem HasTaken.release_eq {left : Disk} (taken : file.HasTaken disk locked)
    (leaves : LeavesOnly file.path [label file.places.temporary] (label file.places.temporary)
      locked left) :
    file.lock.release left = left.erase file.places.lock := by
  have apart : label file.places.lock ∉ [label file.places.temporary] := by
    simpa using file.lock_apart_temporary
  have here := leaves.nodes file.places.lock (Ne.symm file.lock_apart_temporary)
  exact discard_eq (resolve_keeps leaves.keeps taken.resolved)
    ((here.same_of_below apart file.isBelow_lock).trans taken.held)

theorem makeDirectory_leavesNothing (slashless : '/' ∉ file.claimant.toList) (disk : Disk) :
    LeavesNothing file.path file.namesBeside disk (file.makeDirectory disk).2 := by
  have made := leavesNothing_makeFoldedDirectory (namesBeside_areBelow slashless) disk
  unfold makeDirectory
  rcases same : disk.makeFoldedDirectory file.path with ⟨cause | _, left⟩
  · rw [same] at made
    dsimp only
    split <;> exact made
  · rw [same] at made
    exact made

/-- A save that fails did so before it had the lock, or the snapshot could not be put into the file
under the lock. -/
theorem save_failed_cases (slashless : '/' ∉ file.claimant.toList)
    (failed : (file.save snapshot disk).1 = .error fault) :
    LeavesNothing file.path file.namesBeside disk (file.save snapshot disk).2 ∨
      ∃ locked, file.HasTaken disk locked ∧ (file.put snapshot locked).1 = .error fault ∧
        (file.save snapshot disk).2 = file.lock.release (file.put snapshot locked).2 := by
  have below := namesBeside_areBelow slashless
  have directory := makeDirectory_leavesNothing slashless disk
  unfold save at failed ⊢
  rcases same : file.makeDirectory disk with ⟨cause | _, made⟩
  · rw [same] at directory
    exact .inl directory
  · rw [same] at directory failed
    have asked := acquire_cases slashless made
    dsimp only at failed directory ⊢
    unfold putLocked at failed ⊢
    rcases acquired : file.lock.acquire made with ⟨cause | taken, left⟩
    · rw [acquired] at asked
      rcases asked with ⟨impossible, -⟩ | ⟨-, leaves⟩
      · cases impossible
      · exact .inl (directory.trans below leaves)
    · rw [acquired] at asked failed
      cases taken with
      | false =>
          rcases asked with ⟨impossible, -⟩ | ⟨-, leaves⟩
          · cases impossible
          · exact .inl (directory.trans below leaves)
      | true =>
          rcases asked with ⟨-, taken⟩ | ⟨impossible, -⟩
          · exact .inr ⟨left, taken.behind below directory, failed, rfl⟩
          · exact absurd rfl impossible

/-- A save that fails leaves nothing new behind if the document can be written. -/
theorem save_leavesNothing (slashless : '/' ∉ file.claimant.toList)
    (writable : snapshot.toValue.IsWritable writeLimit)
    (failed : (file.save snapshot disk).1 = .error fault) :
    LeavesNothing file.path file.namesBeside disk (file.save snapshot disk).2 := by
  rcases save_failed_cases slashless failed with leaves | ⟨locked, taken, unput, same⟩
  · exact leaves
  · have leaves := put_leavesNothing writable unput
    rw [same, taken.release_eq (leaves.leavesOnly _)]
    exact taken.rest.trans (namesBeside_areBelow slashless)
      ((leaves.mono file.temporary_subset_namesBeside).erase _)

/-- A save that fails leaves at most the temporary file behind. -/
theorem save_leavesOnly (slashless : '/' ∉ file.claimant.toList)
    (failed : (file.save snapshot disk).1 = .error fault) :
    LeavesOnly file.path file.namesBeside (label file.places.temporary) disk
      (file.save snapshot disk).2 := by
  rcases save_failed_cases slashless failed with leaves | ⟨locked, taken, unput, same⟩
  · exact leaves.leavesOnly _
  · have leaves := put_leavesOnly unput
    rw [same, taken.release_eq leaves]
    exact .behind (namesBeside_areBelow slashless) taken.rest
      ((leaves.mono file.temporary_subset_namesBeside).erase _)

/-- The content of a file is read as the document that was written, but for the marks of numbers
that are not a number. -/
theorem parse_content_unmarked (file : SnapshotFile) (wellFormed : snapshot.toValue.IsWellFormed)
    (writable : snapshot.toValue.IsWritable Json.nestingLimit) :
    file.parse (content snapshot) = .ok snapshot.toValue.unmarked := by
  have read := Value.read_textAt Json.Layout.indented_isPlain wellFormed.doubles writable 0
  rw [Value.reread_eq_unmarked _ wellFormed.names] at read
  unfold parse content
  rw [Utf8.decode?_encode]
  simp only [Json.readDocument, Value.indentedText, read]

/-- The last component of the path names something in a directory. -/
def EndsInName (path : String) : Prop :=
  staysInside (baseName path) = false ∧ baseName path ≠ stepUp

/-- The place of a path that ends in a name stands below the directories that are made for it. -/
theorem isBelow_of_endsInName {path : String} (named : EndsInName path) :
    IsBelow path (place path) := by
  obtain ⟨leads, noStep⟩ := named
  have filled : baseName path ≠ "" := by
    intro empty
    rw [empty] at leads
    cases leads
  have noDot : baseName path ≠ "." := by
    intro dot
    rw [dot] at leads
    cases leads
  have differs {text : String} (apart : baseName path ≠ text) :
      (baseName path).toList ≠ text.toList := fun same => apart (String.toList_inj.mp same)
  have noNothing : (baseName path).toList ≠ [] := differs filled
  have noSingle : (baseName path).toList ≠ ['.'] := differs noDot
  have noDouble : (baseName path).toList ≠ ['.', '.'] := differs noStep
  have joined : FilePath.foldComponent (foldedStack (Text.split '/' path.toList).dropLast)
      (baseName path).toList =
        (baseName path).toList :: foldedStack (Text.split '/' path.toList).dropLast := by
    unfold FilePath.foldComponent
    rw [if_neg (not_or.mpr ⟨noNothing, noSingle⟩), if_neg noDouble]
  have whole : place path = basePlace path ++ [baseName path] := by
    unfold place basePlace
    rw [foldedStack_split, joined, stackPlace_name _ _ noDouble, String.ofList_toList]
  have long : 0 < (baseName path).toList.length :=
    List.length_pos_iff.mpr noNothing
  unfold IsBelow
  rw [whole, length_label_concat]
  omega

/-- A save returns, and then the file holds the snapshot, as it is read if it nests no deeper than
what is read, and there is no temporary file. Or it fails, and then what the file was stays, and a
path that ends in a name and names no file names none still. If the document can be written as a
whole, all files on the disk were then there before with the same content and the same age. -/
theorem save_atomic (slashless : '/' ∉ file.claimant.toList)
    (wellFormed : snapshot.toValue.IsWellFormed) (disk : Disk) :
    let after := (file.save snapshot disk).2
    ((file.save snapshot disk).1 = .ok () ∧
      (∃ bytes, after.find? file.path = some (.file bytes 0) ∧
        (snapshot.toValue.IsWritable Json.nestingLimit →
          file.parse bytes = .ok snapshot.toValue.unmarked)) ∧
      after.find? file.temporary = none) ∨
    ((∃ fault, (file.save snapshot disk).1 = .error fault) ∧
      (∀ node, disk.find? file.path = some node → after.find? file.path = some node) ∧
      (EndsInName file.path → after.node? (place file.path) = disk.node? (place file.path)) ∧
      (snapshot.toValue.IsWritable writeLimit →
        ∀ other bytes age, after.node? other = some (.file bytes age) →
          disk.node? other = some (.file bytes age))) := by
  intro after
  cases outcome : (file.save snapshot disk).1 with
  | ok done =>
      left
      obtain ⟨places, idle, found⟩ := isIdle_of_save slashless outcome
      refine ⟨rfl, ⟨content snapshot, ?_, parse_content_unmarked file wellFormed⟩, ?_⟩
      · rw [find?_of_resolve idle.ready.path]
        exact found
      · rw [find?_of_resolve idle.ready.temporary]
        exact idle.temporaryFree
  | error fault =>
      right
      have leaves := save_leavesOnly slashless outcome
      have apart := path_notMem_namesBeside slashless
      have here := leaves.nodes file.places.path (temporary_apart_path slashless)
      refine ⟨⟨fault, rfl⟩, fun node found => ?_,
        fun named => here.same_of_below apart (isBelow_of_endsInName named),
        fun writable other bytes age =>
          ((save_leavesNothing slashless writable outcome).nodes other).files⟩
      obtain ⟨resolved, stands⟩ := find?_eq_some_iff.mp found
      -- What stands at the path keeps it from being taken for a directory that was made.
      have present : disk.node? file.places.path ≠ none := fun free => by
        cases stands.symm.trans free
      exact find?_eq_some_iff.mpr
        ⟨resolve_keeps leaves.keeps resolved, (here.stays apart present).trans stands⟩

/-- A snapshot of one function outside the source tree with a number in its metadata. -/
def lonelySnapshot : Snapshot where
  entities := ⟨[⟨⟨.python, .function, "lonely", .external, by decide⟩, .text FilePath.unknown,
    ⟨[(.text "weight", .int 3)]⟩⟩], List.pairwise_singleton _ _⟩
  edges := []
  changeSets := Table.empty
  id := "0"
  createdAt := .text "2024-01-02"
  generation := 1
  endpointsPresent := fun _ member => absurd member List.not_mem_nil

theorem lonelySnapshot_isWellFormed : lonelySnapshot.toValue.IsWellFormed := by
  constructor
  · simp [lonelySnapshot, Snapshot.toValue, Entity.toValue, Entity.fields, Metadata.toValue,
      Table.empty, Value.HasDoubles, Value.FieldsHaveDoubles, Value.ItemsHaveDoubles]
  · simp [lonelySnapshot, Snapshot.toValue, Entity.toValue, Entity.fields, Metadata.toValue,
      Table.empty, Value.HasDistinctNames, Value.FieldsHaveDistinctNames,
      Value.ItemsHaveDistinctNames]

theorem lonelySnapshot_isWritable : lonelySnapshot.toValue.IsWritable Json.nestingLimit :=
  ⟨by decide +kernel⟩

/-- A disk on which a directory has the name of the file. -/
def obstructedDisk : Disk := ⟨[("s.json", .directory 5)], 0⟩

/-- On an empty disk a save succeeds, and the file holds what was saved. A directory in the place of
the file makes a save fail, and it stays where it is. -/
theorem save_atomic_lonely :
    (save lonelySnapshot ⟨"s.json", "7.1"⟩ (Disk.empty 0)).1 = .ok () ∧
      (∃ bytes, (save lonelySnapshot ⟨"s.json", "7.1"⟩ (Disk.empty 0)).2.find? "s.json" =
          some (.file bytes 0) ∧
        parse ⟨"s.json", "7.1"⟩ bytes = .ok lonelySnapshot.toValue.unmarked) ∧
      (save lonelySnapshot ⟨"s.json", "7.1"⟩ (Disk.empty 0)).2.find? "s.json.tmp" = none ∧
      (save lonelySnapshot ⟨"s.json", "7.1"⟩ obstructedDisk).1 =
        .error (.storage (.saveFailed "s.json")) ∧
      (save lonelySnapshot ⟨"s.json", "7.1"⟩ obstructedDisk).2.find? "s.json" =
        some (.directory 5) := by
  have saved : (save lonelySnapshot ⟨"s.json", "7.1"⟩ (Disk.empty 0)).1 = .ok () := by
    decide +kernel
  have failed : (save lonelySnapshot ⟨"s.json", "7.1"⟩ obstructedDisk).1 =
      .error (.storage (.saveFailed "s.json")) := by
    decide +kernel
  have found : obstructedDisk.find? "s.json" = some (.directory 5) := rfl
  have atomic := @save_atomic ⟨"s.json", "7.1"⟩ lonelySnapshot (by decide)
    lonelySnapshot_isWellFormed
  rcases atomic (Disk.empty 0) with ⟨-, ⟨bytes, holds, read⟩, gone⟩ | ⟨⟨fault, unsaved⟩, -⟩
  · rcases atomic obstructedDisk with ⟨done, -⟩ | ⟨-, stays, -, -⟩
    · rw [failed] at done
      cases done
    · exact ⟨saved, ⟨bytes, holds, read lonelySnapshot_isWritable⟩, gone, failed,
        stays (.directory 5) found⟩
  · rw [saved] at unsaved
    cases unsaved

/-- A path that ends in a slash is the path of its own directory. A save fails there, but the
directory has been made, so the path that led nowhere leads to a directory. -/
theorem save_makes_directory :
    (Disk.empty 0).contains "s.json/" = false ∧
      (save lonelySnapshot ⟨"s.json/", "7.1"⟩ (Disk.empty 0)).1 =
        .error (.storage (.saveFailed "s.json/")) ∧
      (save lonelySnapshot ⟨"s.json/", "7.1"⟩ (Disk.empty 0)).2.contains "s.json/" = true := by
  decide +kernel

end SnapshotFile

end CodeGraph

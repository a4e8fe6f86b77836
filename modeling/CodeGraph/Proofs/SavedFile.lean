import CodeGraph.Proofs.FilePlaces
import CodeGraph.Proofs.WriteLimits

/-!
This file follows the saving and the loading of a snapshot on the disk. After a save that succeeds
the file holds the snapshot, nothing else is left beside it, and it can be loaded and saved again.
-/

namespace CodeGraph.SnapshotFile

open Disk

variable {file : SnapshotFile} {disk : Disk} {places : Places}

/-- The lock is held: nothing but the lock stands beside the file. -/
structure IsHeld (file : SnapshotFile) (disk : Disk) (places : Places) : Prop where
  ready : file.IsReady disk places
  apart : places.AreApart
  plain : disk.isDirectory places.path = false
  temporaryPlain : disk.isDirectory places.temporary = false
  lockHeld : disk.node? places.lock = some Lock.mark
  claimFree : disk.node? places.claim = none

/-- The document that is written for a snapshot. -/
def document (snapshot : Snapshot) : DiskNode := .file (content snapshot) 0

/-- A save that failed is never reported as done. -/
theorem abandon_ne_ok (disk : Disk) : (file.abandon disk).1 ≠ .ok () := by
  unfold abandon
  split <;> exact fun done => by cases done

/-- A text that breaks off is never reported as written. -/
theorem breakOff_ne_ok (snapshot : Snapshot) (cause : Defect) (disk : Disk) :
    (file.breakOff snapshot cause disk).1 ≠ .ok () := by
  unfold breakOff
  split
  · exact abandon_ne_ok disk
  · split
    · exact abandon_ne_ok _
    · exact fun done => by cases done

theorem put_of_writable {snapshot : Snapshot} (writable : snapshot.toValue.IsWritable writeLimit) :
    file.put snapshot disk = file.putWhole snapshot disk := by
  unfold put
  rw [writable.defectless]

/-- Only a document that can be written is put. -/
theorem isWritable_of_put {snapshot : Snapshot} (done : (file.put snapshot disk).1 = .ok ()) :
    snapshot.toValue.IsWritable writeLimit := by
  unfold put at done
  split at done
  · exact absurd done (breakOff_ne_ok snapshot _ disk)
  · rename_i found
    exact ⟨found⟩

/-- The snapshot is put into the file if its place and the temporary one are free for files. -/
theorem putWhole_eq (snapshot : Snapshot) {temporary place : List String}
    (temporaryResolved : disk.resolve file.temporary = .ok temporary)
    (resolved : disk.resolve file.path = .ok place)
    (temporaryPlain : disk.isDirectory temporary = false)
    (plain : disk.isDirectory place = false) :
    file.putWhole snapshot disk = (.ok (),
      ((disk.set temporary (document snapshot)).erase temporary).set place
        (document snapshot)) := by
  have written : disk.write file.temporary (content snapshot) =
      .ok (disk.set temporary (document snapshot)) :=
    write_eq temporaryResolved temporaryPlain _
  have keeps := set_keeps temporaryPlain (document snapshot)
  have stillPlain : (disk.set temporary (document snapshot)).isDirectory place = false := by
    cases directory : (disk.set temporary (document snapshot)).isDirectory place with
    | false => rfl
    | true =>
        have before := (keeps_of_set_file disk temporary _ _).directories place directory
        rw [plain] at before
        cases before
  have replaced := replace_eq (resolve_keeps keeps temporaryResolved) (resolve_keeps keeps resolved)
    (node?_set_self (not_standing_of_file temporaryPlain) (document snapshot)) stillPlain
  unfold putWhole
  simp only [written, replaced]
  rfl

/-- What a snapshot that was put found. -/
theorem of_put {snapshot : Snapshot} (done : (file.put snapshot disk).1 = .ok ()) :
    ∃ temporary place, disk.resolve file.temporary = .ok temporary ∧
      disk.resolve file.path = .ok place ∧ disk.isDirectory temporary = false ∧
      disk.isDirectory place = false := by
  rw [put_of_writable (isWritable_of_put done)] at done
  unfold putWhole at done
  cases written : disk.write file.temporary (content snapshot) with
  | error fault =>
      rw [written] at done
      exact absurd done (abandon_ne_ok disk)
  | ok next =>
      obtain ⟨temporary, resolved, temporaryPlain, rfl⟩ := of_write written
      have keeps := set_keeps temporaryPlain (document snapshot)
      rw [written] at done
      dsimp only at done
      cases replaced : (disk.set temporary (.file (content snapshot) 0)).replace file.temporary
          file.path with
      | error fault =>
          rw [replaced] at done
          exact absurd done (abandon_ne_ok _)
      | ok last =>
          obtain ⟨origin, place, bytes, age, -, named, -, plain, -⟩ := of_replace replaced
          refine ⟨temporary, place, resolved,
            resolve_keeps (keeps_of_set_file disk temporary _ _) named, temporaryPlain, ?_⟩
          cases directory : disk.isDirectory place with
          | false => rfl
          | true =>
              have after := keeps.directories place directory
              unfold document at after
              rw [plain] at after
              cases after

/-- A free lock is taken, and nothing else changes. -/
theorem IsOpen.acquire (isOpen : file.IsOpen disk places) (apart : places.AreApart) :
    ∃ locked, file.lock.acquire disk = (.ok true, locked) ∧ file.IsHeld locked places ∧
      locked.node? places.temporary = disk.node? places.temporary ∧
      locked.node? places.path = disk.node? places.path := by
  have claimed := Lock.claimOn_eq isOpen.ready.claim isOpen.ready.lock (Ne.symm apart.lockClaim)
    isOpen.claimPlain isOpen.lockFree
  have keeps := Lock.claimOn_keeps file.lock disk
  rw [claimed] at keeps
  have kept {place : List String} (fromLock : label places.lock ≠ label place)
      (fromClaim : label places.claim ≠ label place) :
      (((disk.set places.claim Lock.mark).set places.lock Lock.mark).erase
        places.claim).node? place = disk.node? place := by
    rw [node?_erase_of_ne fromClaim, node?_set_of_ne fromLock, node?_set_of_ne fromClaim]
  have path := kept (Ne.symm apart.pathLock) (Ne.symm apart.pathClaim)
  have temporary := kept (Ne.symm apart.temporaryLock) (Ne.symm apart.temporaryClaim)
  refine ⟨_, Lock.acquire_eq isOpen.ready.claimDirectory claimed, {
    ready := isOpen.ready.keeps keeps
    apart := apart
    plain := (isDirectory_congr path).trans isOpen.plain
    temporaryPlain := (isDirectory_congr temporary).trans isOpen.temporaryPlain
    lockHeld := ?_
    claimFree := node?_erase_self apart.claimUnfixed }, temporary, path⟩
  rw [node?_erase_of_ne (Ne.symm apart.lockClaim), node?_set_self apart.lockUnfixed]

/-- A lock that is given back leaves the file idle. -/
theorem IsHeld.release (held : file.IsHeld disk places)
    (temporaryFree : disk.node? places.temporary = none) :
    file.IsIdle (file.lock.release disk) places ∧
      (file.lock.release disk).node? places.path = disk.node? places.path := by
  have keeps := discard_keeps disk file.lock.path
  have freed : file.lock.release disk = disk.erase places.lock :=
    discard_eq held.ready.lock held.lockHeld
  have path : (file.lock.release disk).node? places.path = disk.node? places.path := by
    rw [freed, node?_erase_of_ne (Ne.symm held.apart.pathLock)]
  refine ⟨{
    ready := held.ready.keeps keeps
    apart := held.apart
    plain := (isDirectory_congr path).trans held.plain
    temporaryFree := ?_
    lockFree := ?_
    claimFree := ?_ }, path⟩
  · rw [freed, node?_erase_of_ne (Ne.symm held.apart.temporaryLock), temporaryFree]
  · rw [freed, node?_erase_self held.apart.lockUnfixed]
  · rw [freed, node?_erase_of_ne held.apart.lockClaim, held.claimFree]

/-- A snapshot that is put while the lock is held takes the place of the file, and the temporary
file is gone. -/
theorem IsHeld.put (held : file.IsHeld disk places) {snapshot : Snapshot}
    (writable : snapshot.toValue.IsWritable writeLimit) :
    ∃ left, file.put snapshot disk = (.ok (), left) ∧ file.IsHeld left places ∧
      left.node? places.temporary = none ∧
      left.node? places.path = some (document snapshot) := by
  have done :=
    putWhole_eq snapshot held.ready.temporary held.ready.path held.temporaryPlain held.plain
  have first := set_keeps held.temporaryPlain (document snapshot)
  have writtenPlain : (disk.set places.temporary (document snapshot)).isDirectory
      places.temporary = false :=
    isDirectory_eq_false_of_file (node?_set_self held.apart.temporaryUnfixed _)
  have second := first.trans (erase_keeps writtenPlain)
  have erasedPlain : ((disk.set places.temporary (document snapshot)).erase
      places.temporary).isDirectory places.path = false := by
    rw [← held.plain]
    refine isDirectory_congr ?_
    rw [node?_erase_of_ne (Ne.symm held.apart.pathTemporary),
      node?_set_of_ne (Ne.symm held.apart.pathTemporary)]
  have keeps := second.trans (set_keeps erasedPlain (document snapshot))
  have kept {place : List String} (fromPath : label places.path ≠ label place)
      (fromTemporary : label places.temporary ≠ label place) :
      (((disk.set places.temporary (document snapshot)).erase places.temporary).set places.path
        (document snapshot)).node? place = disk.node? place := by
    rw [node?_set_of_ne fromPath, node?_erase_of_ne fromTemporary, node?_set_of_ne fromTemporary]
  have here : (((disk.set places.temporary (document snapshot)).erase places.temporary).set
      places.path (document snapshot)).node? places.path = some (document snapshot) :=
    node?_set_self held.apart.pathUnfixed _
  have gone : (((disk.set places.temporary (document snapshot)).erase places.temporary).set
      places.path (document snapshot)).node? places.temporary = none := by
    rw [node?_set_of_ne held.apart.pathTemporary, node?_erase_self held.apart.temporaryUnfixed]
  refine ⟨_, (put_of_writable writable).trans done, {
    ready := held.ready.keeps keeps
    apart := held.apart
    plain := isDirectory_eq_false_of_file here
    temporaryPlain := not_directory_of_none gone
    lockHeld := ?_
    claimFree := ?_ }, gone, here⟩
  · rw [kept held.apart.pathLock held.apart.temporaryLock, held.lockHeld]
  · rw [kept held.apart.pathClaim held.apart.temporaryClaim, held.claimFree]

/-- A save can go on from a disk once the directory is made and the lock is taken. -/
theorem save_eq {snapshot : Snapshot} {made locked : Disk}
    (directory : disk.makeFoldedDirectory file.path = (.ok (), made))
    (acquired : file.lock.acquire made = (.ok true, locked)) :
    file.save snapshot disk =
      ((file.put snapshot locked).1, file.lock.release (file.put snapshot locked).2) := by
  unfold save makeDirectory
  simp only [directory]
  unfold putLocked
  simp only [acquired]

/-- A save that succeeds made the directory, took the lock and put the snapshot. -/
theorem of_save {snapshot : Snapshot} (saved : (file.save snapshot disk).1 = .ok ()) :
    ∃ made locked, disk.makeFoldedDirectory file.path = (.ok (), made) ∧
      file.lock.acquire made = (.ok true, locked) ∧ (file.put snapshot locked).1 = .ok () := by
  unfold save makeDirectory at saved
  rcases directory : disk.makeFoldedDirectory file.path with ⟨fault | _, made⟩
  · simp only [directory] at saved
    split at saved
    · rename_i same
      split at same <;> simp only [Prod.mk.injEq] at same <;> rw [← same.1] at saved <;>
        cases saved
    · rename_i same
      split at same <;> simp only [Prod.mk.injEq] at same <;> cases same.1
  · simp only [directory] at saved
    unfold putLocked at saved
    rcases acquired : file.lock.acquire made with ⟨fault | taken, locked⟩
    · simp only [acquired] at saved
      cases saved
    · cases taken with
      | false =>
          simp only [acquired] at saved
          cases saved
      | true =>
          simp only [acquired] at saved
          exact ⟨made, locked, rfl, acquired, saved⟩

/-- A lock that was taken on any disk is held, if a file can be put under it. -/
theorem isHeld_of_acquire (slashless : '/' ∉ file.claimant.toList) {made locked : Disk}
    (directory : made.HasDirectoryOf file.path)
    (acquired : file.lock.acquire made = (.ok true, locked)) {snapshot : Snapshot}
    (done : (file.put snapshot locked).1 = .ok ()) :
    ∃ places, file.IsHeld locked places := by
  obtain ⟨ready, before, claimDirectory, taken⟩ := Lock.of_acquireWithin acquired
  obtain ⟨claim, lock, claimResolved, lockResolved, claimPlain, free⟩ := Lock.of_claimOn_taken taken
  obtain ⟨temporary, place, temporaryResolved, resolved, temporaryPlain, plain⟩ := of_put done
  have keeps := Lock.claimOn_keeps file.lock ready
  rw [taken] at keeps
  have all : file.IsReady locked ⟨place, temporary, lock, claim⟩ := {
    path := resolved
    temporary := temporaryResolved
    lock := resolve_keeps keeps lockResolved
    claim := resolve_keeps keeps claimResolved
    directory := (directory.keeps before).keeps keeps
    claimDirectory := claimDirectory.keeps keeps }
  have apart := all.apart slashless (not_standing_of_file plain)
  have claimLock := Ne.symm apart.lockClaim
  rw [node?_set_of_ne claimLock] at free
  have claimed := Lock.claimOn_eq claimResolved lockResolved claimLock claimPlain free
  have same : locked = ((ready.set claim Lock.mark).set lock Lock.mark).erase claim := by
    rw [taken] at claimed
    exact congrArg Prod.snd claimed
  refine ⟨_, all, apart, plain, temporaryPlain, ?_, ?_⟩
  · rw [same, node?_erase_of_ne claimLock, node?_set_self apart.lockUnfixed]
  · rw [same, node?_erase_self apart.claimUnfixed]

/-- After a save that succeeds the file is idle and holds the snapshot. -/
theorem isIdle_of_save (slashless : '/' ∉ file.claimant.toList) {snapshot : Snapshot}
    (saved : (file.save snapshot disk).1 = .ok ()) :
    ∃ places, file.IsIdle (file.save snapshot disk).2 places ∧
      (file.save snapshot disk).2.node? places.path = some (document snapshot) := by
  obtain ⟨made, locked, directory, acquired, done⟩ := of_save saved
  obtain ⟨places, held⟩ := isHeld_of_acquire slashless (hasDirectoryOf_of_made directory) acquired
    done
  obtain ⟨left, same, stillHeld, temporaryFree, found⟩ := held.put (isWritable_of_put done)
  obtain ⟨idle, kept⟩ := stillHeld.release temporaryFree
  rw [save_eq directory acquired, same]
  exact ⟨places, idle, kept.trans found⟩

/-- A snapshot whose document can be written can be saved once the directory is made and the lock is
free. -/
theorem IsOpen.save {made : Disk} (isOpen : file.IsOpen made places) (apart : places.AreApart)
    (directory : disk.makeFoldedDirectory file.path = (.ok (), made)) {snapshot : Snapshot}
    (writable : snapshot.toValue.IsWritable writeLimit) :
    (file.save snapshot disk).1 = .ok () := by
  obtain ⟨locked, acquired, held, -, -⟩ := isOpen.acquire apart
  obtain ⟨left, same, -⟩ := held.put writable
  rw [save_eq directory acquired, same]

/-- Every snapshot whose document can be written can be saved in an idle file. -/
theorem IsIdle.save (idle : file.IsIdle disk places) {snapshot : Snapshot}
    (writable : snapshot.toValue.IsWritable writeLimit) :
    (file.save snapshot disk).1 = .ok () :=
  idle.isOpen.save idle.apart (makeFoldedDirectory_of_present idle.ready.directory) writable

/-- A load reads what the file holds and leaves it as it was. -/
theorem IsIdle.load (idle : file.IsIdle disk places) (vocabulary : Vocabulary) (now : String)
    {bytes : ByteArray} {age : Int} (found : disk.node? places.path = some (.file bytes age)) :
    ∃ left, file.load vocabulary now disk =
        (((file.parse bytes).bind (restore vocabulary now file)).map some, left) ∧
      file.IsIdle left places ∧ left.node? places.path = some (.file bytes age) := by
  obtain ⟨locked, acquired, held, temporary, kept⟩ := idle.isOpen.acquire idle.apart
  obtain ⟨stillIdle, same⟩ := held.release (temporary.trans idle.temporaryFree)
  have present : disk.contains file.path = true := by
    unfold contains find?
    simp only [idle.ready.path, found]
    rfl
  have content : locked.read file.path = .ok bytes := by
    unfold Disk.read
    simp only [held.ready.path, bind, Except.bind, kept, found]
  refine ⟨_, ?_, stillIdle, same.trans (kept.trans found)⟩
  unfold SnapshotFile.load readValue
  rw [if_pos present]
  simp only [acquired, content]

end CodeGraph.SnapshotFile

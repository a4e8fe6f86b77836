import CodeGraph.Proofs.AtomicSave
import CodeGraph.Proofs.LockAnswers

/-!
This file follows the lock of a snapshot file through any calls that save and load it. A fresh lock
stays and refuses all calls, and a lock that is free is given to each call and is free again after
it.
-/

namespace CodeGraph

/-- What a program asks of a snapshot file. -/
inductive StorageCall where
  | save (snapshot : Snapshot)
  | load (vocabulary : Vocabulary) (now : String)

namespace SnapshotFile

open Disk

variable {file : SnapshotFile} {disk : Disk} {node : DiskNode}

/-- The answer to a call, and the disk after it. -/
def answer (file : SnapshotFile) : StorageCall → Disk → Outcome (Option Snapshot) × Disk
  | .save snapshot, disk =>
      ((file.save snapshot disk).1.map fun _ => some snapshot, (file.save snapshot disk).2)
  | .load vocabulary now, disk => file.load vocabulary now disk

/-- The disk after calls, one after the other. -/
def runCalls (file : SnapshotFile) (calls : List StorageCall) (disk : Disk) : Disk :=
  calls.foldl (fun disk call => (file.answer call disk).2) disk

/-- The disk on which a call asks for the lock. A save needs a directory, and a load a file. -/
def asked? (file : SnapshotFile) : StorageCall → Disk → Option Disk
  | .save _, disk =>
      match file.makeDirectory disk with
      | (.ok (), made) => some made
      | (.error _, _) => none
  | .load _ _, disk => if disk.contains file.path then some disk else none

theorem asked?_save_eq_some_iff {snapshot : Snapshot} {asked : Disk} :
    file.asked? (.save snapshot) disk = some asked ↔ file.makeDirectory disk = (.ok (), asked) := by
  unfold asked?
  dsimp only
  rcases file.makeDirectory disk with ⟨fault | _, made⟩
  · exact ⟨fun none => (nomatch none), fun failed => (nomatch failed)⟩
  · exact ⟨fun same => by rw [Option.some.inj same], fun same => by rw [(Prod.mk.inj same).2]⟩

/-- A save asks for the lock once its directory is made. -/
theorem asked?_save_of_made {snapshot : Snapshot} {made : Disk}
    (directory : disk.makeFoldedDirectory file.path = (.ok (), made)) :
    file.asked? (.save snapshot) disk = some made := by
  rw [asked?_save_eq_some_iff]
  unfold makeDirectory
  rw [directory]

theorem asked?_load_eq_some_iff {vocabulary : Vocabulary} {now : String} {asked : Disk} :
    file.asked? (.load vocabulary now) disk = some asked ↔
      disk.contains file.path = true ∧ disk = asked := by
  unfold asked?
  dsimp only
  by_cases present : disk.contains file.path = true
  · rw [if_pos present]
    exact ⟨fun same => ⟨present, Option.some.inj same⟩, fun both => congrArg some both.2⟩
  · rw [if_neg present]
    exact ⟨fun none => (nomatch none), fun both => absurd both.1 present⟩

/-- The fault of a call that is not given the lock. -/
def lockFault (file : SnapshotFile) : StorageCall → StorageFault
  | .save _ => .saveLock file.path
  | .load _ _ => .readLock file.path

/-- A load leaves nothing new behind. -/
theorem load_leavesNothing (slashless : '/' ∉ file.claimant.toList) (vocabulary : Vocabulary)
    (now : String) (disk : Disk) :
    LeavesNothing file.path file.namesBeside disk (file.load vocabulary now disk).2 := by
  have asked := acquire_cases slashless disk
  unfold load
  split
  · rcases acquired : file.lock.acquire disk with ⟨cause | taken, left⟩
    · rw [acquired] at asked
      rcases asked with ⟨impossible, -⟩ | ⟨-, leaves⟩
      · cases impossible
      · exact leaves
    · rw [acquired] at asked
      cases taken with
      | false =>
          rcases asked with ⟨impossible, -⟩ | ⟨-, leaves⟩
          · cases impossible
          · exact leaves
      | true =>
          rcases asked with ⟨-, taken⟩ | ⟨impossible, -⟩
          · dsimp only
            rw [taken.release]
            exact taken.rest
          · exact absurd rfl impossible
  · exact LeavesNothing.refl disk

/-- After a save that succeeds the claim and the lock are free. -/
theorem free_of_saved (slashless : '/' ∉ file.claimant.toList) {snapshot : Snapshot}
    (saved : (file.save snapshot disk).1 = .ok ()) :
    (file.save snapshot disk).2.node? file.places.claim = none ∧
      (file.save snapshot disk).2.node? file.places.lock = none := by
  obtain ⟨places, idle, -⟩ := isIdle_of_save slashless saved
  have claim : places.claim = file.places.claim := resolve_eq_place idle.ready.claim
  have lock : places.lock = file.places.lock := resolve_eq_place idle.ready.lock
  rw [← claim, ← lock]
  exact ⟨idle.claimFree, idle.lockFree⟩

/-- A call leaves no claim behind. -/
theorem answer_claimFree (slashless : '/' ∉ file.claimant.toList)
    (claimFree : disk.node? file.places.claim = none) (call : StorageCall) :
    (file.answer call disk).2.node? file.places.claim = none := by
  have below := isBelow_claim slashless
  cases call with
  | load vocabulary now =>
      exact ((load_leavesNothing slashless vocabulary now disk).nodes _).stays_free below claimFree
  | save snapshot =>
      cases outcome : (file.save snapshot disk).1 with
      | ok done => exact (free_of_saved slashless outcome).1
      | error fault =>
          exact ((save_leavesOnly slashless outcome).nodes _
            (file.temporary_apart_claim slashless)).stays_free below claimFree

/-- After a call the lock is as it was, or it is free. -/
theorem answer_lock (slashless : '/' ∉ file.claimant.toList) (disk : Disk) (call : StorageCall) :
    (file.answer call disk).2.node? file.places.lock = disk.node? file.places.lock ∨
      (file.answer call disk).2.node? file.places.lock = none := by
  cases call with
  | load vocabulary now =>
      exact ((load_leavesNothing slashless vocabulary now disk).nodes _).same_or_gone
        file.isBelow_lock
  | save snapshot =>
      cases outcome : (file.save snapshot disk).1 with
      | ok done => exact .inr (free_of_saved slashless outcome).2
      | error fault =>
          exact ((save_leavesOnly slashless outcome).nodes _
            (Ne.symm file.lock_apart_temporary)).same_or_gone file.isBelow_lock

theorem runCalls_claimFree (slashless : '/' ∉ file.claimant.toList)
    (claimFree : disk.node? file.places.claim = none) (calls : List StorageCall) :
    (file.runCalls calls disk).node? file.places.claim = none := by
  induction calls generalizing disk with
  | nil => exact claimFree
  | cons call rest inductionHypothesis =>
      exact inductionHypothesis (answer_claimFree slashless claimFree call)

theorem runCalls_unlocked (slashless : '/' ∉ file.claimant.toList)
    (unlocked : file.IsUnlocked disk) (calls : List StorageCall) :
    file.IsUnlocked (file.runCalls calls disk) := by
  induction calls generalizing disk with
  | nil => exact unlocked
  | cons call rest inductionHypothesis =>
      exact inductionHypothesis (unlocked.of_same_or_gone (answer_lock slashless disk call))

/-- The directory of a file beside which a lock was found need not be made. -/
theorem makeDirectory_fresh (locked : file.IsFreshlyLocked disk node) :
    file.makeDirectory disk = (.ok (), disk) ∨
      file.makeDirectory disk = (.error (.storage (.directoryRefused file.directory)), disk) := by
  obtain ⟨led, directory⟩ := locked.base
  unfold makeDirectory
  rcases makeFoldedDirectory_of_base led directory locked.null_notMem with made | tooLong
  · rw [made]
    exact .inl rfl
  · rw [tooLong]
    exact .inr rfl

/-- A fresh lock refuses a call, and nothing changes. -/
theorem answer_fresh (slashless : '/' ∉ file.claimant.toList)
    (claimant : '\x00' ∉ file.claimant.toList) (locked : file.IsFreshlyLocked disk node)
    (call : StorageCall) :
    Alike disk (file.answer call disk).2 ∧ ∀ asked, file.asked? call disk = some asked →
      (file.answer call disk).1 = .error (.storage (file.lockFault call)) := by
  obtain ⟨refused, alike⟩ := acquireWithin_fresh slashless claimant locked Lock.attempts
  have acquired : file.lock.acquire disk = (.ok false, (file.lock.acquire disk).2) :=
    Prod.ext refused rfl
  cases call with
  | load vocabulary now =>
      unfold answer load asked?
      dsimp only
      by_cases present : disk.contains file.path = true
      · rw [if_pos present, acquired]
        exact ⟨alike, fun _ _ => rfl⟩
      · rw [if_neg present, if_neg present]
        exact ⟨Alike.refl disk, fun asked none => (nomatch none)⟩
  | save snapshot =>
      unfold answer save asked?
      dsimp only
      rcases makeDirectory_fresh locked with made | failed
      · rw [made]
        dsimp only
        unfold putLocked
        rw [acquired]
        exact ⟨alike, fun _ _ => rfl⟩
      · rw [failed]
        exact ⟨Alike.refl disk, fun asked none => (nomatch none)⟩

theorem runCalls_fresh (slashless : '/' ∉ file.claimant.toList)
    (claimant : '\x00' ∉ file.claimant.toList) (locked : file.IsFreshlyLocked disk node)
    (calls : List StorageCall) : Alike disk (file.runCalls calls disk) := by
  induction calls generalizing disk with
  | nil => exact Alike.refl disk
  | cons call rest inductionHypothesis =>
      have alike := (answer_fresh slashless claimant locked call).1
      exact alike.trans (inductionHypothesis (locked.alike alike))

/-- A call leaves nothing new on the disk before it asks for the lock. -/
theorem asked_leavesNothing (slashless : '/' ∉ file.claimant.toList) {call : StorageCall}
    {asked : Disk} (asks : file.asked? call disk = some asked) :
    LeavesNothing file.path file.namesBeside disk asked := by
  cases call with
  | load vocabulary now =>
      obtain ⟨-, rfl⟩ := asked?_load_eq_some_iff.mp asks
      exact LeavesNothing.refl disk
  | save snapshot =>
      have made := makeDirectory_leavesNothing slashless disk
      rw [asked?_save_eq_some_iff.mp asks] at made
      exact made

/-- A call that is given the lock gives it back, whatever else comes of it. -/
theorem answer_unlocks (slashless : '/' ∉ file.claimant.toList) {call : StorageCall}
    {asked : Disk} (asks : file.asked? call disk = some asked)
    (acquired : (file.lock.acquire asked).1 = .ok true) :
    (file.answer call disk).2.node? file.places.lock = none := by
  have taken : file.HasTaken asked (file.lock.acquire asked).2 := by
    rcases acquire_cases slashless asked with ⟨-, taken⟩ | ⟨other, -⟩
    · exact taken
    · exact absurd acquired other
  have given : file.lock.acquire asked = (.ok true, (file.lock.acquire asked).2) :=
    Prod.ext acquired rfl
  have erased (left : Disk) : (left.erase file.places.lock).node? file.places.lock = none :=
    node?_erase_self file.lock_unfixed
  cases call with
  | load vocabulary now =>
      obtain ⟨present, rfl⟩ := asked?_load_eq_some_iff.mp asks
      unfold answer load
      dsimp only
      rw [if_pos present, given]
      dsimp only
      rw [taken.release]
      exact erased _
  | save snapshot =>
      have directory := asked?_save_eq_some_iff.mp asks
      cases outcome : (file.save snapshot disk).1 with
      | ok done => exact (free_of_saved slashless outcome).2
      | error fault =>
          unfold answer
          dsimp only
          unfold save putLocked at outcome ⊢
          rw [directory] at outcome ⊢
          dsimp only at outcome ⊢
          rw [given] at outcome ⊢
          dsimp only at outcome ⊢
          rw [taken.release_eq (put_leavesOnly outcome)]
          exact erased _

/-- After any calls a further call leaves no claim behind. If a lock that was not left behind stood
beside the file at the beginning, the call is refused, and nothing on the disk has changed. If the
lock was free at the beginning or had been left behind, the call is given the lock exactly where a
claim to it can be made, and then the lock is free when the call ends. -/
theorem lock_discipline (slashless : '/' ∉ file.claimant.toList)
    (claimant : '\x00' ∉ file.claimant.toList) (claimFree : disk.node? file.places.claim = none)
    (calls : List StorageCall) (call : StorageCall) :
    let left := file.runCalls calls disk
    let done := file.answer call left
    done.2.node? file.places.claim = none ∧
    (∀ node, disk.find? file.lock.path = some node → node.age ≤ Lock.staleAfter →
      (∀ place, done.2.node? place = disk.node? place) ∧
      ∀ asked, file.asked? call left = some asked →
        done.1 = .error (.storage (file.lockFault call))) ∧
    (file.IsUnlocked disk → ∀ asked, file.asked? call left = some asked →
      ((file.lock.acquire asked).1 = .ok true ↔ file.HasRoom asked) ∧
      (file.HasRoom asked → done.2.node? file.places.lock = none)) := by
  intro left done
  have leftFree := runCalls_claimFree slashless claimFree calls
  refine ⟨answer_claimFree slashless leftFree call, fun node found fresh => ?_,
    fun unlocked asked asks => ?_⟩
  · have locked : file.IsFreshlyLocked disk node := ⟨found, fresh, claimFree⟩
    have before := runCalls_fresh slashless claimant locked calls
    obtain ⟨alike, refused⟩ := answer_fresh slashless claimant (locked.alike before) call
    exact ⟨(before.trans alike).nodes, refused⟩
  · have leaves := asked_leavesNothing slashless asks
    have askedFree := (leaves.nodes _).stays_free (isBelow_claim slashless) leftFree
    have stillUnlocked := (runCalls_unlocked slashless unlocked calls).of_same_or_gone
      ((leaves.nodes _).same_or_gone file.isBelow_lock)
    have given := acquire_unlocked_iff slashless askedFree stillUnlocked
    exact ⟨given, fun room => answer_unlocks slashless asks (given.mpr room)⟩

/-- A disk on which nothing stands but a lock. -/
def lockedDisk (age : Int) : Disk := ⟨[("s.json.lock", .file Lock.claimContent age)], 0⟩

/-- After a load a lock of a minute refuses a save, and one of a second more is given to the save
and gone afterwards. -/
theorem lock_discipline_minute :
    let file : SnapshotFile := ⟨"s.json", "7.1"⟩
    let left (age : Int) := file.runCalls [.load Vocabulary.initial "2024-01-02"] (lockedDisk age)
    (file.answer (.save lonelySnapshot) (left 60)).1 = .error (.storage (.saveLock "s.json")) ∧
      (file.lock.acquire (lockedDisk 61)).1 = .ok true ∧
      (file.answer (.save lonelySnapshot) (left 61)).2.node? ["s.json.lock"] = none := by
  have fresh := (@lock_discipline ⟨"s.json", "7.1"⟩ (lockedDisk 60) (by decide) (by decide) rfl
    [.load Vocabulary.initial "2024-01-02"] (.save lonelySnapshot)).2.1
    (.file Lock.claimContent 60) rfl (by decide)
  have stale := (@lock_discipline ⟨"s.json", "7.1"⟩ (lockedDisk 61) (by decide) (by decide) rfl
    [.load Vocabulary.initial "2024-01-02"] (.save lonelySnapshot)).2.2
    (.inr ⟨Lock.claimContent, 61, rfl, by decide⟩) (lockedDisk 61) rfl
  have room : HasRoom ⟨"s.json", "7.1"⟩ (lockedDisk 61) := ⟨lockedDisk 61, rfl, rfl⟩
  exact ⟨fresh.2 (lockedDisk 60) rfl, stale.1.mpr room, stale.2 room⟩

/-- A file whose name has 249 bytes. -/
def longFile : SnapshotFile :=
  ⟨String.ofList (List.replicate 249 'a'), "17.140000000000000"⟩

theorem split_longFile : Text.split '/' longFile.path.toList = [longFile.path.toList] := by
  refine Text.split_of_notMem fun member => ?_
  have letters : longFile.path.toList = List.replicate 249 'a' := String.toList_ofList
  rw [letters] at member
  exact absurd (List.eq_of_mem_replicate member) (by decide)

/-- The directory of the file is the working directory. -/
theorem longFile_made :
    (Disk.empty 17).makeFoldedDirectory longFile.path = (.ok (), Disk.empty 17) := by
  have letters : longFile.path.toList = List.replicate 249 'a' := String.toList_ofList
  have directory : foldedDirectory longFile.path = "." := by
    unfold foldedDirectory FilePath.foldComponents
    rw [split_longFile, letters]
    rfl
  unfold makeFoldedDirectory
  rw [directory, letters]
  rfl

theorem longFile_free {place : List String} (unfixed : isStanding place = false) :
    (Disk.empty 17).node? place = none := node?_of_not_standing unfixed

/-- The name of a claim to the lock is too long. -/
theorem longFile_unacquired : (longFile.lock.acquire (Disk.empty 17)).1 ≠ .ok true := by
  intro acquired
  have slashless : '/' ∉ longFile.claimant.toList := by decide
  obtain ⟨ready, -, resolved⟩ := (acquire_unlocked_iff slashless
    (longFile_free (claim_unfixed slashless)) (.inl (longFile_free longFile.lock_unfixed))).mp
      acquired
  rw [claim_eq] at resolved
  have short := size_le_nameLimit (claim_isEnding slashless) resolved
  have name : baseName longFile.path = longFile.path := by
    unfold baseName components
    rw [split_longFile]
    exact String.ofList_toList
  have size : longFile.path.utf8ByteSize = 249 := by decide +kernel
  have more : (".lock." ++ longFile.claimant).utf8ByteSize = 24 := by decide +kernel
  rw [name, String.utf8ByteSize_append, size, more] at short
  exact absurd short (by decide)

/-- The name of a file can be short enough for its lock and too long for a claim to the lock. So a
save in a directory that is there is not given the lock although nothing stands beside the file. -/
theorem longFile_unclaimable :
    longFile.asked? (.save lonelySnapshot) (Disk.empty 17) = some (Disk.empty 17) ∧
      (Disk.empty 17).node? longFile.places.lock = none ∧
      (Disk.empty 17).node? longFile.places.claim = none ∧
      (longFile.lock.acquire (Disk.empty 17)).1 ≠ .ok true :=
  ⟨asked?_save_of_made longFile_made, longFile_free longFile.lock_unfixed,
    longFile_free (claim_unfixed (by decide)), longFile_unacquired⟩

end SnapshotFile

end CodeGraph

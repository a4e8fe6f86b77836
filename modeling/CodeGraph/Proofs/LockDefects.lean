import CodeGraph.Proofs.LockAnswers

/-!
This file says when asking for the lock of a snapshot file breaks off: exactly where its claim
cannot be made for a reason that lies with the path, or cannot be taken away.
-/

namespace CodeGraph.SnapshotFile

open Disk

variable {file : SnapshotFile} {disk : Disk}

/-- The claim to the lock cannot be made for a reason that lies with its path, or a directory stands
in its place. -/
inductive BreaksClaim (file : SnapshotFile) (disk : Disk) : Prop
  | directory {fault : DiskFault}
      (failed : (disk.makeFoldedDirectory file.lock.claim).1 = .error fault)
      (defect : fault.isDefect = true)
  | null (made : (disk.makeFoldedDirectory file.lock.claim).1 = .ok ())
      (null : '\x00' ∈ file.lock.claim.toList)
  | occupied {age : Int} (found : (disk.makeFoldedDirectory file.lock.claim).2.find?
      file.lock.claim = some (.directory age))

/-- A fault that is met before the claim was linked is a defect only where a directory is in the
way or the fault is one. -/
theorem withdraw_broken_iff {fault : DiskFault} :
    (∃ cause, (file.lock.withdraw fault disk).1 = .broken cause) ↔
      fault.isDefect = true ∨ ∃ age, disk.find? file.lock.claim = some (.directory age) := by
  unfold Lock.withdraw Lock.Attempt.ofFault
  split
  · rename_i age found
    exact ⟨fun _ => .inr ⟨age, found⟩, fun _ => ⟨_, rfl⟩⟩
  · rename_i clear
    cases defect : fault.isDefect with
    | true => simp
    | false =>
        have absent : ∀ age, disk.find? file.lock.claim ≠ some (.directory age) := clear
        simp [absent]

/-- A text with a null character leads nowhere. -/
theorem resolve_null {path : String} (null : '\x00' ∈ path.toList) :
    disk.resolve path = .error .nullCharacter := by
  have found : path.toList.contains '\x00' = true := by simpa using null
  unfold resolve checkPath
  rw [if_pos found]
  rfl

theorem write_null {path : String} (null : '\x00' ∈ path.toList) (content : ByteArray) :
    disk.write path content = .error .nullCharacter := by
  unfold write
  rw [resolve_null null]
  rfl

/-- A directory cannot be written. -/
theorem write_directory {path : String} {age : Int}
    (found : disk.find? path = some (.directory age)) (content : ByteArray) :
    disk.write path content = .error .isDirectory := by
  obtain ⟨resolved, stands⟩ := find?_eq_some_iff.mp found
  have directory := isDirectory_eq_true_iff.mpr ⟨age, stands⟩
  unfold write
  simp only [resolved, bind, Except.bind, directory, if_true]

/-- A claim that was written is not broken. -/
theorem claimOn_ne_broken {claimed : Disk}
    (written : disk.write file.lock.claim Lock.claimContent = .ok claimed) (cause : DiskFault) :
    (file.lock.claimOn disk).1 ≠ .broken cause := by
  have met : (file.lock.meet claimed).1 = .again ∨ (file.lock.meet claimed).1 = .refused := by
    unfold Lock.meet
    split
    · exact .inl rfl
    · split
      · split
        · exact .inl rfl
        · exact .inr rfl
      · exact .inl rfl
  intro broken
  unfold Lock.claimOn at broken
  rw [written] at broken
  dsimp only at broken
  split at broken
  · cases broken
  · dsimp only at broken
    rcases met with again | refused
    · rw [again] at broken
      cases broken
    · rw [refused] at broken
      cases broken
  · cases broken

theorem claimOn_broken_iff :
    (∃ cause, (file.lock.claimOn disk).1 = .broken cause) ↔
      '\x00' ∈ file.lock.claim.toList ∨
        ∃ age, disk.find? file.lock.claim = some (.directory age) := by
  cases written : disk.write file.lock.claim Lock.claimContent with
  | error fault =>
      unfold Lock.claimOn
      rw [written]
      dsimp only
      rw [withdraw_broken_iff]
      constructor
      · rintro (defect | found)
        · by_contra neither
          rw [not_or] at neither
          rw [not_defect_of_write neither.1 written] at defect
          cases defect
        · exact .inr found
      · rintro (null | found)
        · rw [write_null null] at written
          cases written
          exact .inl rfl
        · exact .inr found
  | ok claimed =>
      refine ⟨fun ⟨cause, broken⟩ => absurd broken (claimOn_ne_broken written cause), ?_⟩
      rintro (null | ⟨age, found⟩)
      · rw [write_null null] at written
        cases written
      · rw [write_directory found] at written
        cases written

/-- The first attempt is broken where the claim cannot be made. -/
theorem attempt_broken_iff :
    (∃ cause, (file.lock.attempt disk).1 = .broken cause) ↔ file.BreaksClaim disk := by
  unfold Lock.attempt
  rcases made : disk.makeFoldedDirectory file.lock.claim with ⟨fault | _, left⟩
  · dsimp only
    rw [withdraw_broken_iff]
    constructor
    · rintro (defect | ⟨age, found⟩)
      · exact .directory (congrArg Prod.fst made) defect
      · exact .occupied (by rw [made]; exact found)
    · rintro (⟨failed, defect⟩ | ⟨done, -⟩ | found)
      · rw [made] at failed
        exact .inl (Except.error.inj failed ▸ defect)
      · rw [made] at done
        cases done
      · rw [made] at found
        exact .inr ⟨_, found⟩
  · dsimp only
    rw [claimOn_broken_iff]
    constructor
    · rintro (null | ⟨age, found⟩)
      · exact .null (congrArg Prod.fst made) null
      · exact .occupied (by rw [made]; exact found)
    · rintro (⟨failed, defect⟩ | ⟨-, null⟩ | found)
      · rw [made] at failed
        cases failed
      · exact .inl null
      · rw [made] at found
        exact .inr ⟨_, found⟩

/-- The next attempt after one that is to be repeated can make its claim. -/
theorem not_breaksClaim_of_again (slashless : '/' ∉ file.claimant.toList)
    (again : (file.lock.attempt disk).1 = .again) :
    ¬file.BreaksClaim (file.lock.attempt disk).2 := by
  obtain ⟨ready, made, resolved⟩ := hasRoom_of_attempt again (.inr rfl)
  rw [attempt_of_made made] at again ⊢
  have keeps := Lock.claimOn_keeps file.lock ready
  have still := makeFoldedDirectory_of_present ((hasDirectoryOf_of_made made).keeps keeps)
  rintro (⟨failed, -⟩ | ⟨-, null⟩ | found)
  · rw [still] at failed
    cases failed
  · exact null_notMem_of_resolve resolved null
  · rename_i age
    rw [still] at found
    obtain ⟨-, stands⟩ := find?_eq_some_iff.mp found
    have leaves : LeavesNothing file.path file.namesBeside ready (file.lock.claimOn ready).2 :=
      claimOn_leavesNothing slashless (by rw [again]; exact nofun)
    rcases (leaves.nodes _).same_or_gone (isBelow_claim slashless) with same | gone
    · have before : ready.find? file.lock.claim = some (.directory age) := by
        rw [find?_of_resolve resolved]
        exact same.symm.trans stands
      obtain ⟨cause, broken⟩ := claimOn_broken_iff.mpr (.inr ⟨age, before⟩)
      rw [again] at broken
      cases broken
    · exact absurd (gone.symm.trans stands) nofun

/-- Asking for the lock breaks off exactly where the claim cannot be made at the first attempt. -/
theorem acquireWithin_error_iff (slashless : '/' ∉ file.claimant.toList) (count : Nat) :
    (∃ fault, (file.lock.acquireWithin count disk).1 = .error fault) ↔
      0 < count ∧ file.BreaksClaim disk := by
  induction count generalizing disk with
  | zero =>
      constructor
      · rintro ⟨fault, failed⟩
        cases failed
      · intro both
        exact absurd both.1 (Nat.lt_irrefl 0)
  | succ count inductionHypothesis =>
      have breaks : (∃ cause, (file.lock.attempt disk).1 = .broken cause) ↔
          file.BreaksClaim disk := attempt_broken_iff
      have next : (file.lock.attempt disk).1 = .again →
          ¬file.BreaksClaim (file.lock.attempt disk).2 := not_breaksClaim_of_again slashless
      unfold Lock.acquireWithin
      rcases attempted : file.lock.attempt disk with ⟨outcome, left⟩
      rw [attempted] at breaks next
      have unbroken (other : ∀ cause, outcome ≠ .broken cause) : ¬file.BreaksClaim disk := by
        intro broken
        obtain ⟨cause, same⟩ := breaks.mpr broken
        exact other cause same
      cases outcome with
      | taken =>
          refine ⟨?_, fun both => absurd both.2 (unbroken fun _ same => by cases same)⟩
          rintro ⟨fault, failed⟩
          cases failed
      | refused =>
          refine ⟨?_, fun both => absurd both.2 (unbroken fun _ same => by cases same)⟩
          rintro ⟨fault, failed⟩
          cases failed
      | broken cause =>
          exact ⟨fun _ => ⟨Nat.succ_pos count, breaks.mp ⟨cause, rfl⟩⟩, fun _ => ⟨_, rfl⟩⟩
      -- A claim that was made once can be made again.
      | again =>
          dsimp only
          rw [inductionHypothesis]
          exact ⟨fun both => absurd both.2 (next rfl),
            fun both => absurd both.2 (unbroken fun _ same => by cases same)⟩

/-- What breaks off the asking for a lock is a defect. -/
theorem acquireWithin_isDefect {count : Nat} {fault : Fault}
    (failed : (file.lock.acquireWithin count disk).1 = .error fault) : fault.isStorage = false := by
  induction count generalizing disk with
  | zero => cases failed
  | succ count inductionHypothesis =>
      unfold Lock.acquireWithin at failed
      rcases attempted : file.lock.attempt disk with ⟨outcome, left⟩
      rw [attempted] at failed
      cases outcome with
      | taken => cases failed
      | refused => cases failed
      | broken cause =>
          cases failed
          rfl
      | again => exact inductionHypothesis failed

end CodeGraph.SnapshotFile

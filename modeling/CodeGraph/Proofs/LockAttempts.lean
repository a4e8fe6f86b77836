import CodeGraph.Proofs.LockCycle
import CodeGraph.Proofs.NamesBeside

/-!
This file follows the attempts to take the lock of a snapshot file on any disk. Attempts that fail
leave nothing new beside the file, and a lock that was taken is the only thing that is new.
-/

namespace CodeGraph.SnapshotFile

open Disk

variable {file : SnapshotFile} {disk locked : Disk}

/-- Nothing is new on the disk but the lock, which is held. -/
structure HasTaken (file : SnapshotFile) (disk locked : Disk) : Prop where
  keeps : Keeps disk locked
  resolved : locked.resolve file.lock.path = .ok file.places.lock
  held : locked.node? file.places.lock = some Lock.mark
  rest : LeavesNothing file.path file.namesBeside disk (locked.erase file.places.lock)

theorem HasTaken.behind {before : Disk} (below : AreBelow file.path file.namesBeside)
    (leaves : LeavesNothing file.path file.namesBeside before disk)
    (taken : file.HasTaken disk locked) : file.HasTaken before locked :=
  { taken with
    keeps := leaves.keeps.trans taken.keeps
    rest := leaves.trans below taken.rest }

/-- A lock that is given back was the only thing that was new. -/
theorem HasTaken.release (taken : file.HasTaken disk locked) :
    file.lock.release locked = locked.erase file.places.lock :=
  discard_eq taken.resolved taken.held

theorem withdraw_leavesNothing (file : SnapshotFile) (fault : DiskFault) (disk : Disk) :
    LeavesNothing file.path file.namesBeside disk (file.lock.withdraw fault disk).2 := by
  unfold Lock.withdraw
  split
  · exact LeavesNothing.refl disk
  · exact leavesNothing_discard file.claim_mem_namesBeside disk

/-- What stands at the lock stays, or it is removed. -/
theorem meet_snd (lock : Lock) (disk : Disk) :
    (lock.meet disk).2 = disk ∨ disk.isDirectory (place lock.path) = false ∧
      (lock.meet disk).2 = disk.erase (place lock.path) := by
  unfold Lock.meet
  split
  · exact .inl rfl
  · split
    · split
      · rename_i freed removed
        obtain ⟨plain, same⟩ := of_remove removed
        exact .inr ⟨plain, same⟩
      · exact .inl rfl
    · exact .inl rfl

/-- A claim that was written is discarded again, and nothing new is left. -/
theorem leavesNothing_discard_claim (slashless : '/' ∉ file.claimant.toList) {met : Disk}
    (resolved : disk.resolve file.lock.claim = .ok file.places.claim)
    (plain : disk.isDirectory file.places.claim = false)
    (kept : met = disk.set file.places.claim Lock.mark ∨
      (disk.set file.places.claim Lock.mark).isDirectory file.places.lock = false ∧
        met = (disk.set file.places.claim Lock.mark).erase file.places.lock) :
    LeavesNothing file.path file.namesBeside disk (met.discard file.lock.claim) := by
  have below := namesBeside_areBelow slashless
  have unfixed := claim_unfixed slashless
  have written := set_keeps plain Lock.mark
  have claimed : (disk.set file.places.claim Lock.mark).node? file.places.claim =
      some Lock.mark := node?_set_self unfixed _
  have cleaned : LeavesNothing file.path file.namesBeside disk
      ((disk.set file.places.claim Lock.mark).erase file.places.claim) :=
    leavesNothing_erase_set file.claim_mem_namesBeside plain _ _
  rcases kept with rfl | ⟨lockPlain, rfl⟩
  · rw [discard_eq (resolve_keeps written resolved) claimed]
    exact cleaned
  · have stillClaimed : ((disk.set file.places.claim Lock.mark).erase file.places.lock).node?
        file.places.claim = some Lock.mark := by
      rw [node?_erase_of_ne (lock_apart_claim slashless), claimed]
    have removed : LeavesNothing file.path file.namesBeside
        (disk.set file.places.claim Lock.mark)
        ((disk.set file.places.claim Lock.mark).erase file.places.lock) :=
      leavesNothing_erase file.lock_mem_namesBeside lockPlain
    rw [discard_eq (resolve_keeps (written.trans (erase_keeps lockPlain)) resolved) stillClaimed]
    exact cleaned.trans below (removed.erase file.places.claim)

/-- A claim that takes the lock adds the lock to the disk and nothing else. -/
theorem hasTaken_of_claimOn (slashless : '/' ∉ file.claimant.toList)
    (outcome : (file.lock.claimOn disk).1 = .taken) :
    file.HasTaken disk (file.lock.claimOn disk).2 := by
  have keeps := Lock.claimOn_keeps file.lock disk
  have whole : file.lock.claimOn disk = (.taken, (file.lock.claimOn disk).2) :=
    Prod.ext outcome rfl
  obtain ⟨claim, lock, claimResolved, resolved, plain, free⟩ := Lock.of_claimOn_taken whole
  have claimPlace : claim = file.places.claim := resolve_eq_place claimResolved
  have lockPlace : lock = file.places.lock := resolve_eq_place resolved
  subst claimPlace lockPlace
  have apart := Ne.symm (lock_apart_claim slashless)
  rw [node?_set_of_ne apart] at free
  rw [Lock.claimOn_eq claimResolved resolved apart plain free] at keeps ⊢
  have held : (((disk.set file.places.claim Lock.mark).set file.places.lock Lock.mark).erase
      file.places.claim).node? file.places.lock = some Lock.mark := by
    rw [node?_erase_of_ne apart, node?_set_self file.lock_unfixed]
  refine ⟨keeps, resolve_keeps keeps resolved, held,
    keeps.trans (erase_keeps (isDirectory_eq_false_of_file held)), fun place => ?_⟩
  -- Without the lock only the place of the claim can differ, and nothing is there any more.
  cases standing : isStanding place with
  | true => exact .inl (node?_same_of_standing standing _ _)
  | false =>
      simp only [LeavesNothingAt, node?_of_not_standing standing, filed?_erase, filed?_set]
      by_cases atLock : label file.places.lock = label place
      · exact .inr (.inl ⟨atLock ▸ file.lock_mem_namesBeside, if_pos atLock⟩)
      · by_cases atClaim : label file.places.claim = label place
        · refine .inr (.inl ⟨atClaim ▸ file.claim_mem_namesBeside, ?_⟩)
          rw [if_neg atLock, if_pos atClaim]
        · left
          simp only [if_neg atLock, if_neg atClaim]

/-- A claim that does not take the lock leaves nothing new. -/
theorem claimOn_leavesNothing (slashless : '/' ∉ file.claimant.toList)
    (outcome : (file.lock.claimOn disk).1 ≠ .taken) :
    LeavesNothing file.path file.namesBeside disk (file.lock.claimOn disk).2 := by
  unfold Lock.claimOn at outcome ⊢
  cases written : disk.write file.lock.claim Lock.claimContent with
  | error fault => exact withdraw_leavesNothing file fault disk
  | ok claimed =>
      obtain ⟨claim, resolved, plain, same⟩ := of_write written
      have claimPlace : claim = file.places.claim := resolve_eq_place resolved
      subst claimPlace
      have discarded {met : Disk} (kept : met = claimed ∨
          claimed.isDirectory file.places.lock = false ∧
            met = claimed.erase file.places.lock) :
          LeavesNothing file.path file.namesBeside disk (met.discard file.lock.claim) := by
        rw [same] at kept
        exact leavesNothing_discard_claim slashless resolved plain kept
      rw [written] at outcome
      dsimp only at outcome ⊢
      cases linked : claimed.link file.lock.claim file.lock.path with
      | ok next =>
          rw [linked] at outcome
          exact absurd rfl outcome
      | error fault =>
          cases fault
          case occupied => exact discarded (meet_snd file.lock claimed)
          all_goals exact discarded (.inl rfl)

/-- An attempt whose directory can be made is a claim. -/
theorem attempt_of_made {lock : Lock} {ready : Disk}
    (made : disk.makeFoldedDirectory lock.claim = (.ok (), ready)) :
    lock.attempt disk = lock.claimOn ready := by
  unfold Lock.attempt
  rw [made]

/-- Only directories above the file are made for the claim. -/
theorem leavesNothing_makeClaimDirectory (slashless : '/' ∉ file.claimant.toList) (disk : Disk) :
    LeavesNothing file.path file.namesBeside disk
      (disk.makeFoldedDirectory file.lock.claim).2 := by
  have claimEnding := claim_isEnding slashless
  have sameBelow : AreBelow file.lock.claim file.namesBeside := by
    intro place member
    have isBelow := namesBeside_areBelow slashless place member
    rw [claim_eq]
    unfold IsBelow at isBelow ⊢
    rwa [basePlace_append claimEnding]
  have made := leavesNothing_makeFoldedDirectory sameBelow disk
  rw [claim_eq] at made ⊢
  exact made.of_append claimEnding

/-- An attempt takes the lock, or it leaves nothing new. -/
theorem attempt_cases (slashless : '/' ∉ file.claimant.toList) (disk : Disk) :
    ((file.lock.attempt disk).1 = .taken ∧ file.HasTaken disk (file.lock.attempt disk).2) ∨
      ((file.lock.attempt disk).1 ≠ .taken ∧
        LeavesNothing file.path file.namesBeside disk (file.lock.attempt disk).2) := by
  have below := namesBeside_areBelow slashless
  have leaves := leavesNothing_makeClaimDirectory slashless disk
  unfold Lock.attempt
  rcases same : disk.makeFoldedDirectory file.lock.claim with ⟨fault | _, ready⟩
  · rw [same] at leaves
    exact .inr ⟨Lock.withdraw_ne_taken file.lock fault ready,
      leaves.trans below (withdraw_leavesNothing file fault ready)⟩
  · rw [same] at leaves
    by_cases outcome : (file.lock.claimOn ready).1 = .taken
    · exact .inl ⟨outcome, (hasTaken_of_claimOn slashless outcome).behind below leaves⟩
    · exact .inr ⟨outcome, leaves.trans below (claimOn_leavesNothing slashless outcome)⟩

/-- The lock is taken, or nothing new is left. -/
theorem acquireWithin_cases (slashless : '/' ∉ file.claimant.toList) (count : Nat) (disk : Disk) :
    ((file.lock.acquireWithin count disk).1 = .ok true ∧
        file.HasTaken disk (file.lock.acquireWithin count disk).2) ∨
      ((file.lock.acquireWithin count disk).1 ≠ .ok true ∧
        LeavesNothing file.path file.namesBeside disk
          (file.lock.acquireWithin count disk).2) := by
  have below := namesBeside_areBelow slashless
  induction count generalizing disk with
  | zero =>
      refine .inr ⟨?_, LeavesNothing.refl disk⟩
      unfold Lock.acquireWithin
      exact fun same => absurd (Except.ok.inj same) Bool.false_ne_true
  | succ count inductionHypothesis =>
      -- What an attempt that is repeated leaves behind is nothing, so the next one starts alike.
      have step := attempt_cases slashless disk
      unfold Lock.acquireWithin
      rcases attempted : file.lock.attempt disk with ⟨outcome, left⟩
      rw [attempted] at step
      rcases step with ⟨isTaken, taken⟩ | ⟨notTaken, leaves⟩
      · rw [show outcome = .taken from isTaken]
        exact .inl ⟨rfl, taken⟩
      · cases outcome with
        | taken => exact absurd rfl notTaken
        | again =>
            rcases inductionHypothesis left with ⟨outcome, taken⟩ | ⟨outcome, further⟩
            · exact .inl ⟨outcome, taken.behind below leaves⟩
            · exact .inr ⟨outcome, leaves.trans below further⟩
        | refused =>
            exact .inr ⟨fun same => absurd (Except.ok.inj same) Bool.false_ne_true, leaves⟩
        | broken cause =>
            refine .inr ⟨fun same => ?_, leaves⟩
            cases same

/-- What comes of asking for the lock. -/
theorem acquire_cases (slashless : '/' ∉ file.claimant.toList) (disk : Disk) :
    ((file.lock.acquire disk).1 = .ok true ∧ file.HasTaken disk (file.lock.acquire disk).2) ∨
      ((file.lock.acquire disk).1 ≠ .ok true ∧
        LeavesNothing file.path file.namesBeside disk (file.lock.acquire disk).2) :=
  acquireWithin_cases slashless Lock.attempts disk

end CodeGraph.SnapshotFile

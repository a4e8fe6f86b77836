import CodeGraph.Disk.Lock
import CodeGraph.Proofs.DiskMaking

/-!
This file says when a lock is taken and what the disk is like then. An attempt takes no directory
away, whatever it comes to.
-/

namespace CodeGraph.Lock

open Disk

variable {lock : Lock} {disk locked : Disk}

theorem meet_keeps (lock : Lock) (disk : Disk) : Keeps disk (lock.meet disk).2 := by
  unfold meet
  split
  · exact Keeps.refl disk
  · split
    · split
      · rename_i freed removed
        exact remove_keeps removed
      · exact Keeps.refl disk
    · exact Keeps.refl disk

theorem withdraw_keeps (lock : Lock) (fault : DiskFault) (disk : Disk) :
    Keeps disk (lock.withdraw fault disk).2 := by
  unfold withdraw
  split
  · exact Keeps.refl disk
  · exact discard_keeps disk lock.claim

/-- A fault does not take the lock. -/
theorem withdraw_ne_taken (lock : Lock) (fault : DiskFault) (disk : Disk) :
    (lock.withdraw fault disk).1 ≠ .taken := by
  unfold withdraw Attempt.ofFault
  split
  · exact Attempt.noConfusion
  · dsimp only
    split <;> exact Attempt.noConfusion

theorem claimOn_keeps (lock : Lock) (disk : Disk) : Keeps disk (lock.claimOn disk).2 := by
  unfold claimOn
  cases written : disk.write lock.claim claimContent with
  | error fault => exact withdraw_keeps lock fault disk
  | ok claimed =>
      obtain ⟨place, -, plain, same⟩ := of_write written
      have made : Keeps disk claimed := same ▸ set_keeps plain _
      dsimp only
      cases linked : claimed.link lock.claim lock.path with
      | ok next => exact (made.trans (link_keeps linked)).trans (discard_keeps _ _)
      | error fault =>
          cases fault
          case occupied => exact (made.trans (meet_keeps lock claimed)).trans (discard_keeps _ _)
          all_goals exact made.trans (discard_keeps _ _)

theorem attempt_keeps (lock : Lock) (disk : Disk) : Keeps disk (lock.attempt disk).2 := by
  have keeps := makeFoldedDirectory_keeps disk lock.claim
  unfold attempt
  rcases made : disk.makeFoldedDirectory lock.claim with ⟨fault | _, ready⟩
  · rw [made] at keeps
    exact keeps.trans (withdraw_keeps lock fault ready)
  · rw [made] at keeps
    exact keeps.trans (claimOn_keeps lock ready)

/-- A lock that is taken was claimed at last, in a directory that is there. -/
theorem of_acquireWithin {count : Nat}
    (taken : lock.acquireWithin count disk = (.ok true, locked)) :
    ∃ ready, Keeps disk ready ∧ ready.HasDirectoryOf lock.claim ∧
      lock.claimOn ready = (.taken, locked) := by
  induction count generalizing disk with
  | zero => cases taken
  | succ count inductionHypothesis =>
      have kept := attempt_keeps lock disk
      unfold acquireWithin at taken
      rcases attempted : lock.attempt disk with ⟨outcome, left⟩
      rw [attempted] at taken kept
      cases outcome with
      | taken =>
          cases taken
          unfold attempt at attempted
          have keeps := makeFoldedDirectory_keeps disk lock.claim
          rcases made : disk.makeFoldedDirectory lock.claim with ⟨fault | _, ready⟩
          · rw [made] at attempted
            exact absurd (congrArg Prod.fst attempted) (withdraw_ne_taken lock fault ready)
          · rw [made] at attempted keeps
            exact ⟨ready, keeps, hasDirectoryOf_of_made made, attempted⟩
      | again =>
          obtain ⟨ready, keeps, present, claimed⟩ := inductionHypothesis taken
          exact ⟨ready, kept.trans keeps, present, claimed⟩
      | refused => cases taken
      | broken cause => cases taken

/-- The file that claims the lock. -/
def mark : DiskNode := .file claimContent 0

/-- A claim takes the lock if its own place is free for a file and nothing stands at the lock. -/
theorem claimOn_eq {claim place : List String} (claimed : disk.resolve lock.claim = .ok claim)
    (resolved : disk.resolve lock.path = .ok place) (apart : label claim ≠ label place)
    (plain : disk.isDirectory claim = false) (free : disk.node? place = none) :
    lock.claimOn disk = (.taken, ((disk.set claim mark).set place mark).erase claim) := by
  have standing := not_standing_of_file plain
  have first := set_keeps plain mark
  have claimFree : (disk.set claim mark).node? place = none := by
    rw [node?_set_of_ne apart, free]
  have second := set_keeps (not_directory_of_none claimFree) mark
  have linked : (disk.set claim mark).link lock.claim lock.path =
      .ok ((disk.set claim mark).set place mark) :=
    link_eq (resolve_keeps first claimed) (resolve_keeps first resolved)
      (node?_set_self standing mark) claimFree
  have held : ((disk.set claim mark).set place mark).node? claim = some mark := by
    rw [node?_set_of_ne (Ne.symm apart), node?_set_self standing]
  have discarded := discard_eq (resolve_keeps second (resolve_keeps first claimed)) held
  have written : disk.write lock.claim claimContent = .ok (disk.set claim mark) :=
    write_eq claimed plain claimContent
  unfold claimOn
  simp only [written, linked, discarded]

/-- What a claim that took the lock found. -/
theorem of_claimOn_taken (taken : lock.claimOn disk = (.taken, locked)) :
    ∃ claim place, disk.resolve lock.claim = .ok claim ∧ disk.resolve lock.path = .ok place ∧
      disk.isDirectory claim = false ∧ (disk.set claim mark).node? place = none := by
  unfold claimOn at taken
  cases written : disk.write lock.claim claimContent with
  | error fault =>
      rw [written] at taken
      exact absurd (congrArg Prod.fst taken) (withdraw_ne_taken lock fault disk)
  | ok claimed =>
      obtain ⟨claim, resolved, plain, same⟩ := of_write written
      rw [written] at taken
      dsimp only at taken
      cases linked : claimed.link lock.claim lock.path with
      | ok next =>
          rw [linked] at taken
          obtain ⟨origin, place, content, age, -, named, -, free, -⟩ := of_link linked
          rw [same] at named free
          exact ⟨claim, place, resolved, resolve_keeps (keeps_of_set_file disk claim _ _) named,
            plain, free⟩
      | error fault =>
          rw [linked] at taken
          cases fault
          case occupied =>
            have met : (lock.meet claimed).1 = .taken := congrArg Prod.fst taken
            unfold meet at met
            split at met
            · cases met
            · split at met
              · split at met <;> cases met
              · cases met
          all_goals cases taken

/-- The lock is taken at once where its directory is there and the claim takes it. -/
theorem acquire_eq (present : disk.HasDirectoryOf lock.claim)
    (claimed : lock.claimOn disk = (.taken, locked)) : lock.acquire disk = (.ok true, locked) := by
  have attempted : lock.attempt disk = (.taken, locked) := by
    unfold attempt
    rw [makeFoldedDirectory_of_present present]
    exact claimed
  unfold acquire attempts acquireWithin
  rw [attempted]

end CodeGraph.Lock

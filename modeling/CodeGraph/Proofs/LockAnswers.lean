import CodeGraph.Proofs.AlikeDisks
import CodeGraph.Proofs.LockAttempts

/-!
This file says what is answered to a program that asks for the lock of a snapshot file: a fresh lock
is refused and nothing changes, and a lock that is free or was left behind is given.
-/

namespace CodeGraph.SnapshotFile

open Disk

variable {file : SnapshotFile} {disk : Disk} {node : DiskNode}

/-- A lock that was not left behind stands beside the file. -/
structure IsFreshlyLocked (file : SnapshotFile) (disk : Disk) (node : DiskNode) : Prop where
  found : disk.find? file.lock.path = some node
  fresh : node.age ≤ Lock.staleAfter
  claimFree : disk.node? file.places.claim = none

theorem IsFreshlyLocked.alike {left : Disk} (locked : file.IsFreshlyLocked disk node)
    (alike : Alike disk left) : file.IsFreshlyLocked left node where
  found := alike.find?_of_some locked.found
  fresh := locked.fresh
  claimFree := (alike.nodes _).trans locked.claimFree

theorem withdraw_of_free (claimFree : disk.node? file.places.claim = none) {fault : DiskFault}
    (harmless : fault.isDefect = false) :
    file.lock.withdraw fault disk = (.refused, disk) := by
  unfold Lock.withdraw Lock.Attempt.ofFault
  rw [find?_eq_none_of_free claimFree, discard_of_free claimFree]
  simp only [harmless, Bool.false_eq_true, if_false]

/-- The names beside a file have null characters only where the path or the claimant has some. -/
theorem null_notMem_claim (plain : '\x00' ∉ file.path.toList)
    (claimant : '\x00' ∉ file.claimant.toList) : '\x00' ∉ file.lock.claim.toList := by
  have middle : '\x00' ∉ ".lock.".toList := by decide
  rw [claim_eq, String.toList_append, String.toList_append, List.mem_append, List.mem_append]
  exact not_or.mpr ⟨plain, not_or.mpr ⟨middle, claimant⟩⟩

theorem IsFreshlyLocked.null_notMem (locked : file.IsFreshlyLocked disk node) :
    '\x00' ∉ file.path.toList := by
  have plain := null_notMem_of_resolve (find?_eq_some_iff.mp locked.found).1
  intro null
  refine plain ?_
  change '\x00' ∈ (file.path ++ ".lock").toList
  rw [String.toList_append]
  exact List.mem_append_left _ null

/-- The directory in which a lock was found is there. -/
theorem IsFreshlyLocked.base (locked : file.IsFreshlyLocked disk node) :
    disk.base file.path = .ok (basePlace file.path) ∧
      disk.isDirectory (basePlace file.path) = true := by
  have led := base_of_resolve (find?_eq_some_iff.mp locked.found).1
  change disk.base (file.path ++ ".lock") = .ok (basePlace (file.path ++ ".lock")) ∧
    disk.isDirectory (basePlace (file.path ++ ".lock")) = true at led
  rwa [base_append lock_isEnding, basePlace_append lock_isEnding] at led

/-- A link fails where something stands. -/
theorem link_occupied {path name : String} {origin place : List String} {content : ByteArray}
    {age : Int} (resolved : disk.resolve path = .ok origin)
    (named : disk.resolve name = .ok place)
    (found : disk.node? origin = some (.file content age)) (stands : disk.node? place = some node) :
    disk.link path name = .error .occupied := by
  unfold link
  simp only [resolved, named, bind, Except.bind, found, stands, Option.isSome_some, if_true]

/-- The disk holds a claim beside a lock. -/
structure HoldsClaim (file : SnapshotFile) (disk : Disk) (node : DiskNode) : Prop where
  claimResolved : disk.resolve file.lock.claim = .ok file.places.claim
  lockResolved : disk.resolve file.lock.path = .ok file.places.lock
  claim : disk.node? file.places.claim = some Lock.mark
  lock : disk.node? file.places.lock = some node

/-- Where a lock stands, the claim is written, and what is met at the lock decides. -/
theorem claimOn_occupied (slashless : '/' ∉ file.claimant.toList)
    (claimResolved : disk.resolve file.lock.claim = .ok file.places.claim)
    (lockResolved : disk.resolve file.lock.path = .ok file.places.lock)
    (plain : disk.isDirectory file.places.claim = false)
    (stands : disk.node? file.places.lock = some node) :
    let claimed := disk.set file.places.claim Lock.mark
    file.HoldsClaim claimed node ∧ file.lock.claimOn disk =
      ((file.lock.meet claimed).1, (file.lock.meet claimed).2.discard file.lock.claim) := by
  intro claimed
  have keeps : Keeps disk claimed := set_keeps plain Lock.mark
  have held : claimed.node? file.places.claim = some Lock.mark :=
    node?_set_self (claim_unfixed slashless) _
  have still : claimed.node? file.places.lock = some node := by
    rw [node?_set_of_ne (Ne.symm (lock_apart_claim slashless)), stands]
  have written : disk.write file.lock.claim Lock.claimContent = .ok claimed :=
    write_eq claimResolved plain _
  have claimLeads := resolve_keeps keeps claimResolved
  have lockLeads := resolve_keeps keeps lockResolved
  refine ⟨⟨claimLeads, lockLeads, held, still⟩, ?_⟩
  unfold Lock.claimOn
  rw [written]
  dsimp only
  rw [link_occupied claimLeads lockLeads held still]

/-- A claim does not get past a fresh lock, and it is taken away again. -/
theorem claimOn_fresh (slashless : '/' ∉ file.claimant.toList)
    (claimant : '\x00' ∉ file.claimant.toList) (locked : file.IsFreshlyLocked disk node) :
    ((file.lock.claimOn disk).1 = .again ∨ (file.lock.claimOn disk).1 = .refused) ∧
      Alike disk (file.lock.claimOn disk).2 := by
  obtain ⟨resolved, stands⟩ := find?_eq_some_iff.mp locked.found
  cases written : disk.write file.lock.claim Lock.claimContent with
  | error fault =>
      have plain := null_notMem_claim locked.null_notMem claimant
      have withdrawn : file.lock.withdraw fault disk = (.refused, disk) :=
        withdraw_of_free locked.claimFree (not_defect_of_write plain written)
      unfold Lock.claimOn
      rw [written]
      dsimp only
      rw [withdrawn]
      exact ⟨.inr rfl, Alike.refl disk⟩
  | ok claimed =>
      obtain ⟨claim, claimResolved, claimPlain, -⟩ := of_write written
      have claimPlace : claim = file.places.claim := resolve_eq_place claimResolved
      subst claimPlace
      obtain ⟨holds, answered⟩ :=
        claimOn_occupied slashless claimResolved resolved claimPlain stands
      have met : file.lock.meet (disk.set file.places.claim Lock.mark) =
          (.again, disk.set file.places.claim Lock.mark) := by
        unfold Lock.meet find?
        rw [holds.lockResolved]
        dsimp only
        rw [holds.lock]
        exact if_neg (Int.not_lt.mpr locked.fresh)
      rw [answered, met, discard_eq holds.claimResolved holds.claim]
      exact ⟨.inl rfl, alike_erase_set locked.claimFree _⟩

/-- An attempt does not get past a fresh lock. -/
theorem attempt_fresh (slashless : '/' ∉ file.claimant.toList)
    (claimant : '\x00' ∉ file.claimant.toList) (locked : file.IsFreshlyLocked disk node) :
    ((file.lock.attempt disk).1 = .again ∨ (file.lock.attempt disk).1 = .refused) ∧
      Alike disk (file.lock.attempt disk).2 := by
  have plain := null_notMem_claim locked.null_notMem claimant
  obtain ⟨led, directory⟩ := locked.base
  have claimLed : disk.base file.lock.claim = .ok (basePlace file.path) := by
    rw [claim_eq, base_append (claim_isEnding slashless), led]
  unfold Lock.attempt
  rcases makeFoldedDirectory_of_base claimLed directory plain with made | tooLong
  · rw [made]
    exact claimOn_fresh slashless claimant locked
  · rw [tooLong]
    have withdrawn : file.lock.withdraw .nameTooLong disk = (.refused, disk) :=
      withdraw_of_free locked.claimFree rfl
    dsimp only
    rw [withdrawn]
    exact ⟨.inr rfl, Alike.refl disk⟩

/-- A fresh lock is not given, and nothing has changed once it is given up. -/
theorem acquireWithin_fresh (slashless : '/' ∉ file.claimant.toList)
    (claimant : '\x00' ∉ file.claimant.toList) (locked : file.IsFreshlyLocked disk node)
    (count : Nat) :
    (file.lock.acquireWithin count disk).1 = .ok false ∧
      Alike disk (file.lock.acquireWithin count disk).2 := by
  induction count generalizing disk with
  | zero => exact ⟨rfl, Alike.refl disk⟩
  | succ count inductionHypothesis =>
      obtain ⟨outcome, alike⟩ := attempt_fresh slashless claimant locked
      unfold Lock.acquireWithin
      rcases attempted : file.lock.attempt disk with ⟨attempt, left⟩
      rw [attempted] at outcome alike
      have same : attempt = .again ∨ attempt = .refused := outcome
      rcases same with rfl | rfl
      · obtain ⟨refused, further⟩ := inductionHypothesis (locked.alike alike)
        exact ⟨refused, alike.trans further⟩
      · exact ⟨rfl, alike⟩

/-- A claim to the lock can be made: its directory is there or can be made, and then its path leads
somewhere. -/
def HasRoom (file : SnapshotFile) (disk : Disk) : Prop :=
  ∃ ready, disk.makeFoldedDirectory file.lock.claim = (.ok (), ready) ∧
    ready.resolve file.lock.claim = .ok file.places.claim

/-- The directory of the claim is there, and the path of the claim leads to its place. -/
structure IsClaimable (file : SnapshotFile) (disk : Disk) : Prop where
  directory : disk.HasDirectoryOf file.lock.claim
  resolved : disk.resolve file.lock.claim = .ok file.places.claim
  claimFree : disk.node? file.places.claim = none

/-- The path of the lock is shorter than that of the claim, so it leads somewhere as well. -/
theorem IsClaimable.lock (slashless : '/' ∉ file.claimant.toList)
    (claimable : file.IsClaimable disk) :
    disk.resolve file.lock.path = .ok file.places.lock := by
  have resolved := claimable.resolved
  have whole : ".lock." ++ file.claimant = ".lock" ++ ("." ++ file.claimant) := by
    rw [← String.append_assoc]
    rfl
  rw [claim_eq] at resolved
  apply resolve_shorter lock_isEnding (claim_isEnding slashless) (by decide) _ resolved
  rw [whole, String.utf8ByteSize_append]
  exact Nat.le_add_right _ _

/-- Nothing stands at the lock, or a file that was left behind. -/
def IsUnlocked (file : SnapshotFile) (disk : Disk) : Prop :=
  disk.node? file.places.lock = none ∨ ∃ content age,
    disk.node? file.places.lock = some (.file content age) ∧ Lock.staleAfter < age

theorem IsUnlocked.of_same_or_gone {after : Disk} (unlocked : file.IsUnlocked disk)
    (either : after.node? file.places.lock = disk.node? file.places.lock ∨
      after.node? file.places.lock = none) : file.IsUnlocked after := by
  rcases either with same | gone
  · unfold IsUnlocked
    rw [same]
    exact unlocked
  · exact .inl gone

/-- Where nothing stands at the lock a claim takes it. -/
theorem claimOn_unheld (slashless : '/' ∉ file.claimant.toList)
    (claimable : file.IsClaimable disk) (free : disk.node? file.places.lock = none) :
    (file.lock.claimOn disk).1 = .taken := by
  rw [Lock.claimOn_eq claimable.resolved (claimable.lock slashless)
    (Ne.symm (lock_apart_claim slashless)) (not_directory_of_none claimable.claimFree) free]

/-- A claim removes a lock that was left behind, and the next one can be made. -/
theorem claimOn_stale (slashless : '/' ∉ file.claimant.toList)
    (claimable : file.IsClaimable disk) {content : ByteArray} {age : Int}
    (left : disk.node? file.places.lock = some (.file content age))
    (stale : Lock.staleAfter < age) :
    (file.lock.claimOn disk).1 = .again ∧ file.IsClaimable (file.lock.claimOn disk).2 ∧
      (file.lock.claimOn disk).2.node? file.places.lock = none := by
  have apart := lock_apart_claim slashless
  obtain ⟨holds, answered⟩ := claimOn_occupied slashless claimable.resolved
    (claimable.lock slashless) (not_directory_of_none claimable.claimFree) left
  have met : file.lock.meet (disk.set file.places.claim Lock.mark) =
      (.again, (disk.set file.places.claim Lock.mark).erase file.places.lock) := by
    unfold Lock.meet find?
    rw [holds.lockResolved]
    dsimp only
    rw [holds.lock]
    dsimp only
    rw [if_pos (show Lock.staleAfter < (DiskNode.file content age).age from stale),
      remove_eq holds.lockResolved holds.lock]
  have erased := erase_keeps (isDirectory_eq_false_of_file holds.lock)
  have stillHeld : ((disk.set file.places.claim Lock.mark).erase file.places.lock).node?
      file.places.claim = some Lock.mark := by
    rw [node?_erase_of_ne apart, holds.claim]
  have all := Lock.claimOn_keeps file.lock disk
  rw [answered, met, discard_eq (resolve_keeps erased holds.claimResolved) stillHeld] at all ⊢
  refine ⟨rfl, ⟨claimable.directory.keeps all, resolve_keeps all claimable.resolved,
    node?_erase_self (claim_unfixed slashless)⟩, ?_⟩
  rw [node?_erase_of_ne (Ne.symm apart), node?_erase_self file.lock_unfixed]

/-- An attempt that gets as far as the lock could make its claim. -/
theorem hasRoom_of_attempt {outcome : Lock.Attempt}
    (attempted : (file.lock.attempt disk).1 = outcome)
    (reached : outcome = .taken ∨ outcome = .again) : file.HasRoom disk := by
  have withdrawn (fault : DiskFault) (left : Disk) :
      (file.lock.withdraw fault left).1 ≠ .taken ∧ (file.lock.withdraw fault left).1 ≠ .again := by
    unfold Lock.withdraw Lock.Attempt.ofFault
    split
    · exact ⟨Lock.Attempt.noConfusion, Lock.Attempt.noConfusion⟩
    · dsimp only
      split <;> exact ⟨Lock.Attempt.noConfusion, Lock.Attempt.noConfusion⟩
  unfold Lock.attempt at attempted
  rcases made : disk.makeFoldedDirectory file.lock.claim with ⟨fault | _, ready⟩
  · rw [made] at attempted
    have never := withdrawn fault ready
    rcases reached with rfl | rfl
    · exact absurd attempted never.1
    · exact absurd attempted never.2
  · rw [made] at attempted
    dsimp only at attempted
    refine ⟨ready, made, ?_⟩
    unfold Lock.claimOn at attempted
    cases written : ready.write file.lock.claim Lock.claimContent with
    | error fault =>
        rw [written] at attempted
        have never := withdrawn fault ready
        rcases reached with rfl | rfl
        · exact absurd attempted never.1
        · exact absurd attempted never.2
    | ok claimed =>
        obtain ⟨claim, resolved, -, -⟩ := of_write written
        rw [resolved]
        exact congrArg Except.ok (resolve_eq_place resolved)

theorem acquireWithin_succ (lock : Lock) (count : Nat) (disk : Disk) :
    lock.acquireWithin (count + 1) disk = match lock.attempt disk with
      | (.taken, locked) => (.ok true, locked)
      | (.refused, left) => (.ok false, left)
      | (.broken cause, left) => (crash (.disk cause), left)
      | (.again, left) => lock.acquireWithin count left := rfl

/-- A claim to a lock that is given could be made at the first attempt. -/
theorem hasRoom_of_acquire (acquired : (file.lock.acquire disk).1 = .ok true) :
    file.HasRoom disk := by
  unfold Lock.acquire Lock.attempts at acquired
  rw [acquireWithin_succ] at acquired
  rcases attempted : file.lock.attempt disk with ⟨outcome, left⟩
  rw [attempted] at acquired
  have first : (file.lock.attempt disk).1 = outcome := by rw [attempted]
  cases outcome with
  | taken => exact hasRoom_of_attempt first (.inl rfl)
  | again => exact hasRoom_of_attempt first (.inr rfl)
  | refused => exact absurd (Except.ok.inj acquired) Bool.false_ne_true
  | broken cause => cases acquired

/-- A lock that is free is given at the next attempt. -/
theorem acquireWithin_unheld (slashless : '/' ∉ file.claimant.toList)
    (claimable : file.IsClaimable disk) (free : disk.node? file.places.lock = none)
    (count : Nat) : (file.lock.acquireWithin (count + 1) disk).1 = .ok true := by
  have outcome := claimOn_unheld slashless claimable free
  rw [acquireWithin_succ, attempt_of_made (makeFoldedDirectory_of_present claimable.directory)]
  rcases claimed : file.lock.claimOn disk with ⟨attempt, locked⟩
  rw [claimed] at outcome
  rw [show attempt = .taken from outcome]

/-- A lock that was left behind is removed at one attempt and given at the next. -/
theorem acquireWithin_stale (slashless : '/' ∉ file.claimant.toList)
    (claimable : file.IsClaimable disk) {content : ByteArray} {age : Int}
    (stands : disk.node? file.places.lock = some (.file content age))
    (stale : Lock.staleAfter < age) (count : Nat) :
    (file.lock.acquireWithin (count + 2) disk).1 = .ok true := by
  obtain ⟨outcome, again, free⟩ := claimOn_stale slashless claimable stands stale
  rw [acquireWithin_succ, attempt_of_made (makeFoldedDirectory_of_present claimable.directory)]
  rcases claimed : file.lock.claimOn disk with ⟨attempt, left⟩
  rw [claimed] at outcome again free
  rw [show attempt = .again from outcome]
  exact acquireWithin_unheld slashless again free count

/-- A lock that is free or was left behind is given exactly where a claim to it can be made. -/
theorem acquire_unlocked_iff (slashless : '/' ∉ file.claimant.toList)
    (claimFree : disk.node? file.places.claim = none) (unlocked : file.IsUnlocked disk) :
    (file.lock.acquire disk).1 = .ok true ↔ file.HasRoom disk := by
  refine ⟨hasRoom_of_acquire, ?_⟩
  rintro ⟨ready, made, resolved⟩
  have leaves := leavesNothing_makeClaimDirectory slashless disk
  rw [made] at leaves
  have readyFree := (leaves.nodes _).stays_free (isBelow_claim slashless) claimFree
  have present := hasDirectoryOf_of_made made
  have claimable : file.IsClaimable ready := ⟨present, resolved, readyFree⟩
  -- With the directory made, the first attempt comes to the same.
  have same (count : Nat) : file.lock.acquireWithin (count + 1) disk =
      file.lock.acquireWithin (count + 1) ready := by
    rw [acquireWithin_succ, acquireWithin_succ, attempt_of_made made,
      attempt_of_made (makeFoldedDirectory_of_present present)]
  unfold Lock.acquire Lock.attempts
  rw [same]
  rcases unlocked.of_same_or_gone ((leaves.nodes _).same_or_gone file.isBelow_lock) with
    free | ⟨content, age, stands, stale⟩
  · exact acquireWithin_unheld slashless claimable free _
  · exact acquireWithin_stale slashless claimable stands stale _

end CodeGraph.SnapshotFile

import CodeGraph.Proofs.LockCycle
import CodeGraph.Proofs.Neighbours
import CodeGraph.Storage.SnapshotFile

/-!
This file holds the places that a snapshot file needs on the disk, and it says that they differ.
-/

namespace CodeGraph

/-- Different endings make different names in a directory. -/
theorem Disk.label_append_ne {first second : String} (apart : first ≠ second)
    (parent : List String) (name : String) :
    label (parent ++ [name ++ first]) ≠ label (parent ++ [name ++ second]) := by
  intro same
  have names := congrArg String.toList (label_concat_injective same)
  rw [String.toList_append, String.toList_append] at names
  exact apart (String.toList_inj.mp (List.append_cancel_left names))

namespace SnapshotFile

open Disk

/-- The places of the file, of its temporary file, of its lock and of the claim to the lock. -/
structure Places where
  path : List String
  temporary : List String
  lock : List String
  claim : List String

/-- All paths lead to their places, and their directories are there. -/
structure IsReady (file : SnapshotFile) (disk : Disk) (places : Places) : Prop where
  path : disk.resolve file.path = .ok places.path
  temporary : disk.resolve file.temporary = .ok places.temporary
  lock : disk.resolve file.lock.path = .ok places.lock
  claim : disk.resolve file.lock.claim = .ok places.claim
  directory : disk.HasDirectoryOf file.path
  claimDirectory : disk.HasDirectoryOf file.lock.claim

/-- The places differ, and none of them is always there. -/
structure Places.AreApart (places : Places) : Prop where
  pathTemporary : label places.path ≠ label places.temporary
  pathLock : label places.path ≠ label places.lock
  pathClaim : label places.path ≠ label places.claim
  temporaryLock : label places.temporary ≠ label places.lock
  temporaryClaim : label places.temporary ≠ label places.claim
  lockClaim : label places.lock ≠ label places.claim
  pathUnfixed : isStanding places.path = false
  temporaryUnfixed : isStanding places.temporary = false
  lockUnfixed : isStanding places.lock = false
  claimUnfixed : isStanding places.claim = false

/-- Files can be put at the places, and the lock is free. -/
structure IsOpen (file : SnapshotFile) (disk : Disk) (places : Places) : Prop where
  ready : file.IsReady disk places
  plain : disk.isDirectory places.path = false
  temporaryPlain : disk.isDirectory places.temporary = false
  claimPlain : disk.isDirectory places.claim = false
  lockFree : disk.node? places.lock = none

/-- No program is at work on the file: nothing stands beside it. -/
structure IsIdle (file : SnapshotFile) (disk : Disk) (places : Places) : Prop where
  ready : file.IsReady disk places
  apart : places.AreApart
  plain : disk.isDirectory places.path = false
  temporaryFree : disk.node? places.temporary = none
  lockFree : disk.node? places.lock = none
  claimFree : disk.node? places.claim = none

variable {file : SnapshotFile} {disk : Disk} {places : Places}

theorem IsReady.keeps {after : Disk} (ready : file.IsReady disk places)
    (keeps : Keeps disk after) : file.IsReady after places where
  path := resolve_keeps keeps ready.path
  temporary := resolve_keeps keeps ready.temporary
  lock := resolve_keeps keeps ready.lock
  claim := resolve_keeps keeps ready.claim
  directory := ready.directory.keeps keeps
  claimDirectory := ready.claimDirectory.keeps keeps

theorem IsIdle.isOpen (idle : file.IsIdle disk places) : file.IsOpen disk places where
  ready := idle.ready
  plain := idle.plain
  temporaryPlain := not_directory_of_none idle.temporaryFree
  claimPlain := not_directory_of_none idle.claimFree
  lockFree := idle.lockFree

theorem temporary_isEnding : IsEnding ".tmp" := ⟨by decide, by decide⟩

theorem lock_isEnding : IsEnding ".lock" := ⟨by decide, by decide⟩

theorem claim_isEnding (slashless : '/' ∉ file.claimant.toList) :
    IsEnding (".lock." ++ file.claimant) := by
  refine ⟨?_, ?_⟩
  · rw [String.toList_append, List.mem_append]
    exact not_or.mpr ⟨by decide, slashless⟩
  · rw [String.toList_append, List.length_append]
    exact Nat.le_trans (by decide) (Nat.le_add_right 6 _)

theorem claim_eq (file : SnapshotFile) :
    file.lock.claim = file.path ++ (".lock." ++ file.claimant) := String.append_assoc

/-- The ending of a claim is longer than the other ones, even if the claimant has no name. -/
theorem ne_claim_of_short (file : SnapshotFile) {ending : String}
    (short : ending.toList.length < 6) : ending ≠ ".lock." ++ file.claimant := by
  intro same
  have lengths := congrArg (fun text => text.toList.length) same
  have size : ".lock.".toList.length = 6 := by decide
  simp only [String.toList_append, List.length_append, size] at lengths
  omega

/-- The places beside a file are in its directory and named after it. -/
theorem IsReady.named (slashless : '/' ∉ file.claimant.toList)
    (ready : file.IsReady disk places) :
    ∃ parent, disk.enter parent (baseName file.path) = .ok places.path ∧
      places.temporary = parent ++ [baseName file.path ++ ".tmp"] ∧
      places.lock = parent ++ [baseName file.path ++ ".lock"] ∧
      places.claim = parent ++ [baseName file.path ++ (".lock." ++ file.claimant)] := by
  obtain ⟨parent, led, entered⟩ := resolve_path ready.path
  have beside {ending : String} {place : List String} (isEnding : IsEnding ending)
      (resolved : disk.resolve (file.path ++ ending) = .ok place) :
      place = parent ++ [baseName file.path ++ ending] := by
    obtain ⟨other, otherLed, same⟩ := resolve_append isEnding resolved
    rw [led, Except.ok.injEq] at otherLed
    rw [same, otherLed]
  exact ⟨parent, entered, beside temporary_isEnding ready.temporary,
    beside lock_isEnding ready.lock,
    beside (claim_isEnding slashless) (claim_eq file ▸ ready.claim)⟩

/-- The names beside a file differ from each other and from the file. -/
theorem IsReady.apart (slashless : '/' ∉ file.claimant.toList)
    (ready : file.IsReady disk places) (unfixed : isStanding places.path = false) :
    places.AreApart := by
  obtain ⟨parent, entered, temporary, lock, claim⟩ := ready.named slashless
  have longer {ending : String} (isEnding : IsEnding ending) :
      label places.path ≠ label (parent ++ [baseName file.path ++ ending]) := fun same =>
    absurd (length_label_lt isEnding entered unfixed) (same ▸ Nat.lt_irrefl _)
  have unfixedName {ending : String} (isEnding : IsEnding ending) :
      isStanding (parent ++ [baseName file.path ++ ending]) = false :=
    not_standing_name parent (isEnding.long_append _)
  exact {
    pathTemporary := temporary ▸ longer temporary_isEnding
    pathLock := lock ▸ longer lock_isEnding
    pathClaim := claim ▸ longer (claim_isEnding slashless)
    temporaryLock := temporary ▸ lock ▸ label_append_ne (by decide) parent _
    temporaryClaim := temporary ▸ claim ▸
      label_append_ne (ne_claim_of_short file (by decide)) parent _
    lockClaim := lock ▸ claim ▸ label_append_ne (ne_claim_of_short file (by decide)) parent _
    pathUnfixed := unfixed
    temporaryUnfixed := temporary ▸ unfixedName temporary_isEnding
    lockUnfixed := lock ▸ unfixedName lock_isEnding
    claimUnfixed := claim ▸ unfixedName (claim_isEnding slashless) }

end SnapshotFile

end CodeGraph

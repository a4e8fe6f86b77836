import CodeGraph.Disk.Basic

/-!
This file holds the locks that keep programs from using a file at the same time. A lock is a file
that is linked to the lock path, since a link fails where something stands already. A lock file that
is old enough was left behind, and it is broken.
-/

namespace CodeGraph

/-- The path of a lock, and the path of the file that a program makes to claim it. -/
structure Lock where
  path : String
  claim : String
  deriving DecidableEq, Repr

namespace Lock

/-- A lock of more seconds than these was left behind. -/
def staleAfter : Int := 60

/-- A lock is tried so many times. -/
def attempts : Nat := 10

/-- The content of a claim. -/
def claimContent : ByteArray := "1".toUTF8

/-- What one attempt to take a lock comes to. -/
inductive Attempt where
  | taken
  | again
  | refused
  | broken (cause : DiskFault)
  deriving DecidableEq, Repr

/-- A fault refuses the lock, unless it lies with the program. -/
def Attempt.ofFault (fault : DiskFault) : Attempt :=
  if fault.isDefect then .broken fault else .refused

/-- Something stands at the lock path: a fresh lock is waited for, and a stale file is removed. -/
def meet (lock : Lock) (disk : Disk) : Attempt × Disk :=
  match disk.find? lock.path with
  | none => (.again, disk)
  | some node =>
      if staleAfter < node.age then
        match disk.remove lock.path with
        | .ok freed => (.again, freed)
        | .error _ => (.refused, disk)
      else (.again, disk)

/-- What a fault comes to that was met before the claim was linked: a claim that is there already is
taken away, and a directory in its place is a defect. -/
def withdraw (lock : Lock) (fault : DiskFault) (disk : Disk) : Attempt × Disk :=
  match disk.find? lock.claim with
  | some (.directory _) => (.broken .isDirectory, disk)
  | _ => (.ofFault fault, disk.discard lock.claim)

/-- The claim is linked to the lock path and taken away again. -/
def claimOn (lock : Lock) (disk : Disk) : Attempt × Disk :=
  match disk.write lock.claim claimContent with
  | .error fault => lock.withdraw fault disk
  | .ok claimed =>
      match claimed.link lock.claim lock.path with
      | .ok linked => (.taken, linked.discard lock.claim)
      | .error .occupied =>
          let met := lock.meet claimed
          (met.1, met.2.discard lock.claim)
      | .error _ => (.refused, claimed.discard lock.claim)

/-- One attempt makes the directory of the claim first. -/
def attempt (lock : Lock) (disk : Disk) : Attempt × Disk :=
  match disk.makeFoldedDirectory lock.claim with
  | (.error fault, left) => lock.withdraw fault left
  | (.ok (), ready) => lock.claimOn ready

/-- At most so many attempts are made. -/
def acquireWithin (lock : Lock) : Nat → Disk → Outcome Bool × Disk
  | 0, disk => (.ok false, disk)
  | count + 1, disk =>
      match lock.attempt disk with
      | (.taken, locked) => (.ok true, locked)
      | (.refused, left) => (.ok false, left)
      | (.broken cause, left) => (crash (.disk cause), left)
      | (.again, left) => lock.acquireWithin count left

/-- Whether the lock was taken, and the disk after the attempts. -/
def acquire (lock : Lock) (disk : Disk) : Outcome Bool × Disk := lock.acquireWithin attempts disk

/-- The lock is given back. -/
def release (lock : Lock) (disk : Disk) : Disk := disk.discard lock.path

end Lock

end CodeGraph

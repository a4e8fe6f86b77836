import CodeGraph.Disk.Lock
import CodeGraph.FilePath
import CodeGraph.Snapshot.Restore
import CodeGraph.Text.Utf8

/-!
This file keeps a snapshot in a file. A save writes a temporary file first and then puts it in the
place of the old one, so a reader never sees half a snapshot. A lock is held meanwhile.
-/

namespace CodeGraph

/-- The path of the file, and the name under which a program claims its lock. -/
structure SnapshotFile where
  path : String
  claimant : String
  deriving DecidableEq, Repr

namespace SnapshotFile

def lock (file : SnapshotFile) : Lock :=
  ⟨file.path ++ ".lock", file.path ++ ".lock." ++ file.claimant⟩

/-- The path of the temporary file. -/
def temporary (file : SnapshotFile) : String := file.path ++ ".tmp"

/-- The path of the directory. -/
def directory (file : SnapshotFile) : String := Disk.foldedDirectory file.path

/-- The value that the bytes of the file denote. Bytes that are no text at all are a defect. -/
def parse (file : SnapshotFile) (content : ByteArray) : Outcome Value :=
  match Utf8.decode? content with
  | none => crash .undecodableText
  | some text => Json.readDocument (.storage (.corruptSnapshot file.path)) text

/-- The value that stands in the file. -/
def readValue (file : SnapshotFile) (disk : Disk) : Outcome Value :=
  match disk.read file.path with
  | .ok content => file.parse content
  | .error _ => .error (.storage (.unreadableSnapshot file.path))

/-- The snapshot that a value of the file describes. -/
def restore (vocabulary : Vocabulary) (now : String) (file : SnapshotFile) (value : Value) :
    Outcome Snapshot :=
  match value with
  | .object fields => Snapshot.ofFields vocabulary now fields
  | _ => .error (.storage (.snapshotNotObject file.path))

/-- The snapshot in the file, or nothing if there is no file. The lock is held while the file is
read. -/
def load (vocabulary : Vocabulary) (now : String) (file : SnapshotFile) (disk : Disk) :
    Outcome (Option Snapshot) × Disk :=
  if disk.contains file.path then
    match file.lock.acquire disk with
    | (.error fault, left) => (.error fault, left)
    | (.ok false, left) => (.error (.storage (.readLock file.path)), left)
    | (.ok true, locked) =>
        (((file.readValue locked).bind (restore vocabulary now file)).map some,
          file.lock.release locked)
  else (.ok none, disk)

/-- The bytes of the file of a snapshot. -/
def content (snapshot : Snapshot) : ByteArray := Utf8.encode snapshot.toValue.indentedText

/-- A save that failed removes the temporary file; a directory in its place is a defect. -/
def abandon (file : SnapshotFile) (disk : Disk) : Outcome Unit × Disk :=
  match disk.find? file.temporary with
  | some (.directory _) => (crash (.disk .isDirectory), disk)
  | _ => (.error (.storage (.saveFailed file.path)), disk.discard file.temporary)

/-- The lists and objects of a document nest at most so deep when it is written. The limit is the
one of calls within calls, less those that lead to the writer. -/
def writeLimit : Nat := 993

/-- The bytes that are written of a snapshot before its text breaks off. -/
def begunContent (snapshot : Snapshot) : ByteArray :=
  Utf8.encode (snapshot.toValue.begunText .indented writeLimit 0)

/-- The text of the snapshot breaks off in the temporary file. A wrong value is looked out for like
a failure of the disk; with any other defect the temporary file stays behind. -/
def breakOff (snapshot : Snapshot) (cause : Defect) (file : SnapshotFile) (disk : Disk) :
    Outcome Unit × Disk :=
  match disk.write file.temporary (begunContent snapshot) with
  | .error _ => file.abandon disk
  | .ok written =>
      if cause.defectClass = .wrongValue then file.abandon written else (crash cause, written)

/-- The temporary file with the whole text takes the place of the old file. -/
def putWhole (snapshot : Snapshot) (file : SnapshotFile) (disk : Disk) : Outcome Unit × Disk :=
  match disk.write file.temporary (content snapshot) with
  | .error _ => file.abandon disk
  | .ok written =>
      match written.replace file.temporary file.path with
      | .ok replaced => (.ok (), replaced)
      | .error _ => file.abandon written

/-- The temporary file is written and takes the place of the old file. -/
def put (snapshot : Snapshot) (file : SnapshotFile) (disk : Disk) : Outcome Unit × Disk :=
  match snapshot.toValue.writeDefect? writeLimit with
  | some cause => file.breakOff snapshot cause disk
  | none => file.putWhole snapshot disk

/-- The directory of the file is made unless it is there. -/
def makeDirectory (file : SnapshotFile) (disk : Disk) : Outcome Unit × Disk :=
  match disk.makeFoldedDirectory file.path with
  | (.ok (), made) => (.ok (), made)
  | (.error fault, left) =>
      if fault.isDefect then (crash (.disk fault), left)
      else (.error (.storage (.directoryRefused file.directory)), left)

/-- The snapshot is put into the file while the lock is held. -/
def putLocked (snapshot : Snapshot) (file : SnapshotFile) (disk : Disk) : Outcome Unit × Disk :=
  match file.lock.acquire disk with
  | (.error fault, left) => (.error fault, left)
  | (.ok false, left) => (.error (.storage (.saveLock file.path)), left)
  | (.ok true, locked) =>
      let saved := file.put snapshot locked
      (saved.1, file.lock.release saved.2)

/-- The snapshot takes the place of the one in the file, whose directory is made first. -/
def save (snapshot : Snapshot) (file : SnapshotFile) (disk : Disk) : Outcome Unit × Disk :=
  match file.makeDirectory disk with
  | (.error fault, left) => (.error fault, left)
  | (.ok (), made) => file.putLocked snapshot made

end SnapshotFile

end CodeGraph

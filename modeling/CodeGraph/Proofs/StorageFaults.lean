import CodeGraph.Proofs.LockDefects
import CodeGraph.Proofs.LockDiscipline
import CodeGraph.Proofs.StoredFaults

/-!
This file says which faults come of the calls that save and load a snapshot file: faults of the
storage, but for the defects that are listed here.
-/

namespace CodeGraph.SnapshotFile

open Disk

variable {file : SnapshotFile} {disk locked : Disk} {snapshot : Snapshot} {content : ByteArray}

/-- The bytes of a file that are neither restored nor found at fault. They are no text, or a text in
which a whole number has too many digits or a level too many is opened, or the fields of an object
whose generation is infinite. -/
inductive IsBeyond (content : ByteArray) : Prop
  | undecodable (undecoded : Utf8.decode? content = none)
  | digits {text : List Char} (decoded : Utf8.decode? content = some text)
      (refused : Json.read text = .error .tooManyDigits)
  | levels {text : List Char} (decoded : Utf8.decode? content = some text)
      (refused : Json.read text = .error .tooDeep)
  | generation {text : List Char} {fields : List (String × Value)}
      (decoded : Utf8.decode? content = some text) (read : Json.read text = .ok (.object fields))
      (infinite : Snapshot.HasInfiniteGeneration fields)

/-- The bytes of a file are no text that spells half of a surrogate pair. Such a text has no value
here, since a value holds nothing but characters. -/
def IsPaired (content : ByteArray) : Prop :=
  ∀ text, Utf8.decode? content = some text → Json.read text ≠ .error .unpaired

/-- What the bytes of a file are restored to. -/
def restored (vocabulary : Vocabulary) (now : String) (file : SnapshotFile) (content : ByteArray) :
    Outcome Snapshot := (file.parse content).bind (restore vocabulary now file)

/-- Bytes are restored, or the storage is at fault, unless they are beyond that. -/
theorem restored_isStorage (vocabulary : Vocabulary) (now : String) (file : SnapshotFile)
    (paired : IsPaired content) (within : ¬IsBeyond content) :
    FailsWithin (fun fault => fault.isStorage = true) (restored vocabulary now file content) := by
  have parsed : FailsWithin (fun fault => fault.isStorage = true) (file.parse content) := by
    unfold parse
    split
    · rename_i undecoded
      exact absurd (.undecodable undecoded) within
    · rename_i text decoded
      unfold Json.readDocument
      split
      · exact FailsWithin.ok _
      · exact FailsWithin.error rfl
      · rename_i refused
        exact absurd (.digits decoded refused) within
      · rename_i refused
        exact absurd (.levels decoded refused) within
      · rename_i refused
        exact absurd refused (paired text decoded)
  apply parsed.bind
  intro value given
  unfold restore
  split
  · rename_i fields
    obtain ⟨text, decoded, read⟩ : ∃ text, Utf8.decode? content = some text ∧
        Json.read text = .ok (.object fields) := by
      unfold parse at given
      split at given
      · cases given
      · rename_i text decoded
        exact ⟨text, decoded, Json.readDocument_ok_iff.mp given⟩
    exact Snapshot.ofFields_isStorage vocabulary now (Json.read_isRead read).writable
      fun infinite => within (.generation decoded read infinite)
  · exact FailsWithin.error rfl

/-- Bytes that are beyond restoring end in a defect. -/
theorem restored_of_isBeyond (vocabulary : Vocabulary) (now : String) (file : SnapshotFile)
    (beyond : IsBeyond content) :
    ∃ cause, restored vocabulary now file content = .error (.defect cause) := by
  unfold restored parse Json.readDocument
  cases beyond with
  | undecodable undecoded =>
      rw [undecoded]
      exact ⟨_, rfl⟩
  | digits decoded refused =>
      rw [decoded]
      dsimp only
      rw [refused]
      exact ⟨_, rfl⟩
  | levels decoded refused =>
      rw [decoded]
      dsimp only
      rw [refused]
      exact ⟨_, rfl⟩
  | generation decoded read infinite =>
      rw [decoded]
      dsimp only
      rw [read]
      exact ⟨_, Snapshot.ofFields_of_infinite vocabulary now infinite⟩

/-- The bytes that are restored to a defect. -/
theorem restored_defect_iff (vocabulary : Vocabulary) (now : String) (file : SnapshotFile)
    (paired : IsPaired content) :
    (∃ fault, (restored vocabulary now file content).map some = .error fault ∧
      fault.isStorage = false) ↔ IsBeyond content := by
  constructor
  · rintro ⟨fault, failed, defect⟩
    by_contra within
    have storage := (restored_isStorage vocabulary now file paired within).map some fault failed
    exact Bool.false_ne_true (defect.symm.trans storage)
  · intro beyond
    obtain ⟨cause, ended⟩ := restored_of_isBeyond vocabulary now file beyond
    rw [ended]
    exact ⟨_, rfl, rfl⟩

/-- A save that is given up ends in a defect exactly where a directory is in the place of the
temporary file. -/
theorem abandon_defect_iff (file : SnapshotFile) (disk : Disk) :
    (∃ fault, (file.abandon disk).1 = .error fault ∧ fault.isStorage = false) ↔
      ∃ age, disk.find? file.temporary = some (.directory age) := by
  unfold abandon
  split
  · rename_i age found
    exact ⟨fun _ => ⟨age, found⟩, fun _ => ⟨_, rfl, rfl⟩⟩
  · rename_i clear
    refine ⟨fun ⟨fault, failed, defect⟩ => ?_, fun ⟨age, found⟩ => absurd found (clear age)⟩
    cases failed
    cases defect

/-- A temporary file that was written is given up without a defect. -/
theorem abandon_written_isStorage {bytes : ByteArray} {next : Disk}
    (written : disk.write file.temporary bytes = .ok next) :
    ¬∃ fault, (file.abandon next).1 = .error fault ∧ fault.isStorage = false := by
  rintro ⟨fault, failed, defect⟩
  rw [(abandon_written written).2.2] at failed
  cases failed
  cases defect

theorem putWhole_defect_iff (snapshot : Snapshot) :
    (∃ fault, (file.putWhole snapshot disk).1 = .error fault ∧ fault.isStorage = false) ↔
      ∃ age, disk.find? file.temporary = some (.directory age) := by
  unfold putWhole
  cases written : disk.write file.temporary (SnapshotFile.content snapshot) with
  | error cause => exact abandon_defect_iff file disk
  | ok next =>
      refine ⟨fun ⟨fault, failed, defect⟩ => ?_, fun ⟨age, found⟩ => ?_⟩
      · dsimp only at failed
        split at failed
        · cases failed
        · exact absurd ⟨fault, failed, defect⟩ (abandon_written_isStorage written)
      · rw [write_directory found] at written
        cases written

/-- A text that breaks off in a temporary file that can be made ends in a defect if a directory is
in its place, or if the levels of the document are what is in the way. -/
theorem breakOff_defect_iff {place : List String}
    (resolved : disk.resolve file.temporary = .ok place) {cause : Defect}
    (found : snapshot.toValue.writeDefect? writeLimit = some cause) :
    (∃ fault, (file.breakOff snapshot cause disk).1 = .error fault ∧ fault.isStorage = false) ↔
      (∃ age, disk.find? file.temporary = some (.directory age)) ∨ cause = .tooDeep := by
  unfold breakOff
  cases written : disk.write file.temporary (begunContent snapshot) with
  | error refused =>
      have occupied : ∃ age, disk.find? file.temporary = some (.directory age) := by
        cases plain : disk.isDirectory place with
        | false =>
            rw [write_eq resolved plain] at written
            cases written
        | true =>
            rw [find?_of_resolve resolved]
            exact isDirectory_eq_true_iff.mp plain
      exact (abandon_defect_iff file disk).trans ⟨.inl, fun _ => occupied⟩
  | ok next =>
      have free : ¬∃ age, disk.find? file.temporary = some (.directory age) := by
        rintro ⟨age, occupied⟩
        rw [write_directory occupied] at written
        cases written
      dsimp only
      rcases Value.writeDefect?_cause found with rfl | rfl
      · have looked : Defect.tooManyDigits.defectClass = .wrongValue := rfl
        rw [if_pos looked]
        exact ⟨fun broken => absurd broken (abandon_written_isStorage written),
          fun either => absurd (either.resolve_right (by decide)) free⟩
      · have unlooked : Defect.tooDeep.defectClass ≠ .wrongValue := by decide
        rw [if_neg unlooked]
        exact ⟨fun _ => .inr rfl, fun _ => ⟨_, rfl, rfl⟩⟩

/-- A snapshot that is put into the file ends in a defect exactly where a directory is in the place
of the temporary file, or where its document has a level too many. -/
theorem put_defect_iff {place : List String} (resolved : disk.resolve file.temporary = .ok place)
    (snapshot : Snapshot) :
    (∃ fault, (file.put snapshot disk).1 = .error fault ∧ fault.isStorage = false) ↔
      (∃ age, disk.find? file.temporary = some (.directory age)) ∨
        snapshot.toValue.writeDefect? writeLimit = some .tooDeep := by
  unfold put
  cases found : snapshot.toValue.writeDefect? writeLimit with
  | none => simpa using putWhole_defect_iff snapshot
  | some cause => simpa using breakOff_defect_iff resolved found

/-- The file is read under the lock as it was before. -/
theorem HasTaken.read_eq (taken : file.HasTaken disk locked)
    (slashless : '/' ∉ file.claimant.toList) (present : disk.contains file.path = true) :
    locked.read file.path = disk.read file.path := by
  obtain ⟨node, found⟩ := Option.isSome_iff_exists.mp present
  obtain ⟨resolved, stands⟩ := find?_eq_some_iff.mp found
  have notBeside := path_notMem_namesBeside slashless
  have apart : label file.places.lock ≠ label file.places.path := by
    intro same
    exact notBeside (same ▸ file.lock_mem_namesBeside)
  have some : disk.node? file.places.path ≠ none := by
    intro none
    cases stands.symm.trans none
  have same := (taken.rest.nodes _).stays notBeside some
  rw [node?_erase_of_ne apart] at same
  unfold Disk.read
  rw [resolved, resolve_keeps taken.keeps resolved]
  simp only [bind, Except.bind]
  rw [show locked.node? (place file.path) = disk.node? (place file.path) from same]

/-- Under the lock the path of the temporary file leads to its place, since that of the lock
does. -/
theorem HasTaken.temporary_resolved (taken : file.HasTaken disk locked) :
    locked.resolve file.temporary = .ok file.places.temporary :=
  resolve_shorter temporary_isEnding lock_isEnding (by decide) (by decide) taken.resolved

/-- A directory in the place of the temporary file was there before the lock was taken. -/
theorem HasTaken.temporary_iff (taken : file.HasTaken disk locked) :
    (∃ age, locked.find? file.temporary = some (.directory age)) ↔
      disk.isDirectory file.places.temporary = true := by
  constructor
  · rintro ⟨age, found⟩
    have stands : locked.node? file.places.temporary = some (.directory age) :=
      (find?_eq_some_iff.mp found).2
    rcases (taken.rest.nodes _).same_or_gone file.isBelow_temporary with same | gone
    · rw [node?_erase_of_ne file.lock_apart_temporary, stands] at same
      exact isDirectory_eq_true_iff.mpr ⟨age, same.symm⟩
    · rw [node?_erase_of_ne file.lock_apart_temporary, stands] at gone
      cases gone
  · intro directory
    have still := taken.keeps.directories _ directory
    obtain ⟨age, stands⟩ := isDirectory_eq_true_iff.mp still
    rw [find?_of_resolve taken.temporary_resolved]
    exact ⟨age, stands⟩

/-- What asking for the lock comes to, and whether the claim could be made. -/
theorem acquired_cases (slashless : '/' ∉ file.claimant.toList) (disk : Disk) :
    (∃ fault left, file.lock.acquire disk = (.error fault, left) ∧ fault.isStorage = false ∧
      file.BreaksClaim disk) ∨
    (∃ left, file.lock.acquire disk = (.ok false, left) ∧ ¬file.BreaksClaim disk) ∨
    ∃ locked, file.lock.acquire disk = (.ok true, locked) ∧ ¬file.BreaksClaim disk ∧
      file.HasTaken disk locked := by
  have breaks : (∃ fault, (file.lock.acquire disk).1 = .error fault) ↔ file.BreaksClaim disk :=
    (acquireWithin_error_iff slashless Lock.attempts).trans (and_iff_right (by decide))
  have taken := acquire_cases slashless disk
  rcases acquired : file.lock.acquire disk with ⟨fault | given, left⟩
  · rw [acquired] at breaks
    have failed : (file.lock.acquire disk).1 = .error fault := congrArg Prod.fst acquired
    exact .inl ⟨fault, left, rfl, acquireWithin_isDefect failed, breaks.mp ⟨fault, rfl⟩⟩
  · rw [acquired] at breaks taken
    have able : ¬file.BreaksClaim disk := by
      intro broken
      obtain ⟨fault, impossible⟩ := breaks.mpr broken
      cases impossible
    cases given with
    | false => exact .inr (.inl ⟨left, rfl, able⟩)
    | true =>
        rcases taken with ⟨-, taken⟩ | ⟨impossible, -⟩
        · exact .inr (.inr ⟨left, rfl, able, taken⟩)
        · exact absurd rfl impossible

/-- The calls that end in a defect. The directory of the file cannot be made for a reason that lies
with the path, or the claim to the lock cannot be made, or a save meets a directory in the place of
its temporary file or has a document with a level too many, or a load meets bytes that are beyond
restoring. -/
inductive Breaks (file : SnapshotFile) (disk : Disk) : StorageCall → Prop
  | directory {snapshot : Snapshot} {fault : DiskFault}
      (failed : (disk.makeFoldedDirectory file.path).1 = .error fault)
      (defect : fault.isDefect = true) : Breaks file disk (.save snapshot)
  | claim {call : StorageCall} {asked : Disk} (asks : file.asked? call disk = some asked)
      (breaks : file.BreaksClaim asked) : Breaks file disk call
  | temporary {snapshot : Snapshot} {asked : Disk}
      (asks : file.asked? (.save snapshot) disk = some asked)
      (given : (file.lock.acquire asked).1 = .ok true)
      (occupied : asked.isDirectory file.places.temporary = true) :
      Breaks file disk (.save snapshot)
  | levels {snapshot : Snapshot} {asked : Disk}
      (asks : file.asked? (.save snapshot) disk = some asked)
      (given : (file.lock.acquire asked).1 = .ok true)
      (deep : snapshot.toValue.writeDefect? writeLimit = some .tooDeep) :
      Breaks file disk (.save snapshot)
  | content {vocabulary : Vocabulary} {now : String} {content : ByteArray}
      (given : (file.lock.acquire disk).1 = .ok true) (read : disk.read file.path = .ok content)
      (beyond : IsBeyond content) : Breaks file disk (.load vocabulary now)

theorem contains_of_read {path : String} (read : disk.read path = .ok content) :
    disk.contains path = true := by
  obtain ⟨age, found⟩ := Disk.find?_of_read read
  unfold contains
  rw [found]
  rfl

/-- A load whose claim can be made. -/
theorem breaks_load_iff (able : ¬file.BreaksClaim disk) (vocabulary : Vocabulary) (now : String) :
    file.Breaks disk (.load vocabulary now) ↔
      (file.lock.acquire disk).1 = .ok true ∧
        ∃ content, disk.read file.path = .ok content ∧ IsBeyond content := by
  constructor
  · rintro (_ | ⟨asks, breaks⟩ | _ | _ | ⟨given, read, beyond⟩)
    · exact absurd ((asked?_load_eq_some_iff.mp asks).2 ▸ breaks) able
    · exact ⟨given, _, read, beyond⟩
  · rintro ⟨given, content, read, beyond⟩
    exact .content given read beyond

/-- A save whose directory is there and whose claim can be made. -/
theorem breaks_save_iff {asked : Disk}
    (made : disk.makeFoldedDirectory file.path = (.ok (), asked))
    (able : ¬file.BreaksClaim asked) (snapshot : Snapshot) :
    file.Breaks disk (.save snapshot) ↔
      (file.lock.acquire asked).1 = .ok true ∧
        (asked.isDirectory file.places.temporary = true ∨
          snapshot.toValue.writeDefect? writeLimit = some .tooDeep) := by
  have asks : file.asked? (.save snapshot) disk = some asked := asked?_save_of_made made
  constructor
  · rintro (⟨failed, -⟩ | ⟨others, breaks⟩ | ⟨others, given, occupied⟩ | ⟨others, given, deep⟩)
    · rw [made] at failed
      cases failed
    · cases asks.symm.trans others
      exact absurd breaks able
    · cases asks.symm.trans others
      exact ⟨given, .inl occupied⟩
    · cases asks.symm.trans others
      exact ⟨given, .inr deep⟩
  · rintro ⟨given, occupied | deep⟩
    · exact .temporary asks given occupied
    · exact .levels asks given deep

/-- A save whose directory cannot be made. -/
theorem breaks_save_of_unmade {cause : DiskFault} {left : Disk}
    (failed : disk.makeFoldedDirectory file.path = (.error cause, left)) (snapshot : Snapshot) :
    file.Breaks disk (.save snapshot) ↔ cause.isDefect = true := by
  have none {asked : Disk} : file.asked? (.save snapshot) disk ≠ some asked := by
    intro asks
    have directory := asked?_save_eq_some_iff.mp asks
    unfold makeDirectory at directory
    rw [failed] at directory
    dsimp only at directory
    split at directory <;> cases directory
  constructor
  · rintro (⟨again, defect⟩ | ⟨asks, -⟩ | ⟨asks, -, -⟩ | ⟨asks, -, -⟩)
    · rw [failed] at again
      exact Except.error.inj again ▸ defect
    · exact absurd asks none
    · exact absurd asks none
    · exact absurd asks none
  · exact .directory (congrArg Prod.fst failed)

theorem load_defect_iff (slashless : '/' ∉ file.claimant.toList)
    (paired : ∀ content, disk.read file.path = .ok content → IsPaired content)
    (vocabulary : Vocabulary) (now : String) :
    (∃ fault, (file.load vocabulary now disk).1 = .error fault ∧ fault.isStorage = false) ↔
      file.Breaks disk (.load vocabulary now) := by
  unfold load
  by_cases present : disk.contains file.path = true
  · rw [if_pos present]
    rcases acquired_cases slashless disk with ⟨fault, left, acquired, defect, breaks⟩ |
      ⟨left, acquired, able⟩ | ⟨locked, acquired, able, taken⟩
    · rw [acquired]
      exact ⟨fun _ => .claim (asked?_load_eq_some_iff.mpr ⟨present, rfl⟩) breaks,
        fun _ => ⟨fault, rfl, defect⟩⟩
    · rw [breaks_load_iff able, acquired]
      simp [Fault.isStorage]
    · rw [breaks_load_iff able, acquired]
      dsimp only
      unfold readValue
      rw [taken.read_eq slashless present]
      cases read : disk.read file.path with
      | error cause => simp [Except.bind, Except.map, Fault.isStorage]
      | ok content =>
          simpa [restored] using restored_defect_iff vocabulary now file (paired content read)
  · rw [if_neg present]
    constructor
    · rintro ⟨fault, failed, -⟩
      cases failed
    · rintro (_ | ⟨asks, -⟩ | _ | _ | ⟨-, read, -⟩)
      · exact absurd (asked?_load_eq_some_iff.mp asks).1 present
      · exact absurd (contains_of_read read) present

theorem save_defect_iff (slashless : '/' ∉ file.claimant.toList) :
    (∃ fault, (file.save snapshot disk).1 = .error fault ∧ fault.isStorage = false) ↔
      file.Breaks disk (.save snapshot) := by
  unfold save makeDirectory
  rcases made : disk.makeFoldedDirectory file.path with ⟨cause | _, asked⟩
  · rw [breaks_save_of_unmade made]
    dsimp only
    cases cause.isDefect <;> simp [crash, Fault.isStorage]
  · dsimp only
    unfold putLocked
    rcases acquired_cases slashless asked with ⟨fault, left, acquired, defect, breaks⟩ |
      ⟨left, acquired, able⟩ | ⟨locked, acquired, able, taken⟩
    · rw [acquired]
      exact ⟨fun _ => .claim (asked?_save_of_made made) breaks, fun _ => ⟨fault, rfl, defect⟩⟩
    · rw [breaks_save_iff made able, acquired]
      simp [Fault.isStorage]
    · rw [breaks_save_iff made able, acquired, ← taken.temporary_iff,
        ← put_defect_iff taken.temporary_resolved snapshot]
      simp

/-- A call succeeds or ends in a fault of the storage, whatever stands on the disk, unless it is one
of the calls that end in a defect. All of those do. The text of the file spells no half of a
surrogate pair. -/
theorem answer_defect_iff (slashless : '/' ∉ file.claimant.toList) (call : StorageCall)
    {disk : Disk} (paired : ∀ content, disk.read file.path = .ok content → IsPaired content) :
    (∃ fault, (file.answer call disk).1 = .error fault ∧ fault.isStorage = false) ↔
      file.Breaks disk call := by
  cases call with
  | load vocabulary now => exact load_defect_iff slashless paired vocabulary now
  | save snapshot =>
      have answered : (file.answer (.save snapshot) disk).1 =
          (file.save snapshot disk).1.map fun _ => some snapshot := rfl
      rw [← save_defect_iff slashless, answered]
      cases (file.save snapshot disk).1 <;> simp [Except.map]

/-- A disk with a file of a single byte, which is no text. -/
def strayDisk : Disk := ⟨[("s.json", .file ⟨#[0xFF]⟩ 0)], 0⟩

/-- The load of a file that is no text ends in a defect. -/
theorem answer_defect_stray :
    ∃ fault, ((⟨"s.json", "7.1"⟩ : SnapshotFile).answer
        (.load Vocabulary.initial "2024-01-02") strayDisk).1 = .error fault ∧
      fault.isStorage = false := by
  have room : HasRoom ⟨"s.json", "7.1"⟩ strayDisk := ⟨strayDisk, rfl, rfl⟩
  have given : (Lock.acquire (lock ⟨"s.json", "7.1"⟩) strayDisk).1 = .ok true :=
    (acquire_unlocked_iff (by decide) rfl (.inl rfl)).mpr room
  have undecoded : Utf8.decode? ⟨#[0xFF]⟩ = none := by decide
  have paired (content : ByteArray) (read : strayDisk.read "s.json" = .ok content) :
      IsPaired content := by
    cases read
    intro text decoded
    cases undecoded.symm.trans decoded
  exact (answer_defect_iff (by decide) (.load Vocabulary.initial "2024-01-02") paired).mpr
    (.content given rfl (.undecodable undecoded))

end CodeGraph.SnapshotFile

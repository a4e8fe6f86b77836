import CodeGraph.Interface.Command
import CodeGraph.Proofs.BuiltSnapshot
import CodeGraph.Proofs.KeptFile
import CodeGraph.Proofs.StorageFaults

/-!
This file says what the command does that indexes a file. It prints the summary of the snapshot that
it stored, with the generation that follows on the stored one, or it ends otherwise and leaves the
stored file alone.
-/

namespace CodeGraph

namespace SnapshotFile

variable {file : SnapshotFile}

/-- A load finds no file, or it restores the content of the file, or it fails. -/
theorem load_cases (slashless : '/' ∉ file.claimant.toList) (vocabulary : Vocabulary) (now : String)
    (disk : Disk) :
    ((file.load vocabulary now disk).1 = .ok none ∧ disk.find? file.path = none) ∨
    (∃ stored content age, (file.load vocabulary now disk).1 = .ok (some stored) ∧
      disk.find? file.path = some (.file content age) ∧
      restored vocabulary now file content = .ok stored) ∨
    ∃ fault, (file.load vocabulary now disk).1 = .error fault := by
  have asked := acquire_cases slashless disk
  unfold load
  by_cases present : disk.contains file.path = true
  · right
    rw [if_pos present]
    rcases acquired : file.lock.acquire disk with ⟨cause | taken, locked⟩
    · exact .inr ⟨cause, rfl⟩
    · rw [acquired] at asked
      cases taken with
      | false => exact .inr ⟨_, rfl⟩
      | true =>
          rcases asked with ⟨-, taken⟩ | ⟨impossible, -⟩
          · have same := taken.read_eq slashless present
            dsimp only
            cases read : disk.read file.path with
            | error cause =>
                unfold readValue
                rw [same, read]
                exact .inr ⟨_, rfl⟩
            | ok content =>
                obtain ⟨age, found⟩ := Disk.find?_of_read read
                have inside : (file.readValue locked).bind (restore vocabulary now file) =
                    restored vocabulary now file content := by
                  unfold readValue restored
                  rw [same, read]
                rw [inside]
                cases outcome : restored vocabulary now file content with
                | error fault => exact .inr ⟨fault, rfl⟩
                | ok stored => exact .inl ⟨stored, content, age, rfl, found, outcome⟩
          · exact absurd rfl impossible
  · left
    rw [if_neg present]
    exact ⟨rfl, Option.not_isSome_iff_eq_none.mp present⟩

end SnapshotFile

namespace CommandResult

/-- A command that fails has no exit code of success. -/
theorem exit_ne_zero_of_error {fault : Fault} {result : CommandResult}
    (ended : ofOutcome (.error fault) = .ok result) : result.exit ≠ 0 := by
  unfold ofOutcome at ended
  split at ended
  · rename_i given
    cases given
  · cases ended
  · cases ended
    decide

end CommandResult

namespace Surroundings

variable {surroundings : Surroundings} {path : String} {disk ready : Disk}

/-- The file in which the command keeps snapshots. -/
def snapshotFile (surroundings : Surroundings) (path : String) : SnapshotFile :=
  ⟨path, surroundings.claimant⟩

/-- What a load of the stored file gives on a disk. -/
def loaded (surroundings : Surroundings) (path : String) (ready : Disk) :
    Outcome (Option Snapshot) :=
  ((surroundings.snapshotFile path).load surroundings.vocabulary surroundings.now ready).1

/-- The generation that follows on what is stored. A stored file is restored, or it is missing, or
the storage is at fault, and then a new sequence begins. -/
inductive Follows (surroundings : Surroundings) (path : String) (ready : Disk) : Int → Prop where
  | missing (loaded : surroundings.loaded path ready = .ok none)
      (absent : ready.find? path = none) : Follows surroundings path ready 1
  | readable {stored : Snapshot} {content : ByteArray} {age : Int}
      (loaded : surroundings.loaded path ready = .ok (some stored))
      (found : ready.find? path = some (.file content age))
      (restored : (surroundings.snapshotFile path).restored surroundings.vocabulary
        surroundings.now content = .ok stored) :
      Follows surroundings path ready (max 0 stored.generation + 1)
  | unreadable {fault : Fault} (loaded : surroundings.loaded path ready = .error fault)
      (storage : fault.isStorage = true) : Follows surroundings path ready 1

/-- The command printed the summary of a snapshot, and the file holds the snapshot. -/
structure HasIndexed (path : String) (run : Outcome CommandResult × Disk) (snapshot : Snapshot) :
    Prop where
  printed : ∃ overview, Overview.measure snapshot = .ok overview ∧
    run.1 = .ok (CommandResult.printing
      (.object (overview.fields ++ [("storage", .text path)])))
  stored : run.2.find? path = some (.file (SnapshotFile.content snapshot) 0)

/-- The command crashed or ended with an exit code of failure, and the file is as it was. -/
structure HasFailed (path : String) (before : Disk) (run : Outcome CommandResult × Disk) :
    Prop where
  exit : ∀ result, run.1 = .ok result → result.exit ≠ 0
  kept : Disk.KeepsFile path before run.2

/-- A command after its start prints the summary of a snapshot whose generation is as wanted and
stores it, or it fails and leaves the stored file alone. -/
def Goes (path : String) (before : Disk) (wanted : Int → Prop)
    (run : Outcome CommandResult × Disk) : Prop :=
  (∃ snapshot, wanted snapshot.generation ∧ HasIndexed path run snapshot) ∨
    ((∃ fault, run.1 = .error fault) ∧ Disk.KeepsFile path before run.2)

/-- Steps before that leave the stored file alone change nothing. -/
theorem Goes.after {before : Disk} {wanted : Int → Prop} {run : Outcome CommandResult × Disk}
    (goes : Goes path ready wanted run) (kept : Disk.KeepsFile path before ready) :
    Goes path before wanted run :=
  goes.imp_right fun ⟨failed, left⟩ => ⟨failed, kept.trans left⟩

/-- With a manager at hand the next generation is indexed. -/
theorem finish_goes (slashless : '/' ∉ surroundings.claimant.toList) (input : Option String)
    {start : Start} (storage : start.storage = surroundings.fileStorage path)
    (managed : Managed Shelf) :
    Goes path managed.state.2 (· = managed.manager.nextGeneration)
      (indexInto.finish surroundings input start managed) := by
  unfold indexInto.finish indexFile
  dsimp only
  rw [storage]
  rcases Managed.index_cases surroundings.setting (surroundings.fileStorage path)
    (feedOf input managed.state.2) managed with
    ⟨fault, failed, -, same | ⟨snapshot, cause, unsaved, left⟩⟩ | ⟨snapshot, built, saved, whole⟩
  · right
    rw [failed, same]
    exact ⟨⟨fault, rfl⟩, (Disk.KeepsFiles.refl _).keepsFile path⟩
  · right
    rw [failed, left]
    exact ⟨⟨fault, rfl⟩, SnapshotFile.save_keepsFile slashless unsaved⟩
  · left
    rw [whole]
    obtain ⟨overview, measured⟩ := Overview.exists_measure (Manager.build_hasTexts built)
    have printed : summary path snapshot = .ok (CommandResult.printing
        (.object (overview.fields ++ [("storage", .text path)]))) := by
      unfold summary
      rw [measured]
      rfl
    exact ⟨snapshot, Manager.build_generation built, ⟨overview, measured, printed⟩,
      SnapshotFile.find?_of_save slashless saved⟩

/-- What a load gives tells which generation follows, unless it fails with a fault that is not of
the storage. -/
theorem loaded_cases (slashless : '/' ∉ surroundings.claimant.toList) (path : String)
    (ready : Disk) :
    (surroundings.loaded path ready = .ok none ∧ Follows surroundings path ready 1) ∨
    (∃ stored, surroundings.loaded path ready = .ok (some stored) ∧
      Follows surroundings path ready (max 0 stored.generation + 1)) ∨
    ∃ fault, surroundings.loaded path ready = .error fault ∧
      (fault.isStorage = true → Follows surroundings path ready 1) := by
  have loads := @SnapshotFile.load_cases (surroundings.snapshotFile path) slashless
    surroundings.vocabulary surroundings.now ready
  rcases loads with
    ⟨loaded, absent⟩ | ⟨stored, content, age, loaded, found, restored⟩ | ⟨fault, loaded⟩
  · exact .inl ⟨loaded, .missing loaded absent⟩
  · exact .inr (.inl ⟨stored, loaded, .readable loaded found restored⟩)
  · exact .inr (.inr ⟨fault, loaded, .unreadable loaded⟩)

/-- With the storage open the generation is indexed that follows on the stored one. -/
theorem indexInto_goes (slashless : '/' ∉ surroundings.claimant.toList) (input : Option String)
    {start : Start} (storage : start.storage = surroundings.fileStorage path)
    (managed : start.managed = ⟨Manager.initial, (none, ready)⟩) :
    Goes path ready (Follows surroundings path ready) (surroundings.indexInto input start) := by
  let left := ((surroundings.snapshotFile path).load surroundings.vocabulary surroundings.now
    ready).2
  have kept : Disk.KeepsFile path ready left :=
    @SnapshotFile.load_keepsFile (surroundings.snapshotFile path) slashless _ _ ready
  have going (manager : Manager)
      (follows : Follows surroundings path ready manager.nextGeneration) :
      Goes path ready (Follows surroundings path ready)
        (indexInto.finish surroundings input start ⟨manager, (none, left)⟩) := by
    apply Goes.after _ kept
    exact (finish_goes slashless input storage _).imp_left
      fun ⟨snapshot, generation, indexed⟩ => ⟨snapshot, generation ▸ follows, indexed⟩
  have given : (surroundings.fileStorage path).load (none, ready) =
      (surroundings.loaded path ready, (none, left)) := rfl
  unfold indexInto Managed.load
  rw [managed, storage, given]
  rcases loaded_cases slashless path ready with
    ⟨loaded, follows⟩ | ⟨stored, loaded, follows⟩ | ⟨fault, loaded, follows⟩
  · rw [loaded]
    exact going _ follows
  · rw [loaded]
    exact going _ follows
  · rw [loaded]
    dsimp only
    split
    · rename_i ofStorage
      exact going _ (follows ofStorage)
    · exact .inr ⟨⟨fault, rfl⟩, kept⟩

/-- With these arguments the command keeps snapshots in a file at the path. -/
def StoresAt (surroundings : Surroundings) (arguments : List String) (path : String) : Prop :=
  ∃ flags config, Flags.parse indexFlags arguments = .ok flags ∧
    surroundings.config flags = .ok config ∧ config.inMemory = false ∧
    config.storagePath = some path

theorem makeDirectory_keepsFiles (path : String) (disk : Disk) :
    Disk.KeepsFiles disk (makeDirectory path disk).2 := by
  have made := Disk.makeDirectories_keepsFiles disk (String.ofList (FilePath.directory path.toList))
  unfold makeDirectory
  dsimp only
  split
  · exact Disk.KeepsFiles.refl disk
  · split
    · rename_i done
      rw [done] at made
      exact made
    · rename_i done
      rw [done] at made
      exact made

/-- A command with a failed step has failed. -/
theorem HasFailed.of_error {fault : Fault} {run : Outcome CommandResult × Disk}
    (ended : run.1 = CommandResult.ofOutcome (.error fault))
    (kept : Disk.KeepsFile path disk run.2) : HasFailed path disk run :=
  ⟨fun _ given => CommandResult.exit_ne_zero_of_error (ended.symm.trans given), kept⟩

/-- The directory of the file is made, and then the storage is open unless that failed. -/
theorem openStorage_cases {config : Config} (onDisk : config.inMemory = false)
    (named : config.storagePath = some path) (disk : Disk) :
    (∃ fault, surroundings.openStorage config disk =
      (.error fault, (makeDirectory path disk).2)) ∨
    surroundings.openStorage config disk =
      (.ok (surroundings.fileStorage path), (makeDirectory path disk).2) := by
  unfold openStorage
  rw [if_neg (Bool.eq_false_iff.mp onDisk), named]
  dsimp only
  rcases makeDirectory path disk with ⟨fault | ⟨⟩, left⟩
  · exact .inl ⟨fault, rfl⟩
  · exact .inr rfl

/-- A command that keeps snapshots in a file either indexes or fails. -/
theorem runIndex_of_storesAt (slashless : '/' ∉ surroundings.claimant.toList)
    {arguments : List String} (stores : surroundings.StoresAt arguments path) (disk : Disk) :
    (∃ snapshot, Follows surroundings path (makeDirectory path disk).2 snapshot.generation ∧
      HasIndexed path (surroundings.runIndex arguments disk) snapshot) ∨
    HasFailed path disk (surroundings.runIndex arguments disk) := by
  obtain ⟨flags, config, parsed, configured, onDisk, named⟩ := stores
  have kept := (makeDirectory_keepsFiles path disk).keepsFile path
  unfold runIndex
  rw [parsed]
  dsimp only
  cases flags.input with
  | none =>
      right
      exact ⟨fun _ given => by cases given; decide, (Disk.KeepsFiles.refl disk).keepsFile path⟩
  | some input =>
      dsimp only
      unfold afterStart
      rw [configured]
      dsimp only
      rcases @openStorage_cases surroundings path config onDisk named disk with
        ⟨fault, opened⟩ | opened
      · rw [opened]
        exact .inr (.of_error rfl kept)
      · rw [opened]
        have goes := @indexInto_goes surroundings path (makeDirectory path disk).2 slashless input
          ⟨config, surroundings.fileStorage path, Manager.initial, (none, _)⟩ rfl rfl
        rcases goes with ⟨snapshot, follows, indexed⟩ | ⟨⟨fault, failed⟩, left⟩
        · left
          obtain ⟨overview, measured, printed⟩ := indexed.printed
          exact ⟨snapshot, follows,
            ⟨overview, measured, congrArg CommandResult.ofOutcome printed⟩, indexed.stored⟩
        · exact .inr (.of_error (congrArg CommandResult.ofOutcome failed) (kept.trans left))

/-- Indexing into the memory leaves the disk alone. -/
theorem indexInto_memory (input : Option String) {start : Start}
    (storage : start.storage = Storage.memory.onFirst) :
    (surroundings.indexInto input start).2 = start.managed.state.2 := by
  have loaded (managed : Managed Shelf) :
      (managed.load start.storage).2.state.2 = managed.state.2 := by
    rw [storage, (Managed.load_cases _ managed).1]
    rfl
  have finished (managed : Managed Shelf) :
      (indexInto.finish surroundings input start managed).2 = managed.state.2 := by
    unfold indexInto.finish indexFile
    dsimp only
    rw [storage]
    rcases Managed.index_cases surroundings.setting Storage.memory.onFirst
      (feedOf input managed.state.2) managed with
      ⟨fault, failed, -, same | ⟨snapshot, cause, unsaved, left⟩⟩ | ⟨snapshot, built, saved, whole⟩
    · rw [same]
    · rw [left]
      rfl
    · rw [whole]
      rfl
  unfold indexInto
  dsimp only
  split
  · split
    · rw [finished, loaded]
    · exact loaded _
  · rw [finished, loaded]

/-- A command that keeps no snapshots in a file leaves the disk alone. -/
theorem runIndex_elsewhere {arguments : List String}
    (elsewhere : ∀ path, ¬ surroundings.StoresAt arguments path) (disk : Disk) :
    (surroundings.runIndex arguments disk).2 = disk := by
  unfold runIndex
  cases parsed : Flags.parse indexFlags arguments with
  | error stop => rfl
  | ok flags =>
      dsimp only
      cases flags.input with
      | none => rfl
      | some input =>
          dsimp only
          unfold afterStart
          cases configured : surroundings.config flags with
          | error fault => rfl
          | ok config =>
              dsimp only
              unfold openStorage
              cases inside : config.inMemory with
              | true => exact indexInto_memory input rfl
              | false =>
                  cases named : config.storagePath with
                  | none => rfl
                  | some path =>
                      exact absurd ⟨flags, config, parsed, configured, inside, named⟩
                        (elsewhere path)

/-- The flag for the memory keeps a command from storing snapshots in a file. -/
theorem not_storesAt_of_inMemory {arguments : List String} {flags : Flags}
    (parsed : Flags.parse indexFlags arguments = .ok flags) (inMemory : flags.inMemory = true)
    (path : String) : ¬ surroundings.StoresAt arguments path := by
  rintro ⟨given, config, same, configured, onDisk, -⟩
  have asked : given.inMemory = true := by
    rw [← Except.ok.inj (parsed.symm.trans same), inMemory]
  unfold Surroundings.config at configured
  cases found : Config.ofEnvironment surroundings.environment with
  | error fault =>
      rw [found] at configured
      cases configured
  | ok plain =>
      rw [found] at configured
      have inside : (given.inMemory || plain.inMemory) = false := by
        rw [← onDisk, ← Except.ok.inj configured]
        rfl
      rw [asked] at inside
      cases inside

/-- A command that keeps snapshots in a file either stores a snapshot whose generation follows on
the stored one and prints its summary, or it fails and leaves the file alone. A command that keeps
them elsewhere leaves the disk alone. -/
theorem runIndex_continues (slashless : '/' ∉ surroundings.claimant.toList)
    (arguments : List String) (disk : Disk) :
    (∀ path, surroundings.StoresAt arguments path →
      Disk.KeepsFiles disk (makeDirectory path disk).2 ∧
      ((∃ snapshot, Follows surroundings path (makeDirectory path disk).2 snapshot.generation ∧
        HasIndexed path (surroundings.runIndex arguments disk) snapshot) ∨
      HasFailed path disk (surroundings.runIndex arguments disk))) ∧
    (∀ flags, Flags.parse indexFlags arguments = .ok flags → flags.inMemory = true →
      (surroundings.runIndex arguments disk).2 = disk) ∧
    ((∀ path, ¬ surroundings.StoresAt arguments path) →
      (surroundings.runIndex arguments disk).2 = disk) := by
  constructor
  · intro path stores
    exact ⟨makeDirectory_keepsFiles path disk, runIndex_of_storesAt slashless stores disk⟩
  constructor
  · intro flags parsed inMemory
    exact runIndex_elsewhere (not_storesAt_of_inMemory parsed inMemory) disk
  · intro elsewhere
    exact runIndex_elsewhere elsewhere disk

/-- A command without environment variables. -/
def bare : Surroundings := ⟨[], Vocabulary.initial, "2024-01-02T00:00:00+00:00", "7.1"⟩

/-- The call that indexes a file of records. -/
def indexRecords : List String := ["--input", "r.jsonl", "--storage", "s.json"]

/-- A line of a file of records, with an entity. -/
def entityRecord : Value := .object [
  ("record", .text "entity"), ("language", .text "python"), ("entity_type", .text "function"),
  ("name", .text "f"), ("file_path", .text "a.py"), ("line_range", .list [.int 1, .int 2])]

/-- A disk with a file of one record and a stored snapshot of the fourth generation. -/
def storedDisk : Disk := ⟨[
  ("r.jsonl", .file (Utf8.encode entityRecord.lineText) 0),
  ("s.json", .file (Utf8.encode (Value.object [("generation", .int 4)]).lineText) 0)], 0⟩

/-- A command that ends with the exit code of success has not failed. -/
theorem HasFailed.ne_success {path : String} {before : Disk}
    {run : Outcome CommandResult × Disk} (failed : HasFailed path before run) :
    run.1.toOption.map CommandResult.exit ≠ some 0 := by
  intro exits
  cases ended : run.1 with
  | error fault =>
      rw [ended] at exits
      cases exits
  | ok result =>
      rw [ended] at exits
      exact failed.exit result ended (Option.some.inj exits)

/-- The generation follows on the one that is loaded. -/
theorem Follows.eq_of_loaded {ready : Disk} {path : String} {generation : Int}
    (follows : Follows surroundings path ready generation) {stored : Snapshot}
    (loaded : surroundings.loaded path ready = .ok (some stored)) :
    generation = max 0 stored.generation + 1 := by
  cases follows with
  | missing other => cases loaded.symm.trans other
  | readable other =>
      cases loaded.symm.trans other
      rfl
  | unreadable other => cases loaded.symm.trans other

/-- The run finds the stored snapshot readable. -/
theorem storedDisk_loaded : ∃ stored : Option Snapshot,
    bare.loaded "s.json" (makeDirectory "s.json" storedDisk).2 = .ok stored ∧
    (stored.map Snapshot.generation == some 4) = true :=
  @Outcome.exists_of_any _ (bare.loaded "s.json" (makeDirectory "s.json" storedDisk).2)
    (fun stored => stored.map Snapshot.generation == some 4) (by decide +kernel)

/-- A run over a readable snapshot of the fourth generation stores one of the fifth. -/
theorem runIndex_continues_stored :
    '/' ∉ bare.claimant.toList ∧ bare.StoresAt indexRecords "s.json" ∧
    ∃ snapshot, snapshot.generation = 5 ∧
      HasIndexed "s.json" (bare.runIndex indexRecords storedDisk) snapshot := by
  have slashless : '/' ∉ bare.claimant.toList := by decide
  have stores : bare.StoresAt indexRecords "s.json" := ⟨_, _, rfl, rfl, rfl, rfl⟩
  have exits : (bare.runIndex indexRecords storedDisk).1.toOption.map CommandResult.exit =
      some 0 := by decide +kernel
  have runs := ((runIndex_continues slashless indexRecords storedDisk).1 "s.json" stores).2
  obtain ⟨snapshot, follows, indexed⟩ := runs.resolve_right fun failed => failed.ne_success exits
  obtain ⟨stored, loaded, fourth⟩ := storedDisk_loaded
  obtain ⟨earlier, rfl, four⟩ := Option.map_eq_some_iff.1 (eq_of_beq fourth)
  have fifth := follows.eq_of_loaded loaded
  rw [four] at fifth
  exact ⟨slashless, stores, snapshot, fifth, indexed⟩

end Surroundings

end CodeGraph

import CodeGraph.Proofs.SavedFile
import CodeGraph.Proofs.Serving
import CodeGraph.Proofs.SnapshotDocument
import CodeGraph.Proofs.StoredFaults

/-!
This file says which indexed snapshots survive in a snapshot file: a manager that is made anew loads
what was indexed exactly if the snapshot is durable.
-/

namespace CodeGraph

namespace Snapshot

/-- The metadata of what is restored nested no deeper than the fields that were read. -/
theorem isWritable_of_restored {vocabulary : Vocabulary} {now : String}
    {fields : List (String × Value)} (isRead : (Value.object fields).IsRead Json.nestingLimit)
    {restored : Snapshot} (made : ofFields vocabulary now fields = .ok restored) :
    ∀ entity ∈ restored.entities.rows,
      entity.metadata.toValue.IsWritable (Json.nestingLimit - 3) := by
  obtain ⟨builder, staged, shown⟩ := ofFields_ok made
  intro entity member
  rw [shown.entities] at member
  exact (stageFields_fits isRead.writable (by decide) staged entity member).metadata

end Snapshot

namespace SnapshotFile

variable {file : SnapshotFile} {snapshot : Snapshot}

/-- What a file holds that was read. -/
theorem isRead_of_parse {bytes : ByteArray} {value : Value} (read : file.parse bytes = .ok value) :
    value.IsRead Json.nestingLimit := by
  unfold parse at read
  split at read
  · cases read
  · exact Json.read_isRead (Json.readDocument_ok_iff.mp read)

/-- The content of the file of a sound snapshot is restored as the snapshot exactly if it is
durable. -/
theorem restored_iff (file : SnapshotFile) (vocabulary : Vocabulary) (now : String)
    (sound : snapshot.IsSound) :
    (file.parse (content snapshot)).bind (restore vocabulary now file) = .ok snapshot.unmarked ↔
      snapshot.IsDurable := by
  have exact (lines : ∀ entity ∈ snapshot.entities.rows, entity.lastLine < 10 ^ 10)
      (readable : ∀ entity ∈ snapshot.entities.rows,
        entity.metadata.toValue.IsWritable (Json.nestingLimit - 3)) :
      (file.parse (content snapshot)).bind (restore vocabulary now file) =
        Snapshot.ofFields vocabulary now snapshot.storedFields := by
    rw [parse_content file sound
      (fun entity member => Decimal.isWritable_of_lt (lines entity member)) readable]
    rfl
  constructor
  · intro restored
    obtain ⟨value, read, made⟩ := Outcome.bind_ok restored
    cases value with
    | object fields =>
        have given : Snapshot.ofFields vocabulary now fields = .ok snapshot.unmarked := made
        have lines : ∀ entity ∈ snapshot.entities.rows, entity.lastLine < 10 ^ 10 :=
          fun entity member => Snapshot.lastLine_lt_of_restored given entity.unmarked
            (List.mem_map_of_mem member)
        have readable : ∀ entity ∈ snapshot.entities.rows,
            entity.metadata.toValue.IsWritable (Json.nestingLimit - 3) := fun entity member =>
          Metadata.isWritable_unmarked_iff.mp (Snapshot.isWritable_of_restored
            (isRead_of_parse read) given entity.unmarked (List.mem_map_of_mem member))
        rw [exact lines readable] at restored
        exact ⟨(Snapshot.restored_iff_isStorable vocabulary now sound).mp restored, readable⟩
    | _ => cases made
  · intro durable
    rw [exact durable.lines durable.readable]
    exact (Snapshot.restored_iff_isStorable vocabulary now sound).mpr durable.toIsStorable

/-- A snapshot that was saved is loaded again exactly if it is durable. -/
theorem load_save_iff (slashless : '/' ∉ file.claimant.toList) (vocabulary : Vocabulary)
    (now : String) (sound : snapshot.IsSound) {disk : Disk}
    (saved : (file.save snapshot disk).1 = .ok ()) :
    (file.load vocabulary now (file.save snapshot disk).2).1 = .ok (some snapshot.unmarked) ↔
      snapshot.IsDurable := by
  obtain ⟨places, idle, found⟩ := isIdle_of_save slashless saved
  obtain ⟨left, loaded, -, -⟩ := idle.load vocabulary now found
  rw [loaded, ← restored_iff file vocabulary now sound]
  constructor
  · intro given
    dsimp only at given
    obtain ⟨restored, made, same⟩ := Outcome.map_ok given
    rw [made, Option.some.inj same]
  · intro made
    simp only [made, Except.map]

end SnapshotFile

/-- An indexing that returns has saved a snapshot. A manager that is made anew loads the same
snapshot, but for the marks of numbers that are not a number, exactly if the snapshot is durable:
its line numbers have at most ten digits, the names of its metadata are texts, the paths in its
change sets stay as they are when they are brought into normal form once more, and its metadata nest
no deeper than what is read again. -/
theorem Managed.load_index_iff {file : SnapshotFile} (slashless : '/' ∉ file.claimant.toList)
    {setting : Setting} (stamped : setting.now ≠ "") {feed : Feed} (wellFormed : feed.IsWellFormed)
    (vocabulary laterVocabulary : Vocabulary) (now later : String) {managed after : Managed Disk}
    {snapshot : Snapshot}
    (indexed : managed.index setting (Storage.file vocabulary now file) feed =
      (.ok snapshot, after)) :
    (Managed.load (Storage.file laterVocabulary later file) ⟨Manager.initial, after.state⟩).1 =
      .ok (some snapshot.unmarked) ↔ snapshot.IsDurable := by
  rcases managed.index_cases setting (Storage.file vocabulary now file) feed with
    ⟨fault, failed, -⟩ | ⟨built, made, saved, ended⟩
  · rw [indexed] at failed
    cases failed
  · rw [indexed] at ended
    cases ended
    have sound := Manager.build_isSound wellFormed stamped made
    rw [← SnapshotFile.load_save_iff slashless laterVocabulary later sound saved]
    unfold Managed.load
    have operation : (Storage.file laterVocabulary later file).load =
        file.load laterVocabulary later := rfl
    have left : ((Storage.file vocabulary now file).save snapshot managed.state).2 =
        (file.save snapshot managed.state).2 := rfl
    simp only [operation, left]
    rcases file.load laterVocabulary later (file.save snapshot managed.state).2 with
      ⟨fault | loaded, rest⟩
    · simp
    · cases loaded <;> simp

/-- A file in the working directory can be saved on an empty disk. -/
theorem SnapshotFile.empty_isIdle :
    SnapshotFile.IsIdle ⟨"s.json", "7.1"⟩ (Disk.empty 0)
      ⟨["s.json"], ["s.json.tmp"], ["s.json.lock"], ["s.json.lock.7.1"]⟩ := by
  have ready : SnapshotFile.IsReady ⟨"s.json", "7.1"⟩ (Disk.empty 0)
      ⟨["s.json"], ["s.json.tmp"], ["s.json.lock"], ["s.json.lock.7.1"]⟩ := {
    path := rfl
    temporary := rfl
    lock := rfl
    claim := rfl
    directory := ⟨by decide, by decide, ⟨_, rfl, rfl, trivial⟩⟩
    claimDirectory := ⟨by decide, by decide, ⟨_, rfl, rfl, trivial⟩⟩ }
  exact ⟨ready, ready.apart (by decide) rfl, rfl, rfl, rfl, rfl⟩

/-- A change set with the path `./ a` is indexed with the path ` a`, which becomes `a` when it is
brought into normal form once more, so the snapshot is not loaded again. -/
theorem Managed.load_index_unstorable :
    let setting : Setting := ⟨Vocabulary.initial, "2024-01-02", 1000⟩
    let storage := Storage.file Vocabulary.initial "2024-01-03" ⟨"s.json", "7.1"⟩
    let feed : Feed := ⟨[⟨.text "change_set",
      .object [("id", .text "c"), ("files", .list [.text "./ a"])]⟩], none⟩
    ∃ snapshot after,
      Managed.index setting storage feed ⟨Manager.initial, Disk.empty 0⟩ = (.ok snapshot, after) ∧
      (Managed.load storage ⟨Manager.initial, after.state⟩).1 ≠ .ok (some snapshot.unmarked) := by
  intro setting storage feed
  let change : ChangeSet := ⟨"c", Table.ofList [" a"]⟩
  let builder : Builder := (Builder.create 1 true).stageChange change
  obtain ⟨id, identified⟩ : ∃ id, Content.identifier [] [] builder.changeSets.rows = .ok id :=
    Content.identifier_ok (List.forall_mem_nil _) (List.forall_mem_nil _) _
  obtain ⟨snapshot, made⟩ := @Builder.snapshot_of_parts builder setting.now .null [] id rfl rfl
    identified
  have staged : (Builder.create Manager.initial.nextGeneration true).stageFeed setting.vocabulary
      setting.batchSize feed = (.ok ⟨0, 0, 1, 1⟩, builder) := rfl
  have built : Manager.initial.build setting feed = .ok snapshot :=
    Manager.build_of_staged staged rfl made (Decimal.isWritable_of_lt (by decide))
  have wellFormed : feed.IsWellFormed := by
    intro delivery member
    rw [List.mem_singleton.mp member]
    exact ⟨by simp [Value.HasDoubles, Value.FieldsHaveDoubles, Value.ItemsHaveDoubles],
      by simp [Value.HasDistinctNames, Value.FieldsHaveDistinctNames,
        Value.ItemsHaveDistinctNames]⟩
  have none : snapshot.entities.rows = [] := by
    rw [(Builder.shows_of_snapshot made).entities]
    rfl
  have writable : snapshot.toValue.IsWritable SnapshotFile.writeLimit :=
    Snapshot.toValue_isWritable (Manager.build_isSound wellFormed (by decide) built)
      (none ▸ List.forall_mem_nil _) (by decide) (none ▸ List.forall_mem_nil _)
  have saved := SnapshotFile.empty_isIdle.save writable
  have indexed : Managed.index setting storage feed ⟨Manager.initial, Disk.empty 0⟩ =
      (.ok snapshot, ⟨Manager.initial.serve snapshot,
        (SnapshotFile.save snapshot ⟨"s.json", "7.1"⟩ (Disk.empty 0)).2⟩) := by
    have operation (disk : Disk) : storage.save snapshot disk =
        SnapshotFile.save snapshot ⟨"s.json", "7.1"⟩ disk := rfl
    unfold Managed.index
    simp only [built, operation]
    rcases done : SnapshotFile.save snapshot ⟨"s.json", "7.1"⟩ (Disk.empty 0) with ⟨outcome, left⟩
    rw [done] at saved
    simp only at saved
    rw [saved]
  have exact := Managed.load_index_iff (by decide) (by decide) wellFormed Vocabulary.initial
    Vocabulary.initial "2024-01-03" "2024-01-03" indexed
  refine ⟨snapshot, _, indexed, fun loaded => ?_⟩
  have durable := exact.mp loaded
  have member : change ∈ snapshot.changeSets.rows := by
    rw [(Builder.shows_of_snapshot made).changeSets]
    exact List.mem_singleton.mpr rfl
  have fixed := durable.fixed change member " a" (List.mem_singleton.mpr rfl)
  have other : FilePath.normalize (.text " a") = .ok "a" := rfl
  rw [other, Except.ok.injEq] at fixed
  exact absurd fixed (by decide)

end CodeGraph

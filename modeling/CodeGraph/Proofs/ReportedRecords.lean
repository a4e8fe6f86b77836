import CodeGraph.Proofs.BrokenBuilds
import CodeGraph.Proofs.IndexCommand
import CodeGraph.Proofs.RecordLayouts
import CodeGraph.Proofs.RecordShape

/-!
This file says which documents are indexed without a defect, and what a command makes of those that
are not indexed.
-/

namespace CodeGraph

open FailsWithin

/-- The shape of a record of the kind. -/
def RecordKind.HasShape : RecordKind → Value → Prop
  | .entity => Value.HasFields Entity.HasShape
  | .edge => Value.HasFields Edge.HasShape
  | .changeSet => Value.HasFields ChangeSet.HasShape

theorem Batch.kindOf_word (kind : RecordKind) : kindOf (.text kind.word) = .ok kind := by
  cases kind <;> rfl

namespace Delivery

variable {vocabulary : Vocabulary}

/-- A record of the shape of its kind is converted or refused. -/
theorem convert_comesOf (vocabulary : Vocabulary) (kind : RecordKind) (record : Value) :
    FailsWithin (Fault.ComesOf (fun _ => True) (kind.HasShape record))
      (convert vocabulary ⟨.text kind.word, record⟩) := by
  unfold convert
  rw [Batch.kindOf_word]
  cases kind with
  | entity =>
      exact ((Entity.ofRecord_spares vocabulary record).comesOf_mono (fun _ _ => trivial) id).map _
  | edge => exact (Edge.ofRecord_comesOf vocabulary record).map _
  | changeSet => exact (ChangeSet.ofRecord_comesOf record).map _

/-- A record that is converted has the shape of its kind. -/
theorem hasShape_of_convert {kind : RecordKind} {record : Value} {item : Item}
    (converted : convert vocabulary ⟨.text kind.word, record⟩ = .ok item) :
    kind.HasShape record := by
  unfold convert at converted
  rw [Batch.kindOf_word] at converted
  cases kind with
  | entity =>
      obtain ⟨entity, converted, -⟩ := Outcome.map_ok converted
      exact Entity.hasShape_of_ofRecord converted
  | edge =>
      obtain ⟨edge, converted, -⟩ := Outcome.map_ok converted
      exact Edge.hasShape_of_ofRecord converted
  | changeSet =>
      obtain ⟨change, converted, -⟩ := Outcome.map_ok converted
      exact ChangeSet.hasShape_of_ofRecord converted

end Delivery

namespace Value

/-- The value in which the records of a kind stand in a document. -/
def recordsOf (fields : List (String × Value)) (kind : RecordKind) : Value :=
  (lookup (Feed.documentField kind) fields).getD (.list [])

/-- The records of each kind can be walked, and each of them has the shape of its kind. A value
without fields is no document, and it is refused as a whole. -/
def HoldsRecords (document : Value) : Prop :=
  ∀ fields, document = .object fields → ∀ kind, ∃ records,
    (recordsOf fields kind).items? = some records ∧ ∀ record ∈ records, kind.HasShape record

/-- The metadata of the entities of a document have a text. -/
def HasTexts (vocabulary : Vocabulary) (document : Value) : Prop :=
  ∀ delivery ∈ (Feed.ofDocument document).deliveries, ∀ entity,
    delivery.GivesEntity vocabulary entity → ∃ text, entity.metadata.canonicalText = .ok text

end Value

namespace Feed

/-- The records have the shapes of their kinds, and the feed does not end in a defect. -/
structure IsShaped (feed : Feed) : Prop where
  ending : ∀ cause, feed.fault ≠ some (.defect cause)
  records : ∀ delivery ∈ feed.deliveries,
    ∃ kind : RecordKind, delivery.kind = .text kind.word ∧ kind.HasShape delivery.record

theorem IsShaped.append {first second : Feed} (former : first.IsShaped)
    (latter : second.IsShaped) : (first.append second).IsShaped := by
  unfold Feed.append
  split
  · rename_i fault ended
    exact ⟨fun cause same => former.ending cause (ended.trans same), former.records⟩
  · exact ⟨latter.ending, List.forall_mem_append.mpr ⟨former.records, latter.records⟩⟩

theorem ofDocument_isShaped {document : Value} (holds : document.HoldsRecords) :
    (ofDocument document).IsShaped := by
  cases document with
  | object fields =>
      have each (kind : RecordKind) : (ofKind fields kind).IsShaped := by
        obtain ⟨records, walked, shaped⟩ := holds fields rfl kind
        have items : (Value.recordsOf fields kind).items = .ok records := by
          unfold Value.items
          rw [walked]
        unfold Value.recordsOf at items
        unfold ofKind
        rw [items]
        refine ⟨fun cause => nofun, fun delivery member => ?_⟩
        obtain ⟨record, inside, rfl⟩ := List.mem_map.mp member
        exact ⟨kind, rfl, shaped record inside⟩
      exact (each .entity).append ((each .edge).append (each .changeSet))
  | _ => exact ⟨fun cause => nofun, fun _ member => absurd member List.not_mem_nil⟩

/-- A feed that comes to its end behind another one delivers the records of both. -/
theorem append_complete {first second : Feed} (complete : (first.append second).fault = none) :
    first.fault = none ∧ second.fault = none ∧
      (first.append second).deliveries = first.deliveries ++ second.deliveries := by
  unfold Feed.append at complete ⊢
  split at complete
  · cases complete
  · rename_i whole
    exact ⟨whole, complete, rfl⟩

/-- A document holds records if it is delivered to its end and all its records are converted. -/
theorem holdsRecords_of_converted {vocabulary : Vocabulary} {document : Value}
    (complete : (ofDocument document).fault = none)
    (converted : Delivery.AreConverted vocabulary (ofDocument document).deliveries) :
    document.HoldsRecords := by
  rintro fields rfl kind
  obtain ⟨entities, rest, split⟩ := append_complete complete
  obtain ⟨edges, changes, splitRest⟩ := append_complete rest
  have walked : (ofKind fields kind).fault = none := by
    cases kind with
    | entity => exact entities
    | edge => exact edges
    | changeSet => exact changes
  have delivered : ∀ delivery ∈ (ofKind fields kind).deliveries,
      delivery ∈ (ofDocument (.object fields)).deliveries := by
    intro delivery member
    change delivery ∈ ((ofKind fields .entity).append _).deliveries
    rw [split, splitRest, List.mem_append, List.mem_append]
    cases kind with
    | entity => exact .inl member
    | edge => exact .inr (.inl member)
    | changeSet => exact .inr (.inr member)
  unfold ofKind at walked delivered
  split at walked
  · rename_i records items
    refine ⟨records, Value.items_ok items, fun record member => ?_⟩
    rw [items] at delivered
    obtain ⟨item, same⟩ := converted _ (delivered _ (List.mem_map_of_mem member))
    exact Delivery.hasShape_of_convert same
  · cases walked

end Feed

namespace Manager

variable {setting : Setting} {manager : Manager} {document : Value}

/-- A document of records in their shapes is built, or the caller is told why not. -/
theorem build_told (positive : 0 < setting.batchSize) (holds : document.HoldsRecords)
    (texts : document.HasTexts setting.vocabulary)
    (writable : Decimal.isWritable manager.nextGeneration = true) :
    FailsWithin Fault.IsTold (manager.build setting (Feed.ofDocument document)) := by
  intro fault failed
  cases fault with
  | defect cause =>
      have shaped := Feed.ofDocument_isShaped holds
      rcases ((build_eq_crash_iff positive).mp failed).reason with
        ⟨delivery, member, broken⟩ | ended | ⟨delivery, member, entity, given, textless⟩ |
          unwritable
      · obtain ⟨kind, named, fits⟩ := shaped.records delivery member
        obtain ⟨_, record⟩ := delivery
        obtain rfl : _ = Value.text kind.word := named
        cases Delivery.convert_comesOf setting.vocabulary kind record _ broken with
        | defect unshaped => exact absurd fits unshaped
      · exact absurd ended (shaped.ending cause)
      · obtain ⟨text, written⟩ := texts delivery member entity given
        cases written.symm.trans textless
      · cases writable.symm.trans unwritable
  | _ => rfl

end Manager

namespace Surroundings

variable {surroundings : Surroundings} {disk : Disk}

/-- The storage of a command is open, and nothing is loaded yet. -/
structure Starts (surroundings : Surroundings) (flags : Flags) (disk : Disk) (start : Start) :
    Prop where
  configured : surroundings.config flags = .ok start.config
  opened : surroundings.openStorage start.config disk =
    (.ok start.storage, start.managed.state.2)
  fresh : start.managed = ⟨Manager.initial, (none, start.managed.state.2)⟩

/-- A run of a command comes to index a file with what was loaded before. The command that indexes
goes on without a stored snapshot that cannot be read, and the server does not. -/
inductive ComesToIndex (surroundings : Surroundings) (disk : Disk) :
    Option String → Managed Shelf → Outcome CommandResult × Disk → Prop where
  | index {arguments : List String} {flags : Flags} {input : Option String} {start : Start}
      (parsed : Flags.parse indexFlags arguments = .ok flags) (named : flags.input = some input)
      (starts : surroundings.Starts flags disk start)
      (goesOn : ∀ fault, (start.managed.load start.storage).1 = .error fault →
        fault.isStorage = true) :
      ComesToIndex surroundings disk input (start.managed.load start.storage).2
        (surroundings.runIndex arguments disk)
  | server {arguments : List String} {flags : Flags} {path : String} {start : Start}
      {stored : Option Snapshot} (parsed : Flags.parse serverFlags arguments = .ok flags)
      (named : pathOf? flags.input = some path) (starts : surroundings.Starts flags disk start)
      (loaded : (start.managed.load start.storage).1 = .ok stored) :
      ComesToIndex surroundings disk (some path) (start.managed.load start.storage).2
        (surroundings.runServer arguments disk)

theorem Starts.afterStart_eq {flags : Flags} {start : Start}
    (starts : surroundings.Starts flags disk start)
    (next : Start → Outcome CommandResult × Disk) :
    (surroundings.afterStart flags disk next).1 = CommandResult.ofOutcome (next start).1 := by
  obtain ⟨config, storage, managed⟩ := start
  obtain ⟨configured, opened, fresh⟩ := starts
  dsimp only at configured opened fresh
  unfold afterStart
  rw [configured]
  dsimp only
  rw [opened, fresh]

/-- A file whose records are not built ends the command. -/
theorem ComesToIndex.ends {input : Option String} {managed : Managed Shelf}
    {run : Outcome CommandResult × Disk} (comes : surroundings.ComesToIndex disk input managed run)
    {fault : Fault} (failed : managed.manager.build surroundings.setting
      (feedOf input managed.state.2) = .error fault) :
    run.1 = CommandResult.ofOutcome (.error fault) := by
  have indexed (start : Start) :
      (surroundings.indexFile start input managed).1 = .error fault := by
    unfold indexFile Managed.index
    rw [failed]
  cases comes with
  | @index arguments flags input start parsed named starts goesOn =>
      have finished : (indexInto.finish surroundings input start
          (start.managed.load start.storage).2).1 = .error fault := by
        unfold indexInto.finish
        dsimp only
        rw [indexed start]
        rfl
      have whole : (surroundings.indexInto input start).1 = .error fault := by
        unfold indexInto
        dsimp only
        split
        · rename_i cause unread
          rw [if_pos (goesOn cause unread)]
          exact finished
        · exact finished
      unfold runIndex
      rw [parsed]
      dsimp only
      rw [named]
      dsimp only
      rw [starts.afterStart_eq, whole]
  | @server arguments flags path start stored parsed named starts loaded =>
      have whole : (surroundings.serveFrom (some path) start).1 = .error fault := by
        unfold serveFrom
        dsimp only
        rw [loaded]
        dsimp only
        rw [indexed start]
        rfl
      unfold runServer
      rw [parsed]
      dsimp only
      rw [named, starts.afterStart_eq, whole]

end Surroundings

/-- A command answers a fault that is told by the exit code of failure. -/
theorem CommandResult.ofOutcome_told {fault : Fault} (told : fault.IsTold) :
    ofOutcome (.error fault) = .ok failed := by
  cases fault with
  | defect cause => cases told
  | _ => rfl

/-- Whatever the storage cannot save, the caller is told so. -/
def Storage.SavesTold {σ : Type} (storage : Storage σ) : Prop :=
  ∀ snapshot state, FailsWithin Fault.IsTold (storage.save snapshot state).1

namespace Managed

section Index

variable {σ : Type} {storage : Storage σ} {setting : Setting} {managed : Managed σ} {feed : Feed}

/-- An indexing fails like the building of the snapshot or like its storage. -/
theorem index_failsWithin {expected : Fault → Prop}
    (builds : FailsWithin expected (managed.manager.build setting feed))
    (saves : ∀ snapshot, FailsWithin expected (storage.save snapshot managed.state).1) :
    FailsWithin expected (managed.index setting storage feed).1 := by
  unfold Managed.index
  split
  · rename_i fault failed
    exact error (builds fault failed)
  · rename_i snapshot built
    have saved := saves snapshot
    split
    · exact ok _
    · rename_i fault state unsaved
      rw [unsaved] at saved
      exact error (saved fault rfl)

/-- A defect that is met first ends the indexing, and nothing changes. -/
theorem index_of_breaks (positive : 0 < setting.batchSize) {cause : Defect}
    (breaks : managed.manager.Breaks setting feed cause) :
    managed.index setting storage feed = (crash cause, managed) := by
  unfold Managed.index
  rw [(Manager.build_eq_crash_iff positive).mpr breaks]
  rfl

/-- A storage that tells what it cannot save adds no defect. -/
theorem breaks_of_index (positive : 0 < setting.batchSize) (saves : storage.SavesTold)
    {cause : Defect} (broken : (managed.index setting storage feed).1 = crash cause) :
    managed.manager.Breaks setting feed cause := by
  have built : FailsWithin
      (fun fault => ∀ cause, fault = .defect cause →
        managed.manager.Breaks setting feed cause) (managed.index setting storage feed).1 := by
    refine index_failsWithin (fun fault failed cause same => ?_) fun snapshot => ?_
    · subst same
      exact (Manager.build_eq_crash_iff positive).mp failed
    · refine (saves snapshot managed.state).mono fun fault told cause same => ?_
      subst same
      cases told
  exact built _ broken cause rfl

end Index

/-- Only a document of records in their shapes is indexed. Such a document is indexed or answered by
a fault that is told, as long as its metadata have texts, the next generation can be written and the
storage tells what it cannot save. With such a storage an indexing is a defect exactly if a defect
is met first; then nothing changes, and a command ends without the exit code with which it answers a
fault that is told. -/
theorem index_document {σ : Type} (storage : Storage σ) {setting : Setting}
    (positive : 0 < setting.batchSize) (managed : Managed σ) (document : Value) :
    (∀ snapshot, (managed.index setting storage (Feed.ofDocument document)).1 = .ok snapshot →
      document.HoldsRecords) ∧
    (document.HoldsRecords → document.HasTexts setting.vocabulary →
      Decimal.isWritable managed.manager.nextGeneration = true → storage.SavesTold →
        FailsWithin Fault.IsTold (managed.index setting storage (Feed.ofDocument document)).1) ∧
    (storage.SavesTold → ∀ cause,
      (managed.index setting storage (Feed.ofDocument document)).1 = crash cause ↔
        managed.manager.Breaks setting (Feed.ofDocument document) cause) ∧
    (∀ cause, managed.manager.Breaks setting (Feed.ofDocument document) cause →
      managed.index setting storage (Feed.ofDocument document) = (crash cause, managed)) ∧
    ∀ surroundings disk input shelf run,
      Surroundings.ComesToIndex surroundings disk input shelf run →
      Surroundings.feedOf input shelf.state.2 = Feed.ofDocument document →
      (∀ fault, shelf.manager.build surroundings.setting (Feed.ofDocument document) =
          .error fault → fault.IsTold → ∃ result, run.1 = .ok result ∧ result.exit = 1) ∧
      ∀ cause, shelf.manager.Breaks surroundings.setting (Feed.ofDocument document) cause →
        run.1 = crash cause := by
  refine ⟨fun snapshot indexed => ?_, fun holds texts writable saves => ?_,
    fun saves cause => ⟨breaks_of_index positive saves, fun breaks => ?_⟩,
    fun cause breaks => index_of_breaks positive breaks,
    fun surroundings disk input shelf run comes given => ⟨fun fault failed told => ?_,
      fun cause breaks => ?_⟩⟩
  · rcases managed.index_cases setting storage (Feed.ofDocument document) with
      ⟨fault, failed, -⟩ | ⟨other, built, -⟩
    · cases failed.symm.trans indexed
    · obtain ⟨complete, converted⟩ := Manager.converted_of_build positive built
      exact Feed.holdsRecords_of_converted complete converted
  · exact index_failsWithin (Manager.build_told positive holds texts writable)
      fun snapshot => saves snapshot managed.state
  · rw [index_of_breaks positive breaks]
  · exact ⟨_, (comes.ends (given ▸ failed)).trans (CommandResult.ofOutcome_told told), rfl⟩
  · have room : 0 < surroundings.setting.batchSize :=
      (by decide : (0 : Int) < Setting.defaultBatchSize)
    have broken := (Manager.build_eq_crash_iff room).mpr breaks
    exact comes.ends (given ▸ broken)

/-- A document with a number for the name of an entity. -/
def numberedDocument : Value := .object [("entities", .list [.object [
  ("language", .text "python"), ("entity_type", .text "function"), ("name", .int 5)]])]

/-- A document with an entity of no kind. -/
def kindlessDocument : Value := .object [("entities", .list [.object [
  ("language", .text "python")]])]

/-- Each of the two documents in a file. -/
def documentsDisk : Disk := ⟨[("5.json", .file (Utf8.encode numberedDocument.lineText) 0),
  ("k.json", .file (Utf8.encode kindlessDocument.lineText) 0)], 0⟩

/-- The call that indexes a file and keeps nothing. -/
def indexing (path : String) : List String := ["--input", path, "--in-memory"]

/-- A command without a flag for a file begins with an open memory. -/
theorem comesToIndex_documents {path : String} {flags : Flags}
    (parsed : Flags.parse Surroundings.indexFlags (indexing path) = .ok flags)
    (inMemory : flags.inMemory = true) (named : flags.input = some (some path)) :
    Surroundings.bare.ComesToIndex documentsDisk (some path)
      ⟨Manager.initial, (none, documentsDisk)⟩
      (Surroundings.bare.runIndex (indexing path) documentsDisk) := by
  have opened : Surroundings.bare.openStorage (Config.default.override flags) documentsDisk =
      (.ok Storage.memory.onFirst, documentsDisk) := by
    unfold Surroundings.openStorage Config.override
    rw [inMemory]
    rfl
  have starts : Surroundings.bare.Starts flags documentsDisk ⟨Config.default.override flags,
      Storage.memory.onFirst, ⟨Manager.initial, (none, documentsDisk)⟩⟩ := ⟨rfl, opened, rfl⟩
  exact .index parsed named starts fun _ => nofun

theorem feedOf_documents {path : String} {document : Value}
    (isDocument : Feed.holdsLines path = false)
    (found : documentsDisk.find? path = some (.file (Utf8.encode document.lineText) 0))
    (isRead : document.IsRead Json.nestingLimit) :
    Surroundings.feedOf (some path) documentsDisk = Feed.ofDocument document :=
  Feed.ofFile_document isDocument found (Value.read_lineText isRead)

/-- A name that is a number ends the indexing and the command in a defect. A missing kind is told,
and the command gives the exit code of failure. -/
theorem index_document_numbered :
    index Surroundings.bare.setting Storage.memory (Feed.ofDocument numberedDocument)
      ⟨.initial, none⟩ = (crash (.noAttribute "int" "strip"), ⟨.initial, none⟩) ∧
    (Surroundings.bare.runIndex (indexing "5.json") documentsDisk).1 =
      crash (.noAttribute "int" "strip") ∧
    kindlessDocument.HoldsRecords ∧
    FailsWithin Fault.IsTold (index Surroundings.bare.setting Storage.memory
      (Feed.ofDocument kindlessDocument) ⟨.initial, none⟩).1 ∧
    ∃ result, (Surroundings.bare.runIndex (indexing "k.json") documentsDisk).1 = .ok result ∧
      result.exit = 1 := by
  have positive : 0 < Surroundings.bare.setting.batchSize := by decide
  have int (room : Nat) : Value.IsRead room (.int 5) :=
    ⟨⟨trivial, trivial⟩, Value.isWritable_int (by decide +kernel) room, rfl⟩
  have numberedRead : numberedDocument.IsRead Json.nestingLimit := by
    simp [numberedDocument, Value.isRead_object_iff, Value.isRead_list_iff, Value.isRead_text, int,
      Json.nestingLimit]
  have kindlessRead : kindlessDocument.IsRead Json.nestingLimit := by
    simp [kindlessDocument, Value.isRead_object_iff, Value.isRead_list_iff, Value.isRead_text,
      Json.nestingLimit]
  have breaks : Manager.initial.Breaks Surroundings.bare.setting (Feed.ofDocument numberedDocument)
      (.noAttribute "int" "strip") :=
    @Manager.Breaks.record _ _ _ _ [] _ _ rfl
      ⟨fun _ member => absurd member List.not_mem_nil, _, _, rfl⟩ rfl
  have holds : kindlessDocument.HoldsRecords := by
    rintro fields ⟨⟩ kind
    cases kind with
    | entity =>
        refine ⟨_, rfl, List.forall_mem_singleton.mpr ⟨_, rfl, ?_, ?_, ?_, ?_, ⟨rfl⟩, .inl rfl⟩⟩
        · rintro language ⟨⟩
          exact Value.canBeShown_text _
        · rintro kind ⟨⟩
        · rintro name ⟨⟩
        · rintro range ⟨⟩
    | edge => exact ⟨[], rfl, fun _ member => absurd member List.not_mem_nil⟩
    | changeSet => exact ⟨[], rfl, fun _ member => absurd member List.not_mem_nil⟩
  have texts : kindlessDocument.HasTexts Vocabulary.initial := by
    intro delivery member entity given
    obtain rfl := List.mem_singleton.mp member
    cases given.2
  obtain ⟨-, -, -, broken, commands⟩ :=
    index_document Storage.memory positive ⟨.initial, none⟩ numberedDocument
  obtain ⟨-, reported, -, -, others⟩ :=
    index_document Storage.memory positive ⟨.initial, none⟩ kindlessDocument
  have writable : Decimal.isWritable Manager.initial.nextGeneration = true := by decide +kernel
  refine ⟨broken _ breaks, ?_, holds, reported holds texts writable fun _ _ => ok _, ?_⟩
  · exact (commands _ _ _ _ _ (comesToIndex_documents rfl rfl rfl)
      (feedOf_documents (by decide) rfl numberedRead)).2 _ breaks
  · exact (others _ _ _ _ _ (comesToIndex_documents rfl rfl rfl)
      (feedOf_documents (by decide) rfl kindlessRead)).1 _ rfl rfl

/-- Not every document whose indexing fails is answered by a fault that is told. -/
theorem exists_untold : ¬ ∀ document : Value, FailsWithin Fault.IsTold
    (index Surroundings.bare.setting Storage.memory (Feed.ofDocument document)
      ⟨.initial, none⟩).1 := by
  intro told
  have broken : (index Surroundings.bare.setting Storage.memory (Feed.ofDocument numberedDocument)
      ⟨.initial, none⟩).1 = crash (.noAttribute "int" "strip") := rfl
  cases told numberedDocument _ broken

end Managed

end CodeGraph

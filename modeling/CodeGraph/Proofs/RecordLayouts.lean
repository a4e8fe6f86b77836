import CodeGraph.Proofs.IndexedSnapshot
import CodeGraph.Proofs.RecordSet
import CodeGraph.Proofs.SavedFile
import CodeGraph.Proofs.Serving
import CodeGraph.Proofs.TaggedRecords

/-!
This file says that a document and a file of lines with the same records are read and indexed alike,
whatever the order of the lines and wherever the kind stands among the fields of a line.
-/

namespace CodeGraph

namespace BatchRun

/-- Tagged deliveries are collected in the batches of the plain ones. -/
theorem collect_tagged (vocabulary : Vocabulary) (limit : Nat) (ending : Option Fault)
    {tagged plain : List Delivery} (pairs : List.Forall₂ Delivery.IsTagged tagged plain)
    (wellFormed : ∀ delivery ∈ plain, delivery.record.IsWellFormed) (pending : Batch) :
    collect vocabulary limit pending ending tagged =
      collect vocabulary limit pending ending plain := by
  induction pairs generalizing pending with
  | nil => rfl
  | cons pair others inductionHypothesis =>
      obtain ⟨first, behind⟩ := List.forall_mem_cons.mp wellFormed
      rw [collect, collect, pair.add first]
      simp only [inductionHypothesis behind]

end BatchRun

namespace Manager

variable {setting : Setting} {manager : Manager} {tagged plain shuffled : List Delivery}

/-- Tagged deliveries are built into the snapshot of the plain ones. -/
theorem build_tagged (pairs : List.Forall₂ Delivery.IsTagged tagged plain)
    (wellFormed : ∀ delivery ∈ plain, delivery.record.IsWellFormed) :
    manager.build setting ⟨tagged, none⟩ = manager.build setting ⟨plain, none⟩ := by
  unfold build Builder.stageFeed BatchRun.ofFeed
  rw [BatchRun.collect_tagged setting.vocabulary _ none pairs wellFormed]

/-- Nothing is built in batches without room. -/
theorem build_of_nonpositive (none : setting.batchSize ≤ 0) (feed : Feed) {snapshot : Snapshot} :
    manager.build setting feed ≠ .ok snapshot := by
  intro built
  unfold build Builder.stageFeed BatchRun.ofFeed at built
  rw [if_pos none] at built
  cases built

/-- If a snapshot is built from records, one is built from the same records in another order. -/
theorem exists_build_of_same (same : ∀ delivery, delivery ∈ plain ↔ delivery ∈ shuffled)
    (wellFormed : ∀ delivery ∈ plain, delivery.record.IsWellFormed)
    (unambiguous : Item.AreUnambiguous (Delivery.items setting.vocabulary plain))
    {snapshot : Snapshot} (built : manager.build setting ⟨plain, none⟩ = .ok snapshot) :
    ∃ other, manager.build setting ⟨shuffled, none⟩ = .ok other := by
  rcases Int.lt_or_le 0 setting.batchSize with positive | none
  · exact Builder.exists_commitRecords same wellFormed unambiguous positive positive rfl built
  · exact absurd built (build_of_nonpositive none _)

/-- Snapshots that are built from the same records have the same content. -/
theorem build_sameContent (same : ∀ delivery, delivery ∈ plain ↔ delivery ∈ shuffled)
    (wellFormed : ∀ delivery ∈ plain, delivery.record.IsWellFormed)
    (unambiguous : Item.AreUnambiguous (Delivery.items setting.vocabulary plain))
    {snapshot other : Snapshot} (built : manager.build setting ⟨plain, none⟩ = .ok snapshot)
    (otherBuilt : manager.build setting ⟨shuffled, none⟩ = .ok other) :
    snapshot.SameContent other := by
  rcases Int.lt_or_le 0 setting.batchSize with positive | none
  · obtain ⟨staged, reached, made⟩ := Builder.commitRecords_ok_iff.mp built
    obtain ⟨otherStaged, otherReached, otherMade⟩ := Builder.commitRecords_ok_iff.mp otherBuilt
    obtain ⟨-, -, shown, -⟩ := Builder.commit_ok made
    obtain ⟨-, -, otherShown, -⟩ := Builder.commit_ok otherMade
    exact (Builder.holdAlike_of_same same wellFormed unambiguous positive positive reached
      otherReached).sameContent shown otherShown
  · exact absurd built (build_of_nonpositive none _)

/-- The document of a snapshot that is built can be written as far as that of another one with the
same content. -/
theorem build_isWritable {feed : Feed} {snapshot other : Snapshot}
    (built : manager.build setting feed = .ok other) (same : snapshot.SameContent other)
    {room : Nat} (writable : snapshot.toValue.IsWritable room) : other.toValue.IsWritable room := by
  obtain ⟨builder, -, generation, shown⟩ := build_ok built
  have stamp : other.createdAt = .text setting.now := shown.createdAt
  exact same.isWritable writable (stamp ▸ Value.isWritable_text _ _) generation
    fun entity member => (Metadata.writeDefect?_eq_none_iff.mp
      (Content.writable_of_identifier shown.identified entity member)).2

end Manager

namespace Storage

variable {σ : Type}

/-- Whether a snapshot can be saved depends on the state of the storage, and on how far its document
can be written. -/
def SavesAlike (storage : Storage σ) : Prop :=
  ∀ (state : σ) (snapshot other : Snapshot),
    (∀ room, snapshot.toValue.IsWritable room → other.toValue.IsWritable room) →
      (storage.save snapshot state).1 = .ok () → (storage.save other state).1 = .ok ()

theorem memory_savesAlike : memory.SavesAlike := fun _ _ _ _ _ => rfl

theorem file_savesAlike (vocabulary : Vocabulary) (now : String) (target : SnapshotFile) :
    (file vocabulary now target).SavesAlike := by
  intro disk snapshot other further saved
  obtain ⟨made, locked, directory, acquired, done⟩ := SnapshotFile.of_save saved
  obtain ⟨temporary, place, temporaryResolved, resolved, temporaryPlain, plain⟩ :=
    SnapshotFile.of_put done
  have writable := further _ (SnapshotFile.isWritable_of_put done)
  change (target.save other disk).1 = .ok ()
  rw [SnapshotFile.save_eq directory acquired, SnapshotFile.put_of_writable writable,
    SnapshotFile.putWhole_eq other temporaryResolved resolved temporaryPlain plain]

end Storage

namespace Managed

variable {σ : Type}

/-- Two feeds are indexed alike: both succeed or neither does, and snapshots that they give have the
same content. -/
structure IndexAlike (setting : Setting) (storage : Storage σ) (managed : Managed σ)
    (first second : Feed) : Prop where
  succeeds : (∃ snapshot, (managed.index setting storage first).1 = .ok snapshot) ↔
    ∃ snapshot, (managed.index setting storage second).1 = .ok snapshot
  sameContent : ∀ snapshot other, (managed.index setting storage first).1 = .ok snapshot →
    (managed.index setting storage second).1 = .ok other → snapshot.SameContent other

/-- A feed is indexed if its snapshot can be built and saved. -/
theorem index_ok_iff {setting : Setting} {storage : Storage σ} {managed : Managed σ} {feed : Feed}
    {snapshot : Snapshot} : (managed.index setting storage feed).1 = .ok snapshot ↔
      managed.manager.build setting feed = .ok snapshot ∧
        (storage.save snapshot managed.state).1 = .ok () := by
  constructor
  · intro indexed
    rcases index_cases setting storage feed managed with
      ⟨fault, failed, -⟩ | ⟨built, given, saved, whole⟩
    · rw [failed] at indexed
      cases indexed
    · rw [whole] at indexed
      cases indexed
      exact ⟨given, saved⟩
  · intro ⟨built, saved⟩
    unfold index
    rw [built]
    dsimp only
    split
    · rfl
    · rename_i failed
      rw [failed] at saved
      cases saved

/-- Feeds with the same records are indexed alike. -/
theorem indexAlike_of_same {setting : Setting} {storage : Storage σ} (alike : storage.SavesAlike)
    (managed : Managed σ) {first second : List Delivery}
    (same : ∀ delivery, delivery ∈ first ↔ delivery ∈ second)
    (wellFormed : ∀ delivery ∈ first, delivery.record.IsWellFormed)
    (unambiguous : Item.AreUnambiguous (Delivery.items setting.vocabulary first)) :
    IndexAlike setting storage managed ⟨first, none⟩ ⟨second, none⟩ := by
  have back (delivery : Delivery) : delivery ∈ second ↔ delivery ∈ first := (same delivery).symm
  have otherFormed : ∀ delivery ∈ second, delivery.record.IsWellFormed := fun delivery member =>
    wellFormed delivery ((back delivery).mp member)
  have otherUnambiguous : Item.AreUnambiguous (Delivery.items setting.vocabulary second) :=
    Builder.items_eq_of_same same ▸ unambiguous
  constructor
  · constructor
    · intro ⟨snapshot, indexed⟩
      obtain ⟨built, saved⟩ := index_ok_iff.mp indexed
      obtain ⟨other, otherBuilt⟩ := Manager.exists_build_of_same same wellFormed unambiguous built
      have sameContent := Manager.build_sameContent same wellFormed unambiguous built otherBuilt
      exact ⟨other, index_ok_iff.mpr ⟨otherBuilt, alike _ _ _
        (fun _ => Manager.build_isWritable otherBuilt sameContent) saved⟩⟩
    · intro ⟨other, indexed⟩
      obtain ⟨built, saved⟩ := index_ok_iff.mp indexed
      obtain ⟨snapshot, otherBuilt⟩ :=
        Manager.exists_build_of_same back otherFormed otherUnambiguous built
      have sameContent :=
        Manager.build_sameContent back otherFormed otherUnambiguous built otherBuilt
      exact ⟨snapshot, index_ok_iff.mpr ⟨otherBuilt, alike _ _ _
        (fun _ => Manager.build_isWritable otherBuilt sameContent) saved⟩⟩
  · intro snapshot other indexed otherIndexed
    exact Manager.build_sameContent same wellFormed unambiguous (index_ok_iff.mp indexed).1
      (index_ok_iff.mp otherIndexed).1

/-- Tagged records are indexed as plain ones are. -/
theorem index_tagged {setting : Setting} {storage : Storage σ} {managed : Managed σ}
    {tagged plain : List Delivery} (pairs : List.Forall₂ Delivery.IsTagged tagged plain)
    (wellFormed : ∀ delivery ∈ plain, delivery.record.IsWellFormed) :
    managed.index setting storage ⟨tagged, none⟩ = managed.index setting storage ⟨plain, none⟩ := by
  unfold index
  rw [Manager.build_tagged pairs wellFormed]

/-- A feed that is indexed like plain records is indexed like the tagged ones. -/
theorem IndexAlike.tagged {setting : Setting} {storage : Storage σ} {managed : Managed σ}
    {tagged plain : List Delivery} {feed : Feed}
    (alike : IndexAlike setting storage managed feed ⟨plain, none⟩)
    (pairs : List.Forall₂ Delivery.IsTagged tagged plain)
    (wellFormed : ∀ delivery ∈ plain, delivery.record.IsWellFormed) :
    IndexAlike setting storage managed feed ⟨tagged, none⟩ := by
  have same : managed.index setting storage ⟨tagged, none⟩ =
      managed.index setting storage ⟨plain, none⟩ := index_tagged pairs wellFormed
  exact ⟨same ▸ alike.succeeds, same ▸ alike.sameContent⟩

end Managed

namespace Feed

variable {disk : Disk} {documentPath linesPath : String}
  {deliveries shuffled tagged : List Delivery} {lines : List (List Char)}

/-- The file at a path holds these lines, as the ending of its name says. -/
structure HasLines (disk : Disk) (path : String) (lines : List (List Char)) : Prop where
  ending : holdsLines path = true
  content : ∃ age, disk.find? path = some (.file (linesContent lines) age)

/-- A file of lines is read line by line. -/
theorem HasLines.ofFile (hasLines : HasLines disk linesPath lines)
    (areLines : ∀ line ∈ lines, IsLine line) : ofFile disk linesPath = ofLines lines := by
  obtain ⟨age, found⟩ := hasLines.content
  unfold Feed.ofFile
  rw [found]
  dsimp only
  rw [if_pos hasLines.ending, ofLineBytes_linesContent areLines]

theorem fit_of_tagged {plain : List Delivery} (pairs : List.Forall₂ Delivery.IsTagged tagged plain)
    (read : ∀ delivery ∈ plain, delivery.IsRead) : ∀ delivery ∈ tagged, delivery.FitsLine := by
  intro delivery member
  obtain ⟨plain, inside, isTagged⟩ := Outcome.exists_of_forall₂ pairs member
  exact isTagged.fitsLine (read plain inside)

/-- A file with a document delivers the records of the document. -/
theorem ofFile_document {text : List Char} {document : Value} {age : Int}
    (isDocument : holdsLines documentPath = false)
    (found : disk.find? documentPath = some (.file (Utf8.encode text) age))
    (read : Json.read text = .ok document) : ofFile disk documentPath = ofDocument document := by
  unfold ofFile
  rw [found]
  dsimp only
  rw [isDocument, if_neg Bool.false_ne_true]
  unfold ofDocumentBytes Json.readDocument
  rw [Utf8.decode?_encode]
  dsimp only
  rw [read]

/-- A line without a record ends the feed of a file of lines behind the records of the lines in
front of it. -/
theorem ofFile_breaksOff {front back : List (List Char)}
    (areLines : AreLines tagged (front ++ back)) (fit : ∀ delivery ∈ tagged, delivery.FitsLine) :
    ∃ earlier later, tagged = earlier ++ later ∧ AreLines earlier front ∧
      ∀ line fault, IsLine line → Text.isBlank line = false →
        BreaksOff (front.length + 1) line fault → ∀ otherDisk path,
          HasLines otherDisk path (front ++ line :: back) →
            ofFile otherDisk path = ⟨earlier, some fault⟩ := by
  obtain ⟨earlier, later, cut, former, latter⟩ := areLines.split
  refine ⟨earlier, later, cut, former, ?_⟩
  intro line fault isLine filled breaksOff otherDisk path holds
  have clean : ∀ other ∈ front ++ line :: back, IsLine other := by
    obtain ⟨inFront, inBack⟩ := List.forall_mem_append.mp areLines.areLines
    exact List.forall_mem_append.mpr ⟨inFront, List.forall_mem_cons.mpr ⟨isLine, inBack⟩⟩
  have earlierFit : ∀ delivery ∈ earlier, delivery.FitsLine := fun delivery member =>
    fit delivery (cut ▸ List.mem_append_left _ member)
  rw [holds.ofFile clean, ofLines_breaksOff former earlierFit filled breaksOff]

/-- A document and a file with its records on lines of their own are read and indexed alike. The
lines may stand in any order, with blank lines in between and with the kind of a record anywhere
among its fields. A line without a record ends the feed of such a file behind the records of the
lines in front of it, and the fault names the line, but a line past the limits of documents ends it
with a defect. -/
theorem layouts_alike (isDocument : holdsLines documentPath = false)
    (document : ofFile disk documentPath = ⟨deliveries, none⟩)
    (perm : shuffled.Perm deliveries) (pairs : List.Forall₂ Delivery.IsTagged tagged shuffled)
    (areLines : AreLines tagged lines) (hasLines : HasLines disk linesPath lines) :
    ofFile disk linesPath = ⟨tagged, none⟩ ∧
    (∀ setting : Setting, Item.AreUnambiguous (Delivery.items setting.vocabulary deliveries) →
      (∀ managed, Managed.IndexAlike setting Storage.memory managed (ofFile disk documentPath)
        (ofFile disk linesPath)) ∧
      ∀ vocabulary now target managed, Managed.IndexAlike setting
        (Storage.file vocabulary now target) managed (ofFile disk documentPath)
        (ofFile disk linesPath)) ∧
    ∀ front back, lines = front ++ back → ∃ earlier later, tagged = earlier ++ later ∧
      AreLines earlier front ∧ ∀ line fault, IsLine line → Text.isBlank line = false →
        BreaksOff (front.length + 1) line fault → ∀ otherDisk path,
          HasLines otherDisk path (front ++ line :: back) →
            ofFile otherDisk path = ⟨earlier, some fault⟩ := by
  have read : ∀ delivery ∈ deliveries, delivery.IsRead := by
    have delivered : ∀ delivery ∈ (ofFile disk documentPath).deliveries, delivery.IsRead :=
      ofFile_isRead isDocument
    rwa [document] at delivered
  have shuffledRead : ∀ delivery ∈ shuffled, delivery.IsRead := fun delivery member =>
    read delivery (perm.mem_iff.mp member)
  have fit := fit_of_tagged pairs shuffledRead
  have linesRead : ofFile disk linesPath = ⟨tagged, none⟩ := by
    rw [hasLines.ofFile areLines.areLines, ofLines_areLines areLines fit]
  refine ⟨linesRead, fun setting unambiguous => ?_, fun front back parts => ?_⟩
  · have wellFormed : ∀ delivery ∈ deliveries, delivery.record.IsWellFormed :=
      fun delivery member => (read delivery member).isRead.wellFormed
    have shuffledFormed : ∀ delivery ∈ shuffled, delivery.record.IsWellFormed :=
      fun delivery member => (shuffledRead delivery member).isRead.wellFormed
    have alike {σ : Type} {storage : Storage σ} (alike : storage.SavesAlike)
        (managed : Managed σ) : Managed.IndexAlike setting storage managed
          (ofFile disk documentPath) (ofFile disk linesPath) := by
      have plain := Managed.indexAlike_of_same alike managed
        (fun delivery => perm.mem_iff.symm) wellFormed unambiguous
      rw [document, linesRead]
      exact plain.tagged pairs shuffledFormed
    exact ⟨alike Storage.memory_savesAlike, fun vocabulary now target =>
      alike (Storage.file_savesAlike vocabulary now target)⟩
  · exact ofFile_breaksOff (parts ▸ areLines) fit

/-- A function, an edge from it and a change of its file in one document. -/
def loadDocument : Value := .object [
  ("entities", .list [Builder.loadRecord.record]),
  ("edges", .list [Builder.callRecord.record]),
  ("change_sets", .list [Builder.changeRecord.record])]

/-- The three records with their kinds, the last one first. -/
def loadTagged : List Delivery :=
  [Builder.changeRecord, Builder.loadRecord, Builder.callRecord].map fun delivery =>
    match delivery.record with
    | .object fields => ⟨delivery.kind, .object (Value.setField "record" delivery.kind fields)⟩
    | _ => delivery

/-- Blank lines stand behind the first of three lines and behind the last one. -/
def loadLines : List (List Char) :=
  match loadTagged.map fun delivery => delivery.record.lineText with
  | first :: rest => first :: [] :: rest ++ [[' ']]
  | [] => []

/-- The document and the lines in files beside each other, and a file with a line too much. -/
def loadDisk : Disk :=
  ⟨[("r.json", .file (Utf8.encode loadDocument.lineText) 0),
    ("r.jsonl", .file (linesContent loadLines) 0),
    ("bad.jsonl",
      .file (linesContent (loadLines.take 2 ++ ['x'] :: loadLines.drop 2)) 0)], 0⟩

theorem loadDocument_isRead : loadDocument.IsRead Json.nestingLimit := by
  have int (room : Nat) (number : Int) (writable : Decimal.isWritable number = true) :
      Value.IsRead room (.int number) :=
    ⟨⟨trivial, trivial⟩, Value.isWritable_int writable room, rfl⟩
  have one (room : Nat) : Value.IsRead room (.int 1) := int room 1 (by decide +kernel)
  have two (room : Nat) : Value.IsRead room (.int 2) := int room 2 (by decide +kernel)
  simp [loadDocument, Builder.loadRecord, Builder.callRecord, Builder.changeRecord,
    Value.isRead_object_iff, Value.isRead_list_iff, Value.isRead_text, one, two, Json.nestingLimit]

theorem loadDocument_read : ofFile loadDisk "r.json" =
    ⟨[Builder.loadRecord, Builder.callRecord, Builder.changeRecord], none⟩ := by
  have found : loadDisk.find? "r.json" =
      some (.file (Utf8.encode loadDocument.lineText) 0) := rfl
  rw [ofFile_document (by decide) found (Value.read_lineText loadDocument_isRead)]
  rfl

theorem loadTagged_isTagged : List.Forall₂ Delivery.IsTagged loadTagged
    [Builder.changeRecord, Builder.loadRecord, Builder.callRecord] := by
  refine .cons ?_ (.cons ?_ (.cons ?_ .nil)) <;> exact ⟨rfl, _, _, rfl, rfl, List.Perm.refl _⟩

theorem loadLines_areLines : AreLines loadTagged loadLines := by
  have nothing : IsLine [] := ⟨List.not_mem_nil, List.not_mem_nil⟩
  have space : IsLine [' '] := ⟨by decide, by decide⟩
  exact .record _ (.blank [] nothing rfl (.record _ (.record _ (.blank [' '] space rfl .nil))))

/-- Three records in a document are read and indexed like the same records on lines, and a line that
is no document ends a file behind the first two lines. -/
theorem layouts_alike_threeRecords :
    ofFile loadDisk "r.jsonl" = ⟨loadTagged, none⟩ ∧
    Managed.IndexAlike ⟨Vocabulary.initial, "", 1⟩ Storage.memory ⟨.initial, none⟩
      (ofFile loadDisk "r.json") (ofFile loadDisk "r.jsonl") ∧
    ∃ earlier later, loadTagged = earlier ++ later ∧
      ofFile loadDisk "bad.jsonl" = ⟨earlier, some (.refused (.lineNotJson 3))⟩ := by
  have perm : ([Builder.changeRecord] ++ [Builder.loadRecord, Builder.callRecord]).Perm
      ([Builder.loadRecord, Builder.callRecord] ++ [Builder.changeRecord]) :=
    List.perm_append_comm
  have hasLines : HasLines loadDisk "r.jsonl" loadLines := ⟨by decide, 0, rfl⟩
  obtain ⟨read, indexed, broken⟩ := layouts_alike (by decide) loadDocument_read perm
    loadTagged_isTagged loadLines_areLines hasLines
  obtain ⟨earlier, later, cut, -, breaks⟩ :=
    broken (loadLines.take 2) (loadLines.drop 2) (List.take_append_drop 2 loadLines).symm
  have stray : HasLines loadDisk "bad.jsonl" (loadLines.take 2 ++ ['x'] :: loadLines.drop 2) :=
    ⟨by decide, 0, rfl⟩
  have number : (loadLines.take 2).length + 1 = 3 := by simp [loadLines, loadTagged]
  have breaksOff : BreaksOff ((loadLines.take 2).length + 1) ['x'] (.refused (.lineNotJson 3)) :=
    number ▸ .notJson (by with_unfolding_all rfl)
  have xLine : IsLine ['x'] := ⟨by decide, by decide⟩
  have setting := indexed ⟨Vocabulary.initial, "", 1⟩ Builder.loadRecord_unambiguous
  exact ⟨read, setting.1 _, earlier, later, cut,
    breaks ['x'] _ xLine (by decide) breaksOff loadDisk _ stray⟩

/-- A number alone is no record, and still a line with a long one is not refused. -/
theorem exists_unrefused : ∃ line : List Char, line.all Json.isDigit = true ∧
    ∀ refusal, ofLines [line] ≠ ⟨[], some (.refused refusal)⟩ := by
  have fault : (ofLines [List.replicate 4301 '1']).fault = some (.defect .tooManyDigits) := by
    decide +kernel
  refine ⟨List.replicate 4301 '1', by decide +kernel, fun refusal same => ?_⟩
  rw [same] at fault
  cases fault

end Feed

end CodeGraph

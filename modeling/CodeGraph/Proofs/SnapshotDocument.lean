import CodeGraph.Proofs.IndexedSnapshot
import CodeGraph.Proofs.ReadDocument
import CodeGraph.Proofs.StoredExactly
import CodeGraph.Storage.SnapshotFile

/-!
This file says what is read from the document that a sound snapshot is written to.
-/

namespace CodeGraph

namespace Snapshot

variable {snapshot : Snapshot}

theorem toValue_hasDoubles (sound : snapshot.IsSound) : snapshot.toValue.HasDoubles := by
  obtain ⟨time, stamped, -⟩ := sound.createdAt
  have entities : ∀ entity ∈ snapshot.entities.rows, entity.toValue.HasDoubles := by
    intro entity member
    obtain ⟨path, named⟩ := sound.paths entity member
    have metadata := Metadata.toValue_hasDoubles (sound.metadata entity member)
    simp [Entity.toValue, Entity.fields, Value.HasDoubles, Value.FieldsHaveDoubles,
      Value.ItemsHaveDoubles, named, metadata]
  have edges : ∀ edge ∈ snapshot.edges, edge.toValue.HasDoubles := by
    intro edge member
    obtain ⟨relation, named, -⟩ := sound.relations edge member
    simp [Edge.toValue, Value.HasDoubles, Value.FieldsHaveDoubles, named, Atom.toValue]
  have changes : ∀ change ∈ snapshot.changeSets.rows, change.toValue.HasDoubles := by
    intro change member
    simp [ChangeSet.toValue, Value.HasDoubles, Value.FieldsHaveDoubles,
      Value.itemsHaveDoubles_iff]
  simp only [toValue, stamped, Value.HasDoubles, Value.FieldsHaveDoubles,
    Value.itemsHaveDoubles_iff, List.forall_mem_map, and_true, true_and]
  exact ⟨entities, edges, changes⟩

/-- An entity can be written if the number of its last line can, and if its metadata can one level
below. -/
theorem entity_isWritable (sound : snapshot.IsSound) {entity : Entity}
    (member : entity ∈ snapshot.entities.rows)
    (last : Decimal.isWritable entity.lastLine = true) {room : Nat} (some : room ≠ 0)
    (metadata : entity.metadata.toValue.IsWritable room) :
    entity.toValue.IsWritable (room + 1) := by
  obtain ⟨path, named⟩ := sound.paths entity member
  have first : Decimal.isWritable entity.firstLine = true :=
    Decimal.isWritable_of_le (Address.firstLine_le_lastLine entity.address.location) last
  have range : (Value.list [.int entity.firstLine, .int entity.lastLine]).IsWritable room := by
    rw [Value.isWritable_list_iff]
    refine ⟨some, ?_⟩
    simp [Value.isWritable_int first, Value.isWritable_int last]
  unfold Entity.toValue Entity.fields
  rw [Value.isWritable_object_iff, named]
  refine ⟨Nat.succ_ne_zero room, ?_⟩
  simp [Value.isWritable_text, Value.isWritable_bool, range, metadata]

theorem edge_isWritable (sound : snapshot.IsSound) {edge : Edge} (member : edge ∈ snapshot.edges)
    (room : Nat) : edge.toValue.IsWritable (room + 1) := by
  obtain ⟨relation, named, -⟩ := sound.relations edge member
  unfold Edge.toValue
  rw [Value.isWritable_object_iff, named]
  refine ⟨Nat.succ_ne_zero room, ?_⟩
  simp [Value.isWritable_text, Atom.toValue]

theorem change_isWritable (change : ChangeSet) {room : Nat} (some : room ≠ 0) :
    change.toValue.IsWritable (room + 1) := by
  have files : (Value.list (change.files.rows.map .text)).IsWritable room := by
    rw [Value.isWritable_list_iff]
    refine ⟨some, ?_⟩
    simp [Value.isWritable_text]
  unfold ChangeSet.toValue
  rw [Value.isWritable_object_iff]
  refine ⟨Nat.succ_ne_zero room, ?_⟩
  simp [Value.isWritable_text, files]

/-- A sound snapshot can be written if its line numbers can, and if its metadata can three levels
below. -/
theorem toValue_isWritable (sound : snapshot.IsSound)
    (lines : ∀ entity ∈ snapshot.entities.rows, Decimal.isWritable entity.lastLine = true)
    {room : Nat} (some : room ≠ 0)
    (metadata : ∀ entity ∈ snapshot.entities.rows, entity.metadata.toValue.IsWritable room) :
    snapshot.toValue.IsWritable (room + 3) := by
  obtain ⟨time, stamped, -⟩ := sound.createdAt
  have list {items : List Value} (writable : ∀ item ∈ items, item.IsWritable (room + 1)) :
      (Value.list items).IsWritable (room + 2) :=
    Value.isWritable_list_iff.mpr ⟨Nat.succ_ne_zero _, writable⟩
  have entities := list (List.forall_mem_map.mpr fun entity member =>
    entity_isWritable sound member (lines entity member) some (metadata entity member))
  have edges := list (List.forall_mem_map.mpr fun edge member =>
    edge_isWritable sound member room)
  have changes := list (List.forall_mem_map.mpr fun change
    (_ : change ∈ snapshot.changeSets.rows) => change_isWritable change some)
  unfold toValue
  rw [Value.isWritable_object_iff, stamped]
  refine ⟨Nat.succ_ne_zero _, ?_⟩
  simp [Value.isWritable_text, Value.isWritable_int sound.generation, entities, edges, changes]

/-- A durable snapshot can be written, since more can be written than is read again. -/
theorem IsDurable.toValue_isWritable (durable : snapshot.IsDurable) (sound : snapshot.IsSound) :
    snapshot.toValue.IsWritable SnapshotFile.writeLimit :=
  (Snapshot.toValue_isWritable sound
    (fun entity member => Decimal.isWritable_of_lt (durable.lines entity member)) (by decide)
    durable.readable).mono _ (by decide)

end Snapshot

namespace SnapshotFile

/-- The content of the file of a sound snapshot is read as the stored form of the snapshot if the
line numbers and the metadata keep the limits of reading. -/
theorem parse_content (file : SnapshotFile) {snapshot : Snapshot} (sound : snapshot.IsSound)
    (lines : ∀ entity ∈ snapshot.entities.rows, Decimal.isWritable entity.lastLine = true)
    (metadata : ∀ entity ∈ snapshot.entities.rows,
      entity.metadata.toValue.IsWritable (Json.nestingLimit - 3)) :
    file.parse (content snapshot) = .ok (.object snapshot.storedFields) := by
  have read := Value.read_textAt Json.Layout.indented_isPlain (Snapshot.toValue_hasDoubles sound)
    (Snapshot.toValue_isWritable sound lines (by decide) metadata) 0
  unfold parse content
  rw [Utf8.decode?_encode]
  rw [Snapshot.toValue_reread] at read
  simp only [Json.readDocument, Value.indentedText, read]

end SnapshotFile

end CodeGraph

import CodeGraph.Proofs.ConvertedItems
import CodeGraph.Proofs.RecordLines
import CodeGraph.Record.Batch

/-!
This file says that a record is converted alike with and without its kind among its fields, and that
a record of a document fits a line once it has its kind.
-/

namespace CodeGraph

namespace Value

variable {name other : String} {value : Value} {fields : List (String × Value)}

theorem lookup_setField_self (name : String) (value : Value) (fields : List (String × Value)) :
    lookup name (setField name value fields) = some value := by
  induction fields with
  | nil => simp [setField, lookup]
  | cons field rest inductionHypothesis =>
      unfold setField
      split
      · rename_i same
        simp [lookup, same]
      · rename_i apart
        simp [lookup, apart, inductionHypothesis]

theorem lookup_setField_of_ne (apart : other ≠ name) (value : Value)
    (fields : List (String × Value)) :
    lookup other (setField name value fields) = lookup other fields := by
  induction fields with
  | nil => simp [setField, lookup, Ne.symm apart]
  | cons field rest inductionHypothesis =>
      unfold setField
      split
      · rename_i same
        simp [lookup, same, Ne.symm apart]
      · simp [lookup, inductionHypothesis]

/-- The order of the fields has no influence on a look-up. -/
theorem lookup_eq_of_perm {first second : List (String × Value)}
    (distinct : (first.map Prod.fst).Nodup) (perm : first.Perm second) (name : String) :
    lookup name first = lookup name second := by
  have otherDistinct : (second.map Prod.fst).Nodup := (perm.map Prod.fst).nodup_iff.mp distinct
  apply Option.ext
  intro value
  rw [lookup_eq_some_iff distinct, lookup_eq_some_iff otherDistinct, perm.mem_iff]

/-- The fields are the same, except for the one that names the kind of a record. -/
def SameButKind (first second : List (String × Value)) : Prop :=
  ∀ name, name ≠ "record" → lookup name first = lookup name second

end Value

section SameButKind

variable {first second : List (String × Value)} (same : Value.SameButKind first second)

include same

theorem optionalField_congr {name : String} (apart : name ≠ "record") :
    optionalField first name = optionalField second name := by
  rw [optionalField, same name apart, optionalField]

theorem RecordKind.require_congr (kind : RecordKind) {name : String} (apart : name ≠ "record") :
    kind.require first name = kind.require second name := by
  rw [require, same name apart, require]

theorem GivenRange.ofRecord?_congr : ofRecord? first = ofRecord? second := by
  unfold ofRecord?
  rw [optionalField_congr same (by decide), same "start_line" (by decide),
    same "end_line" (by decide)]

theorem Entity.ofFields_congr (vocabulary : Vocabulary) :
    ofFields vocabulary first = ofFields vocabulary second := by
  unfold ofFields
  rw [RecordKind.require_congr same _ (by decide : "language" ≠ "record"),
    RecordKind.require_congr same _ (by decide : "entity_type" ≠ "record"),
    RecordKind.require_congr same _ (by decide : "name" ≠ "record"),
    optionalField_congr same (by decide : "file_path" ≠ "record"),
    optionalField_congr same (by decide : "metadata" ≠ "record"), GivenRange.ofRecord?_congr same]

theorem Edge.ofRecord_congr (vocabulary : Vocabulary) :
    ofRecord vocabulary (.object first) = ofRecord vocabulary (.object second) := by
  unfold ofRecord
  simp only [Value.toFields, RecordKind.require_congr same _ (by decide : "source" ≠ "record"),
    RecordKind.require_congr same _ (by decide : "target" ≠ "record"),
    optionalField_congr same (by decide : "relation" ≠ "record"), Outcome.ok_bind]

theorem ChangeSet.ofRecord_congr :
    ofRecord (.object first) = ofRecord (.object second) := by
  unfold ofRecord
  simp only [Value.toFields, RecordKind.require_congr same _ (by decide : "id" ≠ "record"),
    optionalField_congr same (by decide : "files" ≠ "record"), Outcome.ok_bind]

end SameButKind

/-- Deliveries of one kind whose records differ in nothing else join a batch alike. -/
theorem Batch.add_congr (vocabulary : Vocabulary) (batch : Batch) {tagged plain : Delivery}
    (kind : tagged.kind = plain.kind) {first second : List (String × Value)}
    (taggedRecord : tagged.record = .object first) (record : plain.record = .object second)
    (same : Value.SameButKind first second) :
    batch.add vocabulary tagged = batch.add vocabulary plain := by
  have entity : Entity.ofRecord vocabulary tagged.record =
      Entity.ofRecord vocabulary plain.record := by
    rw [taggedRecord, record]
    exact Entity.ofFields_congr same vocabulary
  have edge : Edge.ofRecord vocabulary tagged.record = Edge.ofRecord vocabulary plain.record := by
    rw [taggedRecord, record]
    exact Edge.ofRecord_congr same vocabulary
  have change : ChangeSet.ofRecord tagged.record = ChangeSet.ofRecord plain.record := by
    rw [taggedRecord, record]
    exact ChangeSet.ofRecord_congr same
  unfold add
  rw [kind, entity, edge, change]

namespace Delivery

/-- A delivery of a line: the record is one of a document with its kind as one more field, which may
stand anywhere among the others and takes the place of a field of this name. -/
structure IsTagged (tagged plain : Delivery) : Prop where
  kind : tagged.kind = plain.kind
  record : ∃ fields taggedFields, plain.record = .object fields ∧
    tagged.record = .object taggedFields ∧
    taggedFields.Perm (Value.setField "record" plain.kind fields)

variable {tagged plain : Delivery}

theorem IsTagged.add (isTagged : tagged.IsTagged plain) (wellFormed : plain.record.IsWellFormed)
    (vocabulary : Vocabulary) (batch : Batch) :
    batch.add vocabulary tagged = batch.add vocabulary plain := by
  obtain ⟨fields, taggedFields, record, taggedRecord, perm⟩ := isTagged.record
  have names : (fields.map Prod.fst).Nodup := by
    rw [record] at wellFormed
    exact wellFormed.names.1
  have distinct := Value.nodup_setField "record" plain.kind names
  apply Batch.add_congr vocabulary batch isTagged.kind taggedRecord record
  intro name apart
  rw [← Value.lookup_eq_of_perm distinct perm.symm, Value.lookup_setField_of_ne apart]

/-- A record that was read fits a line once it is tagged. -/
theorem IsTagged.fitsLine (isTagged : tagged.IsTagged plain) (isRead : plain.IsRead) :
    tagged.FitsLine := by
  obtain ⟨fields, taggedFields, record, taggedRecord, perm⟩ := isTagged.record
  obtain ⟨kind, kindKnown⟩ := isRead.kind
  have parts := isRead.isRead
  rw [record, Value.isRead_object_iff] at parts
  obtain ⟨room, names, fits⟩ := parts
  have distinct : (taggedFields.map Prod.fst).Nodup :=
    (perm.map Prod.fst).nodup_iff.mpr (Value.nodup_setField "record" plain.kind names)
  have fit : ∀ field ∈ taggedFields, field.2.IsRead (Json.nestingLimit - 1) := by
    intro field member
    rcases Value.mem_setField (perm.mem_iff.mp member) with same | before
    · rw [same, kindKnown]
      exact Value.isRead_text _ _
    · exact fits field before
  have found : Value.lookup "record" taggedFields = some tagged.kind := by
    rw [Value.lookup_eq_of_perm distinct perm, Value.lookup_setField_self, isTagged.kind]
  exact {
    kind := ⟨kind, isTagged.kind.trans kindKnown⟩
    isRead := taggedRecord ▸ Value.isRead_object_iff.mpr ⟨room, distinct, fit⟩
    record := ⟨taggedFields, taggedRecord, found⟩ }

end Delivery

namespace Feed

/-- The records of one kind in a document that was read. -/
theorem ofKind_isRead {fields : List (String × Value)}
    (isRead : Value.IsRead Json.nestingLimit (.object fields)) (kind : RecordKind) :
    ∀ delivery ∈ (ofKind fields kind).deliveries, delivery.IsRead := by
  intro delivery member
  unfold ofKind at member
  split at member
  · rename_i records walked
    obtain ⟨record, inside, rfl⟩ := List.mem_map.mp member
    have whole : ((Value.lookup (documentField kind) fields).getD (.list [])).IsRead
        (Json.nestingLimit - 1) := by
      cases found : Value.lookup (documentField kind) fields with
      | none =>
          exact Value.isRead_list_iff.mpr
            ⟨by decide, fun item member => absurd member List.not_mem_nil⟩
      | some value =>
          exact (Value.isRead_object_iff.mp isRead).2.2 _ (Value.mem_of_lookup found)
    exact ⟨⟨kind, rfl⟩, (whole.items (Value.items_ok walked) record inside).mono (by decide)⟩
  · exact absurd member List.not_mem_nil

theorem mem_append_deliveries {first second : Feed} {delivery : Delivery}
    (member : delivery ∈ (first.append second).deliveries) :
    delivery ∈ first.deliveries ∨ delivery ∈ second.deliveries := by
  unfold append at member
  split at member
  · exact .inl member
  · exact List.mem_append.mp member

/-- The records of a document that was read. -/
theorem ofDocument_isRead {document : Value} (isRead : document.IsRead Json.nestingLimit) :
    ∀ delivery ∈ (ofDocument document).deliveries, delivery.IsRead := by
  intro delivery member
  unfold ofDocument at member
  split at member
  · rcases mem_append_deliveries member with first | behind
    · exact ofKind_isRead isRead .entity delivery first
    · rcases mem_append_deliveries behind with second | third
      · exact ofKind_isRead isRead .edge delivery second
      · exact ofKind_isRead isRead .changeSet delivery third
  · exact absurd member List.not_mem_nil

/-- Whatever a file without lines delivers was read from a document. -/
theorem ofFile_isRead {disk : Disk} {path : String} (isDocument : holdsLines path = false) :
    ∀ delivery ∈ (ofFile disk path).deliveries, delivery.IsRead := by
  have nothing (fault : Fault) : ∀ delivery ∈ (failing fault).deliveries, delivery.IsRead :=
    fun _ member => absurd member List.not_mem_nil
  unfold ofFile
  split
  · exact nothing _
  · exact nothing _
  · rw [isDocument, if_neg Bool.false_ne_true]
    unfold ofDocumentBytes
    split
    · exact nothing _
    · split
      · rename_i document read
        unfold Json.readDocument at read
        split at read
        · rename_i found
          exact ofDocument_isRead (Except.ok.inj read ▸ Json.read_isRead found)
        all_goals cases read
      · exact nothing _

end Feed

end CodeGraph

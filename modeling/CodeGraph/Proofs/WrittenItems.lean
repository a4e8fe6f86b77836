import CodeGraph.Proofs.KeyGrammar
import CodeGraph.Snapshot.Restore

/-!
This file says what the items of a snapshot are read as when they come back as they were written,
without a document in between.
-/

namespace CodeGraph

/-- An atom that is written as a value is read as the same atom. -/
theorem Atom.toAtom_toValue (atom : Atom) : atom.toValue.toAtom = .ok atom := by
  cases atom <;> rfl

namespace Snapshot

variable (vocabulary : Vocabulary)

/-- A written entity is read by its key, its path and its metadata. -/
theorem storedEntity_toValue (entity : Entity) : storedEntity vocabulary entity.toValue =
    (Address.parse vocabulary (.text entity.key)).bind fun address =>
      (Metadata.ofOptional entity.metadata.toValue).map fun metadata =>
        ⟨address, entity.filePath, metadata⟩ := by
  simp only [storedEntity, Entity.toValue, Entity.fields, Value.toFields, storedField,
    storedFieldOr, Value.lookup, bind, Except.bind, String.reduceEq, if_true, if_false,
    Option.getD_some]
  cases Address.parse vocabulary (.text entity.key) with
  | error fault => rfl
  | ok address => cases Metadata.ofOptional entity.metadata.toValue <;> rfl

/-- A written edge is read by the keys of its ends and its relation. -/
theorem storedEdge_toValue (edge : Edge) : storedEdge vocabulary edge.toValue =
    (Address.parse vocabulary (.text edge.source.text)).bind fun source =>
      (Address.parse vocabulary (.text edge.target.text)).bind fun target =>
        if edge.relation.toValue.isTruthy then .ok ⟨source, target, edge.relation⟩
        else refuse (.noRelation source.text target.text) := by
  simp only [storedEdge, Edge.toValue, Value.toFields, storedField, storedFieldOr, Value.lookup,
    bind, Except.bind, String.reduceEq, if_true, if_false, Option.getD_some,
    Atom.toAtom_toValue]
  cases Address.parse vocabulary (.text edge.source.text) with
  | error fault => rfl
  | ok source =>
      cases Address.parse vocabulary (.text edge.target.text) with
      | error fault => rfl
      | ok target => rfl

/-- A written change set is made from its paths once more. -/
theorem storedChange_toValue (change : ChangeSet) : storedChange change.toValue =
    (change.files.rows.mapM fun path => FilePath.normalize (.text path)).map fun paths =>
      ⟨change.id, Table.ofList paths⟩ := by
  simp only [storedChange, ChangeSet.create, ChangeSet.toValue, Value.toFields, storedField,
    storedFieldOr, Value.lookup, bind, Except.bind, String.reduceEq, if_true, if_false,
    Option.getD_some, Value.items, Value.items?, Value.shown, List.mapM_map, Function.comp_def]
  cases change.files.rows.mapM fun path => FilePath.normalize (.text path) <;> rfl

/-- Items that are converted alike are staged alike. -/
theorem stageStored_congr {α : Type} {convert other : Value → Outcome α}
    {stage : Builder → α → Outcome Builder} {items : List Value}
    (alike : ∀ item ∈ items, convert item = other item) (builder : Builder) :
    stageStored convert stage builder items = stageStored other stage builder items := by
  induction items generalizing builder with
  | nil => rfl
  | cons item rest inductionHypothesis =>
      obtain ⟨first, others⟩ := List.forall_mem_cons.mp alike
      unfold stageStored
      rw [first]
      split
      · rfl
      · exact inductionHypothesis others _

/-- The fields of the written form of a snapshot with other lists of its items. -/
def writtenWith (snapshot : Snapshot) (entities : List Entity) (edges : List Edge)
    (changes : List ChangeSet) : List (String × Value) := [
  ("snapshot_id", .text snapshot.id),
  ("created_at", snapshot.createdAt),
  ("generation", .int snapshot.generation),
  ("entities", .list (entities.map Entity.toValue)),
  ("edges", .list (edges.map Edge.toValue)),
  ("change_sets", .list (changes.map ChangeSet.toValue))]

end Snapshot

end CodeGraph

import CodeGraph.Proofs.UnmarkedSnapshot
import CodeGraph.Snapshot.Restore

/-!
This file says what the stored items of a snapshot are restored as, and when they are refused.
-/

namespace CodeGraph

/-- The numbers are of double precision, and the names of every object differ. -/
structure Value.IsWellFormed (value : Value) : Prop where
  doubles : value.HasDoubles
  names : value.HasDistinctNames

/-- The values are well formed, and no later name agrees with an earlier one. -/
structure Metadata.IsWellFormed (metadata : Metadata) : Prop where
  values : ∀ entry ∈ metadata.entries, entry.2.IsWellFormed
  names : metadata.entries.Pairwise fun first second => first.1.agrees second.1 = false

namespace Metadata

/-- Distinct texts for names stay distinct as the names of fields. -/
theorem nodup_fieldNames {metadata : Metadata} (wellFormed : metadata.IsWellFormed)
    (named : metadata.IsNamed) :
    ((metadata.entries.map fun entry => (entry.1.fieldName, entry.2)).map Prod.fst).Nodup := by
  rw [List.map_map, List.Nodup, List.pairwise_map]
  refine wellFormed.names.imp_of_mem fun {first second} firstMember secondMember apart same => ?_
  have firstText := named first firstMember
  have secondText := named second secondMember
  obtain ⟨firstName, firstValue⟩ := first
  obtain ⟨secondName, secondValue⟩ := second
  cases firstName with
  | text firstName =>
      cases secondName with
      | text secondName =>
          have equal : firstName = secondName := same
          rw [equal] at apart
          simp [Atom.agrees] at apart
      | _ => cases secondText
  | _ => cases firstText

theorem toValue_hasDoubles {metadata : Metadata} (wellFormed : metadata.IsWellFormed) :
    metadata.toValue.HasDoubles := by
  refine Value.fieldsHaveDoubles_iff.mpr fun field member => ?_
  obtain ⟨entry, inside, rfl⟩ := List.mem_map.mp member
  exact (wellFormed.values entry inside).doubles

theorem toValue_hasDistinctNames {metadata : Metadata} (wellFormed : metadata.IsWellFormed)
    (named : metadata.IsNamed) : metadata.toValue.HasDistinctNames := by
  refine ⟨nodup_fieldNames wellFormed named, Value.fieldsHaveDistinctNames_iff.mpr ?_⟩
  intro field member
  obtain ⟨entry, inside, rfl⟩ := List.mem_map.mp member
  exact (wellFormed.values entry inside).names

/-- The fields of an object become entries with texts for names. -/
theorem ofOptional_object (fields : List (String × Value)) :
    ofOptional (.object fields) = .ok ⟨fields.map fun field => (.text field.1, field.2)⟩ := by
  cases fields <;> rfl

/-- Metadata with texts for names are restored without their marks. -/
theorem ofOptional_reread {metadata : Metadata} (wellFormed : metadata.IsWellFormed)
    (named : metadata.IsNamed) :
    ofOptional metadata.toValue.reread = .ok metadata.unmarked := by
  rw [Value.reread_eq_unmarked _ (toValue_hasDistinctNames wellFormed named)]
  simp only [toValue, Value.unmarked, Value.fieldsUnmarked_eq_map, List.map_map,
    ofOptional_object, unmarked, Function.comp_def]
  congr 2
  refine List.map_congr_left fun entry member => ?_
  rw [named.text_fieldName member]

end Metadata

namespace Snapshot

/-- A stored entity is restored with what is read back of its metadata, unless its key has a line
number of more than ten digits. -/
theorem storedEntity_reread (vocabulary : Vocabulary) {entity : Entity} {path : String}
    (named : entity.filePath = .text path) :
    ∃ fields, entity.metadata.toValue.reread = .object fields ∧
      storedEntity vocabulary entity.toValue.reread =
        if entity.lastLine < 10 ^ 10 then
          .ok ⟨entity.address, entity.filePath,
            ⟨fields.map fun field => (.text field.1, field.2)⟩⟩
        else refuse (.malformedKeyRange entity.key) := by
  refine ⟨Value.fieldsReread [] (entity.metadata.entries.map fun entry =>
    (entry.1.fieldName, entry.2)), rfl, ?_⟩
  have fields : entity.toValue.reread = .object [
      ("key", .text entity.key),
      ("language", .text entity.address.language.name),
      ("entity_type", .text entity.address.kind.name),
      ("name", .text entity.address.name),
      ("file_path", .text path),
      ("line_range", .list [.int entity.firstLine, .int entity.lastLine]),
      ("is_external", .bool entity.isExternal),
      ("metadata", entity.metadata.toValue.reread)] := by
    simp [Entity.toValue, Entity.fields, named, Value.reread, Value.fieldsReread,
      Value.itemsReread, Value.setField]
  have object : entity.metadata.toValue.reread = .object (Value.fieldsReread []
      (entity.metadata.entries.map fun entry => (entry.1.fieldName, entry.2))) := rfl
  have parsed : Address.parse vocabulary (.text entity.key) =
      if entity.lastLine < 10 ^ 10 then .ok entity.address
      else refuse (.malformedKeyRange entity.key) := Address.parse_text vocabulary entity.address
  rw [fields, named]
  unfold storedEntity
  simp only [Value.toFields, storedField, storedFieldOr, Value.lookup, bind, Except.bind,
    String.reduceEq, if_true, if_false, Option.getD_some, object, Metadata.ofOptional_object]
  by_cases small : entity.lastLine < 10 ^ 10
  · rw [if_pos small] at parsed ⊢
    rw [parsed]
    rfl
  · rw [if_neg small] at parsed ⊢
    rw [parsed]
    rfl

/-- A stored edge with a text for its relation is restored, unless a key has a line number of more
than ten digits. -/
theorem storedEdge_reread (vocabulary : Vocabulary) {edge : Edge} {relation : String}
    (named : edge.relation = .text relation) (filled : relation ≠ "")
    (sourceLine : edge.source.location.lastLine < 10 ^ 10)
    (targetLine : edge.target.location.lastLine < 10 ^ 10) :
    storedEdge vocabulary edge.toValue.reread = .ok edge := by
  have fields : edge.toValue.reread = .object [
      ("source", .text edge.source.text),
      ("target", .text edge.target.text),
      ("relation", .text relation)] := by
    simp [Edge.toValue, named, Atom.toValue, Value.reread, Value.fieldsReread, Value.setField]
  rw [fields]
  unfold storedEdge
  simp only [Value.toFields, storedField, storedFieldOr, Value.lookup, bind, Except.bind,
    String.reduceEq, if_true, if_false, Option.getD_some, Address.parse_text, sourceLine,
    targetLine, Value.isTruthy, bne_iff_ne, ne_eq, filled, not_false_eq_true, Value.toAtom,
    Atom.ofValue?]
  cases edge
  cases named
  rfl

/-- A stored change set is made from its paths once more. -/
theorem storedChange_reread (change : ChangeSet) :
    storedChange change.toValue.reread =
      (change.files.rows.mapM fun path => FilePath.normalize (.text path)).map fun paths =>
        ⟨change.id, Table.ofList paths⟩ := by
  have texts (paths : List String) : Value.itemsReread (paths.map .text) = paths.map .text := by
    induction paths with
    | nil => rfl
    | cons path rest inductionHypothesis =>
        rw [List.map_cons, Value.itemsReread, inductionHypothesis, Value.reread]
  have fields : change.toValue.reread = .object [
      ("id", .text change.id),
      ("files", .list (change.files.rows.map .text))] := by
    simp [ChangeSet.toValue, Value.reread, Value.fieldsReread, Value.setField, texts]
  rw [fields]
  unfold storedChange ChangeSet.create
  simp only [Value.toFields, storedField, storedFieldOr, Value.lookup, bind, Except.bind,
    String.reduceEq, if_true, if_false, Option.getD_some, Value.items, Value.items?, Value.shown,
    List.mapM_map, Function.comp_def]
  cases change.files.rows.mapM fun path => FilePath.normalize (.text path) <;> rfl

/-- Paths that are in normal form already stay as they are. -/
theorem mapM_normalize_fixed {paths : List String}
    (fixed : ∀ path ∈ paths, FilePath.normalize (.text path) = .ok path) :
    (paths.mapM fun path => FilePath.normalize (.text path)) = .ok paths := by
  induction paths with
  | nil => rfl
  | cons path rest inductionHypothesis =>
      rw [List.mapM_cons, fixed path List.mem_cons_self,
        inductionHypothesis fun other member => fixed other (List.mem_cons_of_mem _ member)]
      rfl

/-- Paths that are in normal form already make the same change set. -/
theorem storedChange_fixed {change : ChangeSet}
    (fixed : ∀ path ∈ change.files.rows, FilePath.normalize (.text path) = .ok path) :
    storedChange change.toValue.reread = .ok change := by
  rw [storedChange_reread, mapM_normalize_fixed fixed, Except.map, Table.ofList_rows]

end Snapshot

end CodeGraph

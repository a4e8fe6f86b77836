import CodeGraph.Proofs.StoredItems

/-!
This file says which snapshots are restored from their stored form. The stored items pass through a
builder one by one, and the builder commits what the snapshot shows.
-/

namespace CodeGraph

namespace Builder

/-- Entities of new keys are staged in turn. -/
theorem stageEntities_fresh (builder : Builder) {rows : List Entity}
    (increasing : rows.Pairwise fun first second => first.key < second.key)
    (fresh : ∀ row ∈ rows, builder.entities.find? row.key = none) :
    rows.foldlM stageEntity builder =
      .ok { builder with entities := rows.foldl Table.insert builder.entities } := by
  induction rows generalizing builder with
  | nil => rfl
  | cons row rest inductionHypothesis =>
      obtain ⟨smallest, restIncreasing⟩ := List.pairwise_cons.mp increasing
      have staged : builder.stageEntity row =
          .ok { builder with entities := builder.entities.insert row } := by
        unfold stageEntity
        rw [fresh row List.mem_cons_self]
      rw [List.foldlM_cons, staged]
      refine inductionHypothesis _ restIncreasing fun other member => ?_
      have apart : row.key ≠ other.key := fun same =>
        String.lt_irrefl _ (same ▸ smallest other member)
      rw [Table.find?_insert, if_neg apart, fresh other (List.mem_cons_of_mem _ member)]

/-- Edges that are not staged yet are staged in turn. -/
theorem stageEdges_fresh (builder : Builder) (edges : List Edge)
    (distinct : (builder.edges ++ edges).Nodup)
    (named : ∀ edge ∈ builder.edges ++ edges, edge.IsNamed)
    (filled : ∀ edge ∈ edges, edge.relation.toValue.isTruthy = true) :
    edges.foldlM stageEdge builder = .ok { builder with edges := builder.edges ++ edges } := by
  induction edges generalizing builder with
  | nil => rw [List.append_nil]; rfl
  | cons edge rest inductionHypothesis =>
      have absent : builder.edges.any edge.agrees = false := by
        rw [List.any_eq_false]
        intro old member agreeing
        have same := (Edge.agrees_iff
          (named edge (List.mem_append_right _ List.mem_cons_self))
          (named old (List.mem_append_left _ member))).mp agreeing
        exact (List.nodup_append.mp distinct).2.2 old member edge List.mem_cons_self same.symm
      have staged : builder.stageEdge edge =
          .ok { builder with edges := builder.edges ++ [edge] } := by
        unfold stageEdge
        rw [if_pos (filled edge List.mem_cons_self), absent]
        rfl
      rw [List.foldlM_cons, staged]
      have shifted : builder.edges ++ edge :: rest = builder.edges ++ [edge] ++ rest := by simp
      rw [shifted] at distinct named ⊢
      exact inductionHypothesis _ distinct named fun other member =>
        filled other (List.mem_cons_of_mem _ member)

theorem stageChanges_all (changes : List ChangeSet) (builder : Builder) :
    changes.foldlM (fun (builder : Builder) change => Except.ok (builder.stageChange change))
        builder = (.ok { builder with
          changeSets := changes.foldl Table.insert builder.changeSets } : Outcome Builder) := by
  induction changes generalizing builder with
  | nil => rfl
  | cons change rest inductionHypothesis =>
      rw [List.foldlM_cons]
      exact inductionHypothesis (builder.stageChange change)

/-- A builder that makes no sentinels shows its entities as they are. -/
theorem materialized_eq {builder : Builder} (bare : builder.materializeExternal = false) :
    builder.materialized = builder.entities := by
  refine Table.eq_of_find? fun name => ?_
  have none : ((endpoints builder.edges).find? fun address =>
      false && address.isExternal && address.text == name) = none :=
    List.find?_eq_none.mpr fun address _ => by simp
  rw [find?_materialized, bare, none, Option.map_none, Option.or_none]

end Builder

namespace Snapshot

/-- Converted items are staged like the values that they are converted to. -/
theorem stageStored_map {α β : Type} {convert : Value → Outcome α}
    {stage : Builder → α → Outcome Builder} {items : List β} {stored : β → Value} (value : β → α)
    (converted : ∀ item ∈ items, convert (stored item) = .ok (value item)) (builder : Builder) :
    stageStored convert stage builder (items.map stored) =
      (items.map value).foldlM stage builder := by
  induction items generalizing builder with
  | nil => rfl
  | cons item rest inductionHypothesis =>
      rw [List.map_cons, List.map_cons, List.foldlM_cons, stageStored,
        converted item List.mem_cons_self]
      cases staged : stage builder (value item) with
      | error fault =>
          simp only [Except.bind, staged]
          rfl
      | ok next =>
          simp only [Except.bind, staged]
          exact inductionHypothesis
            (fun other member => converted other (List.mem_cons_of_mem _ member)) next

/-- What an indexing guarantees of its snapshot. -/
structure IsSound (snapshot : Snapshot) : Prop where
  paths : ∀ entity ∈ snapshot.entities.rows, ∃ path, entity.filePath = .text path
  metadata : ∀ entity ∈ snapshot.entities.rows, entity.metadata.IsWellFormed
  writable : ∀ entity ∈ snapshot.entities.rows, entity.metadata.writeDefect? = none
  relations : ∀ edge ∈ snapshot.edges, ∃ relation, edge.relation = .text relation ∧ relation ≠ ""
  increasing : snapshot.edges.Pairwise fun first second => first.precedes second = true
  files : ∀ change ∈ snapshot.changeSets.rows, ∀ path ∈ change.files.rows,
    ∃ raw, FilePath.normalize raw = .ok path
  identified : Content.identifier snapshot.entities.rows snapshot.edges snapshot.changeSets.rows =
    .ok snapshot.id
  createdAt : ∃ time, snapshot.createdAt = .text time ∧ time ≠ ""
  generation : Decimal.isWritable snapshot.generation = true

/-- What a snapshot needs beyond this to be stored: line numbers of at most ten digits, texts for
the names of metadata, and paths in change sets that stay as they are when they are brought into
normal form once more. -/
structure IsStorable (snapshot : Snapshot) : Prop where
  lines : ∀ entity ∈ snapshot.entities.rows, entity.lastLine < 10 ^ 10
  named : ∀ entity ∈ snapshot.entities.rows, entity.metadata.IsNamed
  fixed : ∀ change ∈ snapshot.changeSets.rows, ∀ path ∈ change.files.rows,
    FilePath.normalize (.text path) = .ok path

/-- What a snapshot needs to come back from its file: it is storable, and its metadata nest no
deeper than what is read again. They stand three levels below the document. -/
structure IsDurable (snapshot : Snapshot) : Prop extends snapshot.IsStorable where
  readable : ∀ entity ∈ snapshot.entities.rows,
    entity.metadata.toValue.IsWritable (Json.nestingLimit - 3)

/-- The fields of the stored form of a snapshot. -/
def storedFields (snapshot : Snapshot) : List (String × Value) := [
  ("snapshot_id", .text snapshot.id),
  ("created_at", snapshot.createdAt.reread),
  ("generation", .int snapshot.generation),
  ("entities", .list (snapshot.entities.rows.map fun entity => entity.toValue.reread)),
  ("edges", .list (snapshot.edges.map fun edge => edge.toValue.reread)),
  ("change_sets", .list (snapshot.changeSets.rows.map fun change => change.toValue.reread))]

theorem toValue_reread (snapshot : Snapshot) :
    snapshot.toValue.reread = .object snapshot.storedFields := by
  have items (values : List Value) : Value.itemsReread values = values.map Value.reread := by
    induction values with
    | nil => rfl
    | cons value rest inductionHypothesis =>
        rw [Value.itemsReread, inductionHypothesis, List.map_cons]
  simp [toValue, storedFields, Value.reread, Value.fieldsReread, Value.setField, items]

theorem storedFields_generation (snapshot : Snapshot) :
    storedFieldOr snapshot.storedFields "generation" (.int 0) = .int snapshot.generation := by
  simp [storedFieldOr, storedFields, Value.lookup]

theorem storedFields_entities (snapshot : Snapshot) :
    storedItems snapshot.storedFields "entities" =
      .ok (snapshot.entities.rows.map fun entity => entity.toValue.reread) := by
  simp [storedItems, storedFieldOr, storedFields, Value.lookup, Value.items, Value.items?]

theorem storedFields_edges (snapshot : Snapshot) :
    storedItems snapshot.storedFields "edges" =
      .ok (snapshot.edges.map fun edge => edge.toValue.reread) := by
  simp [storedItems, storedFieldOr, storedFields, Value.lookup, Value.items, Value.items?]

theorem storedFields_changeSets (snapshot : Snapshot) :
    storedItems snapshot.storedFields "change_sets" =
      .ok (snapshot.changeSets.rows.map fun change => change.toValue.reread) := by
  simp [storedItems, storedFieldOr, storedFields, Value.lookup, Value.items, Value.items?]

/-- The builder with the stored data of a snapshot. -/
def restoredBuilder (snapshot : Snapshot) : Builder :=
  { Builder.create snapshot.generation false with
    entities := snapshot.unmarked.entities
    edges := snapshot.edges
    changeSets := snapshot.changeSets }

theorem IsSound.named {snapshot : Snapshot} (sound : snapshot.IsSound) :
    ∀ edge ∈ snapshot.edges, edge.IsNamed := fun edge member => by
  obtain ⟨relation, named, -⟩ := sound.relations edge member
  exact ⟨relation, named⟩

section

variable (vocabulary : Vocabulary) {snapshot : Snapshot}

/-- Each stored entity comes back without its mark. -/
theorem storedEntity_stored (sound : snapshot.IsSound) (storable : snapshot.IsStorable)
    {entity : Entity} (member : entity ∈ snapshot.entities.rows) :
    storedEntity vocabulary entity.toValue.reread = .ok entity.unmarked := by
  obtain ⟨path, named⟩ := sound.paths entity member
  obtain ⟨fields, object, restored⟩ := storedEntity_reread vocabulary named
  rw [restored, if_pos (storable.lines entity member)]
  have metadata := Metadata.ofOptional_reread (sound.metadata entity member)
    (storable.named entity member)
  rw [object, Metadata.ofOptional_object] at metadata
  rw [Except.ok.inj metadata]
  rfl

/-- Each stored edge comes back. -/
theorem storedEdge_stored (sound : snapshot.IsSound) (storable : snapshot.IsStorable)
    {edge : Edge} (member : edge ∈ snapshot.edges) :
    storedEdge vocabulary edge.toValue.reread = .ok edge := by
  obtain ⟨relation, named, filled⟩ := sound.relations edge member
  obtain ⟨⟨source, sourceMember, sourceSame⟩, ⟨target, targetMember, targetSame⟩⟩ :=
    entity_of_endpoint member
  exact storedEdge_reread vocabulary named filled
    (sourceSame ▸ storable.lines source sourceMember)
    (targetSame ▸ storable.lines target targetMember)

theorem stageEntities_stored (sound : snapshot.IsSound) (storable : snapshot.IsStorable) :
    stageStored (storedEntity vocabulary) Builder.stageEntity
      (Builder.create snapshot.generation false)
      (snapshot.entities.rows.map fun entity => entity.toValue.reread) =
        .ok { Builder.create snapshot.generation false with
          entities := snapshot.unmarked.entities } := by
  have all := Builder.stageEntities_fresh (Builder.create snapshot.generation false)
    snapshot.unmarked.entities.increasing fun _ _ => rfl
  have table := Table.ofList_rows snapshot.unmarked.entities
  unfold Table.ofList at table
  rw [stageStored_map Entity.unmarked fun _ => storedEntity_stored vocabulary sound storable]
  exact all.trans (congrArg (fun entities => Except.ok
    { Builder.create snapshot.generation false with entities := entities }) table)

theorem stageEdges_stored (sound : snapshot.IsSound) (storable : snapshot.IsStorable)
    {builder : Builder} (bare : builder.edges = []) :
    stageStored (storedEdge vocabulary) Builder.stageEdge builder
      (snapshot.edges.map fun edge => edge.toValue.reread) =
        .ok { builder with edges := snapshot.edges } := by
  have distinct := Order.nodup_of_increasing Edge.precedes_strict sound.named sound.increasing
  have all := Builder.stageEdges_fresh builder snapshot.edges
    (by rw [bare]; exact distinct) (by rw [bare]; exact sound.named) fun edge member => by
      obtain ⟨relation, named, filled⟩ := sound.relations edge member
      rw [named]
      simpa [Atom.toValue, Value.isTruthy] using filled
  rw [bare, List.nil_append] at all
  rw [stageStored_map (fun edge => edge) fun _ => storedEdge_stored vocabulary sound storable,
    List.map_id', all]

theorem stageChanges_stored (storable : snapshot.IsStorable) {builder : Builder}
    (bare : builder.changeSets = Table.empty) :
    stageStored storedChange (fun builder change => .ok (builder.stageChange change)) builder
      (snapshot.changeSets.rows.map fun change => change.toValue.reread) =
        .ok { builder with changeSets := snapshot.changeSets } := by
  have table := Table.ofList_rows snapshot.changeSets
  unfold Table.ofList at table
  rw [stageStored_map (fun change => change) fun change member =>
      storedChange_fixed (storable.fixed change member),
    List.map_id', Builder.stageChanges_all, bare, table]

/-- All stored items of a storable snapshot are staged. -/
theorem stageFields_stored (sound : snapshot.IsSound) (storable : snapshot.IsStorable) :
    stageFields vocabulary snapshot.storedFields = .ok snapshot.restoredBuilder := by
  unfold stageFields
  simp only [storedFields_generation, Value.toInteger, storedFields_entities, storedFields_edges,
    storedFields_changeSets, bind, Except.bind, stageEntities_stored vocabulary sound storable]
  rw [stageEdges_stored vocabulary sound storable rfl]
  exact stageChanges_stored storable rfl

end

/-- The restored builder is ready to be committed. -/
theorem restoredBuilder_committable {snapshot : Snapshot} (sound : snapshot.IsSound)
    (storable : snapshot.IsStorable) : snapshot.restoredBuilder.IsCommittable where
  generation := sound.generation
  serialisable := fun entity member => by
    obtain ⟨old, oldMember, rfl⟩ := List.mem_map.mp member
    refine ⟨⟨Metadata.isNamed_unmarked (storable.named old oldMember), ?_⟩, ?_⟩
    · change old.metadata.unmarked.writeDefect? = none
      rw [Metadata.writeDefect?_unmarked]
      exact sound.writable old oldMember
    · obtain ⟨path, named⟩ := sound.paths old oldMember
      change old.filePath.CanBeShown
      rw [named]
      exact Value.canBeShown_text path
  named := sound.named
  distinct := Order.nodup_of_increasing Edge.precedes_strict sound.named sound.increasing

theorem restoredBuilder_closed (snapshot : Snapshot) : snapshot.restoredBuilder.IsClosed :=
  @Builder.isClosed_of_snapshot _ snapshot.unmarked rfl fun _ member => member

/-- Snapshots with the same parts are equal. -/
theorem eq_of_parts {first second : Snapshot} (entities : first.entities = second.entities)
    (edges : first.edges = second.edges) (changeSets : first.changeSets = second.changeSets)
    (id : first.id = second.id) (createdAt : first.createdAt = second.createdAt)
    (generation : first.generation = second.generation) : first = second := by
  cases first
  cases second
  simp_all

/-- What the restored builder shows is the snapshot itself. -/
theorem eq_of_shows {snapshot restored : Snapshot} (sound : snapshot.IsSound)
    (storable : snapshot.IsStorable) {now : String}
    (shown : snapshot.restoredBuilder.Shows now snapshot.createdAt restored) :
    restored = snapshot.unmarked := by
  have entities : restored.entities = snapshot.unmarked.entities := by
    rw [shown.entities, Builder.materialized_eq rfl]
    rfl
  have edges : restored.edges = snapshot.edges := by
    have sorted := shown.sorted
    change Edge.sort snapshot.edges = .ok restored.edges at sorted
    rw [Edge.sort_named sound.named,
      Order.sort_of_increasing Edge.precedes_strict sound.named sound.increasing] at sorted
    exact (Except.ok.inj sorted).symm
  have identified := shown.identified
  rw [entities, edges, shown.changeSets] at identified
  change Content.identifier (snapshot.entities.rows.map Entity.unmarked) snapshot.edges
    snapshot.changeSets.rows = .ok restored.id at identified
  rw [Content.identifier_unmarked storable.named, sound.identified] at identified
  obtain ⟨time, stamped, filled⟩ := sound.createdAt
  refine eq_of_parts entities edges shown.changeSets (Except.ok.inj identified).symm ?_
    shown.generation
  have truthy : (Value.text time).isTruthy = true := by simpa [Value.isTruthy] using filled
  rw [shown.createdAt, stamped, if_pos truthy]
  exact stamped.symm

/-- A storable snapshot is restored without its marks. -/
theorem ofFields_storedFields (vocabulary : Vocabulary) (now : String) {snapshot : Snapshot}
    (sound : snapshot.IsSound) (storable : snapshot.IsStorable) :
    ofFields vocabulary now snapshot.storedFields = .ok snapshot.unmarked := by
  obtain ⟨time, stamped, -⟩ := sound.createdAt
  have createdAt : storedFieldOr snapshot.storedFields "created_at" .null = snapshot.createdAt := by
    simp [storedFieldOr, storedFields, Value.lookup, stamped, Value.reread]
  obtain ⟨restored, committed⟩ := (Builder.commit_succeeds_iff
    (restoredBuilder_committable sound storable) rfl now snapshot.createdAt).mpr
      (restoredBuilder_closed snapshot)
  obtain ⟨-, -, shown, -⟩ := Builder.commit_ok (congrArg Prod.fst committed)
  rw [eq_of_shows sound storable shown] at committed
  have rebuilt : rebuild vocabulary now snapshot.storedFields = .ok snapshot.unmarked := by
    unfold rebuild
    rw [stageFields_stored vocabulary sound storable, createdAt]
    exact congrArg Prod.fst committed
  have identifier : storedFieldOr snapshot.storedFields "snapshot_id" .null =
      .text snapshot.id := by
    simp [storedFieldOr, storedFields, Value.lookup]
  unfold ofFields
  rw [rebuilt, identifier]
  have agreeing : (Value.text snapshot.id).agrees (.text snapshot.unmarked.id) = true := by
    simp [Value.agrees, Value.atomsAgree, Atom.ofValue?, Atom.agrees, unmarked]
  unfold checkIdentifier
  simp only [agreeing, Bool.not_true, Bool.and_false, Bool.false_eq_true, if_false]

end Snapshot

end CodeGraph

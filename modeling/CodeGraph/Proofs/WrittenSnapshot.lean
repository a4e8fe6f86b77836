import CodeGraph.Proofs.Agreement
import CodeGraph.Proofs.CommittedSnapshot
import CodeGraph.Proofs.ConvertedItems
import CodeGraph.Proofs.KeyRoundTrip
import CodeGraph.Proofs.StoredSnapshot
import CodeGraph.Proofs.WrittenItems

/-!
This file says that a committed snapshot is restored from what it is written as, also where the
written items come in another order or more than once.
-/

namespace CodeGraph

/-- A table is made from any list with its rows, however they are ordered or repeated. -/
theorem Table.ofList_of_mem_iff {α : Type} {key : α → String} {table : Table α key}
    {rows : List α} (same : ∀ row, row ∈ rows ↔ row ∈ table.rows) : ofList rows = table := by
  refine eq_of_mem_rows_iff fun row => ⟨fun member => (same row).mp (mem_of_mem_ofList member),
    fun member => ?_⟩
  have present : (latest? key (key row) rows).isSome = true :=
    latest?_isSome_iff.mpr ⟨row, (same row).mpr member, rfl⟩
  obtain ⟨last, found⟩ := Option.isSome_iff_exists.mp present
  obtain ⟨lastIn, lastKey⟩ := latest?_eq_some found
  have equal := row_unique table.increasing ((same last).mp lastIn) member lastKey
  apply mem_rows_iff.mpr
  unfold ofList
  rw [find?_foldl_insert, find?_empty, Option.or_none, found, equal]

/-- Metadata with texts for names are read as they were. -/
theorem Metadata.ofOptional_toValue {metadata : Metadata} (named : metadata.IsNamed) :
    ofOptional metadata.toValue = .ok metadata := by
  rw [toValue, ofOptional_object, named.entries_eq]

namespace Builder

/-- Entities are staged in turn if no two of one key are different. -/
theorem stageEntities_repeated (builder : Builder) {entities : List Entity}
    (reflexive : ∀ entity ∈ entities, entity.agrees entity = true)
    (unique : ∀ first ∈ entities, ∀ second ∈ entities, first.key = second.key → first = second)
    (known : ∀ entity ∈ entities, ∀ staged, builder.entities.find? entity.key = some staged →
      staged = entity) :
    entities.foldlM stageEntity builder =
      .ok { builder with entities := entities.foldl Table.insert builder.entities } := by
  induction entities generalizing builder with
  | nil => rfl
  | cons entity rest inductionHypothesis =>
      have staged : builder.stageEntity entity =
          .ok { builder with entities := builder.entities.insert entity } := by
        unfold stageEntity
        split
        · rename_i old found
          rw [known entity List.mem_cons_self old found,
            if_pos (reflexive entity List.mem_cons_self)]
        · rfl
      rw [List.foldlM_cons, staged]
      refine inductionHypothesis _
        (fun other member => reflexive other (List.mem_cons_of_mem _ member))
        (fun first former second latter => unique first (List.mem_cons_of_mem _ former) second
          (List.mem_cons_of_mem _ latter)) fun other member old found => ?_
      rw [Table.find?_insert] at found
      split at found
      · rename_i same
        cases found
        exact unique entity List.mem_cons_self other (List.mem_cons_of_mem _ member) same
      · exact known other (List.mem_cons_of_mem _ member) old found

/-- Edges are staged in turn if those that agree are equal. -/
theorem stageEdges_repeated (builder : Builder) {edges : List Edge}
    (related : ∀ edge ∈ edges, edge.relation.toValue.isTruthy = true)
    (unique : ∀ first ∈ edges, ∀ second ∈ builder.edges ++ edges,
      first.agrees second = true → first = second) :
    ∃ staged, edges.foldlM stageEdge builder = .ok { builder with edges := staged } ∧
      ∀ edge, edge ∈ staged ↔ edge ∈ builder.edges ∨ edge ∈ edges := by
  induction edges generalizing builder with
  | nil => exact ⟨builder.edges, rfl, fun edge => by simp⟩
  | cons edge rest inductionHypothesis =>
      have restRelated : ∀ other ∈ rest, other.relation.toValue.isTruthy = true :=
        fun other member => related other (List.mem_cons_of_mem _ member)
      rw [List.foldlM_cons]
      unfold stageEdge
      rw [if_pos (related edge List.mem_cons_self)]
      split
      · rename_i present
        obtain ⟨old, oldIn, agreeing⟩ := List.any_eq_true.mp present
        have same := unique edge List.mem_cons_self old (List.mem_append_left _ oldIn) agreeing
        obtain ⟨staged, made, members⟩ := inductionHypothesis builder restRelated
          fun first former second latter => unique first (List.mem_cons_of_mem _ former) second
            (by simp at latter ⊢; tauto)
        refine ⟨staged, made, fun other => (members other).trans ?_⟩
        rw [List.mem_cons]
        constructor
        · exact Or.imp_right .inr
        · rintro (inside | rfl | behind)
          · exact .inl inside
          · exact .inl (same ▸ oldIn)
          · exact .inr behind
      · obtain ⟨staged, made, members⟩ := inductionHypothesis
          { builder with edges := builder.edges ++ [edge] } restRelated
          fun first former second latter => unique first (List.mem_cons_of_mem _ former) second
            (by simpa using latter)
        refine ⟨staged, made, fun other => (members other).trans ?_⟩
        rw [List.mem_append, List.mem_singleton, List.mem_cons, or_assoc]

end Builder

namespace Snapshot

/-- What a committed snapshot needs beyond this to be restored: line numbers of at most ten digits,
paths and metadata of documents, relations that are no NaN, and paths in change sets that stay as
they are when they are brought into normal form once more. -/
structure IsRestorable (snapshot : Snapshot) : Prop where
  lines : ∀ entity ∈ snapshot.entities.rows, entity.lastLine < 10 ^ 10
  paths : ∀ entity ∈ snapshot.entities.rows, entity.filePath.HasDistinctNames
  metadata : ∀ entity ∈ snapshot.entities.rows, entity.metadata.IsWellFormed
  named : ∀ entity ∈ snapshot.entities.rows, entity.metadata.IsNamed
  ordered : ∀ edge ∈ snapshot.edges, edge.relation.IsOrdered
  fixed : ∀ change ∈ snapshot.changeSets.rows, ∀ path ∈ change.files.rows,
    FilePath.normalize (.text path) = .ok path
  createdAt : snapshot.createdAt.isTruthy = true

variable {snapshot : Snapshot}

theorem IsRestorable.agrees_refl (restorable : snapshot.IsRestorable) {entity : Entity}
    (member : entity ∈ snapshot.entities.rows) : entity.agrees entity = true := by
  unfold Entity.agrees
  rw [decide_eq_true rfl, entity.filePath.agrees_refl (restorable.paths entity member),
    Metadata.agrees_refl (restorable.metadata entity member)]
  rfl

/-- Written entities are read as they were. -/
theorem IsRestorable.storedEntity (restorable : snapshot.IsRestorable) (vocabulary : Vocabulary)
    {entity : Entity} (member : entity ∈ snapshot.entities.rows) :
    Snapshot.storedEntity vocabulary entity.toValue = .ok entity := by
  have parsed : Address.parse vocabulary (.text entity.key) = .ok entity.address :=
    (Address.parse_text vocabulary entity.address).trans (if_pos (restorable.lines entity member))
  have metadata : Metadata.ofOptional entity.metadata.toValue = .ok entity.metadata :=
    Metadata.ofOptional_toValue (restorable.named entity member)
  rw [storedEntity_toValue, parsed, metadata]
  rfl

/-- Written edges are read as they were. -/
theorem IsRestorable.storedEdge (restorable : snapshot.IsRestorable) (vocabulary : Vocabulary)
    {edge : Edge} (related : edge.relation.toValue.isTruthy = true)
    (member : edge ∈ snapshot.edges) : Snapshot.storedEdge vocabulary edge.toValue = .ok edge := by
  have parsed (entity : Entity) (inside : entity ∈ snapshot.entities.rows) :
      Address.parse vocabulary (.text entity.address.text) = .ok entity.address :=
    (Address.parse_text vocabulary entity.address).trans (if_pos (restorable.lines entity inside))
  obtain ⟨⟨source, sourceIn, sourceSame⟩, ⟨target, targetIn, targetSame⟩⟩ :=
    entity_of_endpoint member
  rw [storedEdge_toValue, ← sourceSame, ← targetSame, parsed source sourceIn,
    parsed target targetIn, sourceSame, targetSame]
  exact if_pos related

/-- Written change sets are read as they were. -/
theorem IsRestorable.storedChange (restorable : snapshot.IsRestorable) {change : ChangeSet}
    (member : change ∈ snapshot.changeSets.rows) :
    Snapshot.storedChange change.toValue = .ok change := by
  rw [storedChange_toValue, mapM_normalize_fixed (restorable.fixed change member), Except.map,
    Table.ofList_rows]

/-- The lists hold the items of the snapshot, in any order and any number of times. -/
structure HoldItems (snapshot : Snapshot) (entities : List Entity) (edges : List Edge)
    (changes : List ChangeSet) : Prop where
  entities : ∀ entity, entity ∈ entities ↔ entity ∈ snapshot.entities.rows
  edges : ∀ edge, edge ∈ edges ↔ edge ∈ snapshot.edges
  changes : ∀ change, change ∈ changes ↔ change ∈ snapshot.changeSets.rows

variable {entities : List Entity} {edges : List Edge} {changes : List ChangeSet}

/-- All entities of the snapshot are staged. -/
theorem IsRestorable.stageEntities (restorable : snapshot.IsRestorable) (vocabulary : Vocabulary)
    (hold : snapshot.HoldItems entities edges changes) {builder : Builder}
    (bare : builder.entities = Table.empty) :
    stageStored (Snapshot.storedEntity vocabulary) Builder.stageEntity builder
        (entities.map Entity.toValue) = .ok { builder with entities := snapshot.entities } := by
  have read : ∀ entity ∈ entities, Snapshot.storedEntity vocabulary entity.toValue = .ok entity :=
    fun entity member => restorable.storedEntity vocabulary ((hold.entities entity).mp member)
  have staged : entities.foldlM Builder.stageEntity builder =
      .ok { builder with entities := entities.foldl Table.insert builder.entities } :=
    builder.stageEntities_repeated
      (fun entity member => restorable.agrees_refl ((hold.entities entity).mp member))
      (fun first former second latter same => Table.row_unique snapshot.entities.increasing
        ((hold.entities first).mp former) ((hold.entities second).mp latter) same)
      (fun entity _ old found => by rw [bare] at found; cases found)
  rw [stageStored_map (fun entity => entity) read, List.map_id', staged, bare]
  have table := Table.ofList_of_mem_iff hold.entities
  unfold Table.ofList at table
  rw [table]

/-- All change sets of the snapshot are staged. -/
theorem IsRestorable.stageChanges (restorable : snapshot.IsRestorable)
    (hold : snapshot.HoldItems entities edges changes) {builder : Builder}
    (bare : builder.changeSets = Table.empty) :
    stageStored Snapshot.storedChange (fun builder change => .ok (builder.stageChange change))
        builder (changes.map ChangeSet.toValue) =
      .ok { builder with changeSets := snapshot.changeSets } := by
  have read : ∀ change ∈ changes, Snapshot.storedChange change.toValue = .ok change :=
    fun change member => restorable.storedChange ((hold.changes change).mp member)
  have table := Table.ofList_of_mem_iff hold.changes
  unfold Table.ofList at table
  rw [stageStored_map (fun change => change) read, List.map_id', Builder.stageChanges_all, bare,
    table]

/-- All edges of the snapshot are staged. -/
theorem IsRestorable.stageEdges (restorable : snapshot.IsRestorable) (vocabulary : Vocabulary)
    (committed : snapshot.IsCommitted) (hold : snapshot.HoldItems entities edges changes)
    (builder : Builder) (bare : builder.edges = []) :
    ∃ staged, stageStored (Snapshot.storedEdge vocabulary) Builder.stageEdge builder
        (edges.map Edge.toValue) = .ok { builder with edges := staged } ∧
      ∀ edge, edge ∈ staged ↔ edge ∈ snapshot.edges := by
  have related : ∀ edge ∈ edges, edge.relation.toValue.isTruthy = true :=
    fun edge member => committed.related edge ((hold.edges edge).mp member)
  have read : ∀ edge ∈ edges, Snapshot.storedEdge vocabulary edge.toValue = .ok edge :=
    fun edge member => restorable.storedEdge vocabulary (related edge member)
      ((hold.edges edge).mp member)
  obtain ⟨staged, made, members⟩ := builder.stageEdges_repeated related
    fun first former second latter agreeing => by
      rw [bare, List.nil_append] at latter
      by_contra apart
      have differs := committed.differ.forall ((hold.edges first).mp former)
        ((hold.edges second).mp latter) apart
      rw [Edge.Differs, agreeing] at differs
      cases differs
  refine ⟨staged, ?_, fun edge => ?_⟩
  · rw [stageStored_map (fun edge => edge) read, List.map_id', made]
  · rw [members edge, bare, hold.edges edge]
    simp

/-- All written items of the snapshot are staged. -/
theorem IsRestorable.stageFields (restorable : snapshot.IsRestorable) (vocabulary : Vocabulary)
    (committed : snapshot.IsCommitted) (hold : snapshot.HoldItems entities edges changes) :
    ∃ staged, Snapshot.stageFields vocabulary (snapshot.writtenWith entities edges changes) =
        .ok { Builder.create snapshot.generation false with
          entities := snapshot.entities, edges := staged, changeSets := snapshot.changeSets } ∧
      ∀ edge, edge ∈ staged ↔ edge ∈ snapshot.edges := by
  obtain ⟨staged, edgesStaged, members⟩ := restorable.stageEdges vocabulary committed hold
    { Builder.create snapshot.generation false with entities := snapshot.entities } rfl
  refine ⟨staged, ?_, members⟩
  simp only [Snapshot.stageFields, storedItems, storedFieldOr, writtenWith, Value.lookup,
    String.reduceEq, if_true, if_false, Option.getD_some, Value.items, Value.items?,
    Value.toInteger, Outcome.ok_bind]
  rw [restorable.stageEntities vocabulary hold rfl, Outcome.ok_bind, edgesStaged, Outcome.ok_bind]
  exact restorable.stageChanges hold rfl

/-- The edges of a committed snapshot are sorted as they were, whatever order they are staged in. -/
theorem IsCommitted.sort_edges (committed : snapshot.IsCommitted)
    (ordered : ∀ edge ∈ snapshot.edges, edge.relation.IsOrdered) {builder : Builder}
    (reached : builder.IsReached)
    (edges : ∀ edge, edge ∈ builder.edges ↔ edge ∈ snapshot.edges) :
    Edge.sort builder.edges = .ok snapshot.edges := by
  have strict := committed.isStrict ordered
  have inside : ∀ edge ∈ builder.edges, edge ∈ snapshot.edges := fun edge => (edges edge).mp
  have distinct := Edge.nodup_of_differ reached.differ
  have comparable : Edge.incomparable? builder.edges = none :=
    Edge.incomparable?_eq_none_iff.mpr (distinct.imp_of_mem fun former latter apart =>
      committed.comparable _ (inside _ latter) _ (inside _ former) apart.symm)
  unfold Edge.sort
  rw [comparable]
  have increasing := committed.pairwise_precedes ordered
  rw [Order.sort_eq_of_mem_iff strict inside distinct
    (Edge.nodup_of_differ committed.differ) edges,
    Order.sort_of_increasing strict (fun _ member => member) increasing]

end Snapshot

end CodeGraph

import CodeGraph.Proofs.FoldedPath
import CodeGraph.Proofs.Outcomes
import CodeGraph.Proofs.Staging
import CodeGraph.Proofs.StoredSnapshot
import Mathlib.Data.List.Perm.Subperm

/-!
This file says that no other snapshots are restored from their stored form than the storable ones.
-/

namespace CodeGraph

namespace FilePath

/-- The number of characters of some paths. -/
def totalLength (paths : List String) : Nat := (paths.map fun path => path.toList.length).sum

/-- Paths that are brought into normal form once more take no more characters than before, and if
they take as many, they stay as they are. -/
theorem fixed_of_totalLength {paths nexts : List String}
    (normal : ∀ path ∈ paths, ∃ raw, normalize raw = .ok path)
    (again : List.Forall₂ (fun path next => normalize (.text path) = .ok next) paths nexts) :
    totalLength nexts ≤ totalLength paths ∧
      (totalLength nexts = totalLength paths →
        ∀ path ∈ paths, normalize (.text path) = .ok path) := by
  induction again with
  | nil => exact ⟨Nat.le_refl _, fun _ _ member => absurd member List.not_mem_nil⟩
  | cons first others inductionHypothesis =>
      rename_i path next rest more
      obtain ⟨raw, made⟩ := normal path List.mem_cons_self
      obtain ⟨shorter, fixed⟩ := inductionHypothesis fun other member =>
        normal other (List.mem_cons_of_mem _ member)
      unfold totalLength at shorter fixed ⊢
      simp only [List.map_cons, List.sum_cons]
      rcases normalize_again made first with same | less
      · subst same
        refine ⟨by omega, fun equal other member => ?_⟩
        rcases List.mem_cons.mp member with rfl | behind
        · exact first
        · exact fixed (by omega) other behind
      · exact ⟨by omega, fun equal => by omega⟩

/-- Paths that make up the same set once they are brought into normal form again stay as they
are. -/
theorem fixed_of_ofList {files : TextSet} {paths : List String}
    (normal : ∀ path ∈ files.rows, ∃ raw, normalize raw = .ok path)
    (again : List.Forall₂ (fun path next => normalize (.text path) = .ok next) files.rows paths)
    (same : Table.ofList paths = files) :
    ∀ path ∈ files.rows, normalize (.text path) = .ok path := by
  have covered : files.rows.Subperm paths := by
    refine (Table.nodup_rows files).subperm fun path member => ?_
    rw [← same] at member
    exact Table.mem_of_mem_ofList member
  have permuted : files.rows.Perm paths :=
    covered.perm_of_length_le (Nat.le_of_eq again.length_eq.symm)
  refine (fixed_of_totalLength normal again).2 ?_
  exact (permuted.map fun path => path.toList.length).sum_nat.symm

end FilePath

namespace Builder

theorem stageEntities_ok {values : List Entity} {builder final : Builder}
    (staged : values.foldlM stageEntity builder = .ok final) :
    final = { builder with entities := values.foldl Table.insert builder.entities } := by
  induction values generalizing builder with
  | nil => exact (Except.ok.inj staged).symm
  | cons value rest inductionHypothesis =>
      rw [List.foldlM_cons] at staged
      cases first : builder.stageEntity value with
      | error fault => rw [first] at staged; cases staged
      | ok next =>
          rw [first] at staged
          rw [inductionHypothesis staged, stageEntity_ok first]
          rfl

/-- Staged edges leave everything but the edges alone. -/
theorem stageEdges_ok {values : List Edge} {builder final : Builder}
    (staged : values.foldlM stageEdge builder = .ok final) :
    ∃ edges, final = { builder with edges := edges } := by
  induction values generalizing builder with
  | nil => exact ⟨builder.edges, (Except.ok.inj staged).symm⟩
  | cons value rest inductionHypothesis =>
      rw [List.foldlM_cons] at staged
      cases first : builder.stageEdge value with
      | error fault => rw [first] at staged; cases staged
      | ok next =>
          rw [first] at staged
          obtain ⟨edges, same⟩ := inductionHypothesis staged
          refine ⟨edges, ?_⟩
          obtain ⟨-, ⟨-, before⟩ | ⟨-, before⟩⟩ := stageEdge_ok first <;> rw [same, before]

end Builder

namespace Snapshot

/-- Items that are staged were all converted. -/
theorem stageStored_ok {α : Type} {convert : Value → Outcome α}
    {stage : Builder → α → Outcome Builder} {items : List Value} {builder final : Builder}
    (staged : stageStored convert stage builder items = .ok final) :
    ∃ values, List.Forall₂ (fun item value => convert item = .ok value) items values ∧
      values.foldlM stage builder = .ok final := by
  induction items generalizing builder with
  | nil => exact ⟨[], .nil, staged⟩
  | cons item rest inductionHypothesis =>
      unfold stageStored at staged
      cases converted : convert item with
      | error fault => rw [converted] at staged; cases staged
      | ok value =>
          rw [converted] at staged
          simp only [Except.bind] at staged
          cases first : stage builder value with
          | error fault => rw [first] at staged; cases staged
          | ok next =>
              rw [first] at staged
              obtain ⟨values, others, left⟩ := inductionHypothesis staged
              refine ⟨value :: values, .cons converted others, ?_⟩
              rw [List.foldlM_cons, first]
              exact left

/-- Stored fields that are staged have items, and what these are converted to is staged one by
one. -/
theorem stageFields_parts {vocabulary : Vocabulary} {fields : List (String × Value)}
    {builder : Builder} (staged : stageFields vocabulary fields = .ok builder) :
    ∃ generation entityItems changeItems entities changes first,
      storedItems fields "entities" = .ok entityItems ∧
      storedItems fields "change_sets" = .ok changeItems ∧
      List.Forall₂ (fun item entity => storedEntity vocabulary item = .ok entity)
        entityItems entities ∧
      List.Forall₂ (fun item change => storedChange item = .ok change) changeItems changes ∧
      entities.foldlM Builder.stageEntity (Builder.create generation false) = .ok first ∧
      builder.entities = first.entities ∧ builder.changeSets = Table.ofList changes ∧
      builder.materializeExternal = false := by
  obtain ⟨generation, -, staged⟩ := Outcome.bind_ok staged
  obtain ⟨entityItems, entityGiven, staged⟩ := Outcome.bind_ok staged
  obtain ⟨first, firstStaged, staged⟩ := Outcome.bind_ok staged
  obtain ⟨edgeItems, -, staged⟩ := Outcome.bind_ok staged
  obtain ⟨second, secondStaged, staged⟩ := Outcome.bind_ok staged
  obtain ⟨changeItems, changeGiven, staged⟩ := Outcome.bind_ok staged
  obtain ⟨entities, entitiesConverted, entitiesLeft⟩ := stageStored_ok firstStaged
  obtain ⟨edges, -, edgesLeft⟩ := stageStored_ok secondStaged
  obtain ⟨changes, changesConverted, changesLeft⟩ := stageStored_ok staged
  obtain ⟨kept, secondSame⟩ := Builder.stageEdges_ok edgesLeft
  rw [Builder.stageChanges_all] at changesLeft
  have lastSame := (Except.ok.inj changesLeft).symm
  have firstSame := Builder.stageEntities_ok entitiesLeft
  refine ⟨generation, entityItems, changeItems, entities, changes, first, entityGiven, changeGiven,
    entitiesConverted, changesConverted, entitiesLeft, ?_, ?_, ?_⟩ <;> rw [lastSame, secondSame]
  · rw [firstSame]
    rfl
  · rw [firstSame]
    rfl

/-- The staged entities and change sets make up the tables of the builder. -/
theorem stageFields_ok {vocabulary : Vocabulary} {fields : List (String × Value)}
    {builder : Builder} (staged : stageFields vocabulary fields = .ok builder) :
    ∃ entityItems changeItems entities changes,
      storedItems fields "entities" = .ok entityItems ∧
      storedItems fields "change_sets" = .ok changeItems ∧
      List.Forall₂ (fun item entity => storedEntity vocabulary item = .ok entity)
        entityItems entities ∧
      List.Forall₂ (fun item change => storedChange item = .ok change) changeItems changes ∧
      builder.entities = Table.ofList entities ∧ builder.changeSets = Table.ofList changes ∧
      builder.materializeExternal = false := by
  obtain ⟨generation, entityItems, changeItems, entities, changes, first, entityGiven, changeGiven,
    entitiesConverted, changesConverted, left, table, changeTable, bare⟩ := stageFields_parts staged
  refine ⟨entityItems, changeItems, entities, changes, entityGiven, changeGiven,
    entitiesConverted, changesConverted, ?_, changeTable, bare⟩
  rw [table, Builder.stageEntities_ok left]
  rfl

theorem storedField_ok {fields : List (String × Value)} {name : String} {value : Value}
    (given : storedField fields name = .ok value) : Value.lookup name fields = some value := by
  unfold storedField at given
  split at given
  · rename_i found
    rw [found, Except.ok.inj given]
  · cases given

/-- A restored entity has line numbers of at most ten digits. -/
theorem lastLine_lt_of_storedEntity {vocabulary : Vocabulary} {item : Value} {entity : Entity}
    (converted : storedEntity vocabulary item = .ok entity) : entity.lastLine < 10 ^ 10 := by
  obtain ⟨fields, -, converted⟩ := Outcome.bind_ok converted
  obtain ⟨key, -, converted⟩ := Outcome.bind_ok converted
  obtain ⟨address, parsed, converted⟩ := Outcome.bind_ok converted
  obtain ⟨path, -, converted⟩ := Outcome.bind_ok converted
  obtain ⟨metadata, -, converted⟩ := Outcome.bind_ok converted
  cases converted
  exact Address.lastLine_lt_of_parse parsed

/-- An entity that is restored from the form of a sound one has texts for the names of its
metadata. -/
theorem isNamed_of_storedEntity {vocabulary : Vocabulary} {entity restored : Entity} {path : String}
    (named : entity.filePath = .text path)
    (converted : storedEntity vocabulary entity.toValue.reread = .ok restored) :
    restored.metadata.IsNamed := by
  obtain ⟨fields, -, exact⟩ := storedEntity_reread vocabulary named
  rw [exact] at converted
  split at converted
  · cases converted
    intro entry member
    obtain ⟨field, -, rfl⟩ := List.mem_map.mp member
    rfl
  · cases converted

/-- A change set that is restored keeps its identifier, and its paths are brought into normal form
once more. -/
theorem storedChange_ok {change restored : ChangeSet}
    (converted : storedChange change.toValue.reread = .ok restored) :
    restored.id = change.id ∧ ∃ paths,
      List.Forall₂ (fun path next => FilePath.normalize (.text path) = .ok next)
        change.files.rows paths ∧ restored.files = Table.ofList paths := by
  rw [storedChange_reread] at converted
  cases again : change.files.rows.mapM fun path => FilePath.normalize (.text path) with
  | error fault => rw [again] at converted; cases converted
  | ok paths =>
      rw [again] at converted
      cases converted
      exact ⟨rfl, paths, Outcome.mapM_ok again, rfl⟩

/-- What is restored passed through a builder. -/
theorem ofFields_ok {vocabulary : Vocabulary} {now : String} {fields : List (String × Value)}
    {restored : Snapshot} (made : ofFields vocabulary now fields = .ok restored) :
    ∃ builder, stageFields vocabulary fields = .ok builder ∧
      builder.Shows now (storedFieldOr fields "created_at" .null) restored := by
  unfold ofFields at made
  split at made
  · cases made
  · rename_i rebuilt given
    unfold checkIdentifier at made
    split at made
    · exact absurd made Value.whenShown_error_ne_ok
    · cases made
      unfold rebuild at given
      cases staged : stageFields vocabulary fields with
      | error fault => rw [staged] at given; cases given
      | ok builder =>
          rw [staged] at given
          exact ⟨builder, rfl, (Builder.commit_ok given).2.2.1⟩

/-- Every restored snapshot has line numbers of at most ten digits, whatever was stored. -/
theorem lastLine_lt_of_restored {vocabulary : Vocabulary} {now : String}
    {fields : List (String × Value)} {restored : Snapshot}
    (made : ofFields vocabulary now fields = .ok restored) :
    ∀ entity ∈ restored.entities.rows, entity.lastLine < 10 ^ 10 := by
  obtain ⟨builder, staged, shown⟩ := ofFields_ok made
  obtain ⟨items, -, entities, -, -, -, converted, -, table, -, bare⟩ := stageFields_ok staged
  intro entity member
  rw [shown.entities, Builder.materialized_eq bare, table] at member
  obtain ⟨item, -, stored⟩ := Outcome.exists_of_forall₂ converted.flip
    (Table.mem_of_mem_ofList member)
  exact lastLine_lt_of_storedEntity stored

/-- A snapshot that is restored without its marks has texts for the names of its metadata. -/
theorem isNamed_of_restored {vocabulary : Vocabulary} {snapshot : Snapshot}
    {entities : List Entity} (sound : snapshot.IsSound)
    (converted : List.Forall₂ (fun entity restored =>
      storedEntity vocabulary entity.toValue.reread = .ok restored) snapshot.entities.rows entities)
    (same : snapshot.unmarked.entities = Table.ofList entities) :
    ∀ entity ∈ snapshot.entities.rows, entity.metadata.IsNamed := by
  intro entity member entry inside
  have unmarkedMember : entity.unmarked ∈ snapshot.unmarked.entities.rows :=
    List.mem_map_of_mem member
  rw [same] at unmarkedMember
  obtain ⟨old, oldMember, restored⟩ := Outcome.exists_of_forall₂ converted.flip
    (Table.mem_of_mem_ofList unmarkedMember)
  obtain ⟨path, named⟩ := sound.paths old oldMember
  exact isNamed_of_storedEntity named restored (entry.1, entry.2.unmarked)
    (List.mem_map_of_mem inside)

theorem ids_of_restored {changes restored : List ChangeSet}
    (converted : List.Forall₂ (fun change restored =>
      storedChange change.toValue.reread = .ok restored) changes restored) :
    restored.map ChangeSet.id = changes.map ChangeSet.id := by
  induction converted with
  | nil => rfl
  | cons first others inductionHypothesis =>
      rw [List.map_cons, List.map_cons, (storedChange_ok first).1, inductionHypothesis]

/-- Change sets that are restored as they were have paths that stay as they are. -/
theorem fixed_of_restored {snapshot : Snapshot} {changes : List ChangeSet}
    (sound : snapshot.IsSound)
    (converted : List.Forall₂ (fun change restored =>
      storedChange change.toValue.reread = .ok restored) snapshot.changeSets.rows changes)
    (same : snapshot.changeSets = Table.ofList changes) :
    ∀ change ∈ snapshot.changeSets.rows, ∀ path ∈ change.files.rows,
      FilePath.normalize (.text path) = .ok path := by
  have ids := ids_of_restored converted
  have increasing : changes.Pairwise fun first second => first.id < second.id := by
    have old := snapshot.changeSets.increasing
    rw [← List.pairwise_map, ← ids, List.pairwise_map] at old
    exact old
  have rows : snapshot.changeSets.rows = changes := by
    rw [same]
    exact congrArg Table.rows (Table.ofList_rows ⟨changes, increasing⟩)
  rw [← rows, List.forall₂_same] at converted
  intro change member
  obtain ⟨-, paths, again, files⟩ := storedChange_ok (converted change member)
  exact FilePath.fixed_of_ofList (sound.files change member) again files.symm

/-- Only a storable snapshot is restored without its marks. -/
theorem isStorable_of_restored {vocabulary : Vocabulary} {now : String} {snapshot : Snapshot}
    (sound : snapshot.IsSound)
    (restored : ofFields vocabulary now snapshot.storedFields = .ok snapshot.unmarked) :
    snapshot.IsStorable := by
  have lines := lastLine_lt_of_restored restored
  obtain ⟨builder, staged, shown⟩ := ofFields_ok restored
  obtain ⟨entityItems, changeItems, entities, changes, entityGiven, changeGiven, entitiesConverted,
    changesConverted, entityTable, changeTable, bare⟩ := stageFields_ok staged
  rw [storedFields_entities, Except.ok.injEq] at entityGiven
  rw [storedFields_changeSets, Except.ok.injEq] at changeGiven
  rw [← entityGiven, List.forall₂_map_left_iff] at entitiesConverted
  rw [← changeGiven, List.forall₂_map_left_iff] at changesConverted
  have sameEntities := shown.entities
  rw [Builder.materialized_eq bare, entityTable] at sameEntities
  have sameChanges := shown.changeSets
  rw [changeTable] at sameChanges
  refine ⟨fun entity member => ?_, isNamed_of_restored sound entitiesConverted sameEntities,
    fixed_of_restored sound changesConverted sameChanges⟩
  exact lines entity.unmarked (List.mem_map_of_mem member)

/-- A sound snapshot is restored without its marks exactly if it is storable. -/
theorem restored_iff_isStorable (vocabulary : Vocabulary) (now : String) {snapshot : Snapshot}
    (sound : snapshot.IsSound) :
    ofFields vocabulary now snapshot.storedFields = .ok snapshot.unmarked ↔ snapshot.IsStorable :=
  ⟨isStorable_of_restored sound, ofFields_storedFields vocabulary now sound⟩

end Snapshot

end CodeGraph

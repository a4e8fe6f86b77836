import CodeGraph.Snapshot.Builder

/-!
This file says what staging keeps. A property that every single item keeps is kept by a whole batch
and by a run of batches, also when a fault ends them early.
-/

namespace CodeGraph.Builder

/-- Staging touches neither the generation nor the switches of a builder. -/
structure SameSettings (first second : Builder) : Prop where
  generation : second.generation = first.generation
  materializeExternal : second.materializeExternal = first.materializeExternal
  committed : second.committed = first.committed

theorem SameSettings.refl (builder : Builder) : SameSettings builder builder := ⟨rfl, rfl, rfl⟩

theorem SameSettings.trans {first second third : Builder} (former : SameSettings first second)
    (latter : SameSettings second third) : SameSettings first third :=
  ⟨latter.generation.trans former.generation,
    latter.materializeExternal.trans former.materializeExternal,
    latter.committed.trans former.committed⟩

/-- An entity is staged exactly if it agrees with the one that it replaces. -/
theorem stageEntity_ok_iff {builder next : Builder} {entity : Entity} :
    builder.stageEntity entity = .ok next ↔
      (∀ staged, builder.entities.find? entity.key = some staged →
        staged.agrees entity = true) ∧
      next = { builder with entities := builder.entities.insert entity } := by
  unfold stageEntity
  constructor
  · intro result
    split at result
    · rename_i present found
      split at result
      · rename_i agreeing
        refine ⟨fun staged same => ?_, (Except.ok.inj result).symm⟩
        rw [← Option.some.inj (found.symm.trans same)]
        exact agreeing
      · cases result
    · rename_i absent
      refine ⟨fun staged same => ?_, (Except.ok.inj result).symm⟩
      rw [absent] at same
      cases same
  · rintro ⟨agreeing, rfl⟩
    split
    · rename_i staged found
      rw [if_pos (agreeing staged found)]
    · rfl

/-- An entity that is staged is the only change. -/
theorem stageEntity_ok {builder next : Builder} {entity : Entity}
    (staged : builder.stageEntity entity = .ok next) :
    next = { builder with entities := builder.entities.insert entity } :=
  (stageEntity_ok_iff.mp staged).2

/-- An edge that is staged agrees with one that was there, or it becomes the last one. -/
theorem stageEdge_ok {builder next : Builder} {edge : Edge}
    (staged : builder.stageEdge edge = .ok next) :
    edge.relation.toValue.isTruthy = true ∧
      ((builder.edges.any edge.agrees = true ∧ next = builder) ∨
        (builder.edges.any edge.agrees = false ∧
          next = { builder with edges := builder.edges ++ [edge] })) := by
  unfold stageEdge at staged
  split at staged
  · rename_i named
    refine ⟨named, ?_⟩
    split at staged
    · rename_i present
      exact Or.inl ⟨present, (Except.ok.inj staged).symm⟩
    · rename_i absent
      exact Or.inr ⟨by simpa using absent, (Except.ok.inj staged).symm⟩
  · cases staged

/-- An edge with a relation can be staged. -/
theorem exists_stageEdge (builder : Builder) {edge : Edge}
    (related : edge.relation.toValue.isTruthy = true) :
    ∃ next, builder.stageEdge edge = .ok next := by
  unfold stageEdge
  rw [if_pos related]
  split
  · exact ⟨builder, rfl⟩
  · exact ⟨_, rfl⟩

theorem stageEntity_settings {builder next : Builder} {entity : Entity}
    (staged : builder.stageEntity entity = .ok next) : SameSettings builder next := by
  rw [stageEntity_ok staged]
  exact ⟨rfl, rfl, rfl⟩

theorem stageEdge_settings {builder next : Builder} {edge : Edge}
    (staged : builder.stageEdge edge = .ok next) : SameSettings builder next := by
  obtain ⟨-, ⟨-, same⟩ | ⟨-, same⟩⟩ := stageEdge_ok staged <;> rw [same] <;> exact ⟨rfl, rfl, rfl⟩

theorem stageChange_settings (builder : Builder) (change : ChangeSet) :
    SameSettings builder (builder.stageChange change) := ⟨rfl, rfl, rfl⟩

/-- A batch keeps what each of its items keeps. -/
theorem stageAll_keeps {α : Type} {stage : Builder → α → Outcome Builder} {holds : Builder → Prop}
    {items : List α}
    (step : ∀ item ∈ items, ∀ builder next, holds builder → stage builder item = .ok next →
      holds next)
    {builder : Builder} (count : Nat) (start : holds builder) :
    holds (stageAll stage builder count items).2 := by
  induction items generalizing builder count with
  | nil => exact start
  | cons item rest inductionHypothesis =>
      unfold stageAll
      cases staged : stage builder item with
      | error fault => exact start
      | ok next =>
          exact inductionHypothesis (fun other member => step other (List.mem_cons_of_mem _ member))
            (count + 1) (step item List.mem_cons_self builder next start staged)

/-- The rest of a batch is staged after the front of it. -/
theorem stageAll_append {α : Type} (stage : Builder → α → Outcome Builder) (builder : Builder)
    (count : Nat) (front rest : List α) : stageAll stage builder count (front ++ rest) =
      andThen (stageAll stage builder count front) fun staged between =>
        stageAll stage between staged rest := by
  induction front generalizing builder count with
  | nil => rfl
  | cons item others inductionHypothesis =>
      rw [List.cons_append, stageAll, stageAll]
      cases stage builder item with
      | error fault => rfl
      | ok next => exact inductionHypothesis next (count + 1)

/-- A property that a closed builder has stays, and an open one keeps it if the operation does. -/
theorem whenOpen_keeps {α : Type} {holds : Builder → Prop} {builder : Builder}
    {operation : Staging α} (start : holds builder) (kept : holds operation.2) :
    holds (builder.whenOpen operation).2 := by
  unfold whenOpen
  split
  · exact start
  · exact kept

/-- Each item of the batch keeps the property. -/
structure KeptBy (holds : Builder → Prop) (batch : Batch) : Prop where
  entity : ∀ entity ∈ batch.entities, ∀ builder next, holds builder →
    builder.stageEntity entity = .ok next → holds next
  edge : ∀ edge ∈ batch.edges, ∀ builder next, holds builder →
    builder.stageEdge edge = .ok next → holds next
  change : ∀ change ∈ batch.changeSets, ∀ builder, holds builder →
    holds (builder.stageChange change)

theorem andThen_keeps {α β : Type} {holds : Builder → Prop} {first : Staging α}
    {next : α → Builder → Staging β} (start : holds first.2)
    (kept : ∀ value builder, holds builder → holds (next value builder).2) :
    holds (andThen first next).2 := by
  rcases first with ⟨fault | value, builder⟩
  · exact start
  · exact kept value builder start

theorem putBatch_keeps {holds : Builder → Prop} {batch : Batch} (kept : KeptBy holds batch)
    {builder : Builder} (counts : StagedCounts) (start : holds builder) :
    holds (builder.putBatch counts batch).2 := by
  have entities (builder : Builder) (start : holds builder) :
      holds (builder.putEntities (batch.entities.map .item)).2 := by
    refine whenOpen_keeps start (stageAll_keeps (fun offer member before next holding staged => ?_)
      0 start)
    obtain ⟨entity, inside, rfl⟩ := List.mem_map.mp member
    exact kept.entity entity inside before next holding staged
  have edges (builder : Builder) (start : holds builder) :
      holds (builder.putEdges (batch.edges.map .item)).2 := by
    refine whenOpen_keeps start (stageAll_keeps (fun offer member before next holding staged => ?_)
      0 start)
    obtain ⟨edge, inside, rfl⟩ := List.mem_map.mp member
    exact kept.edge edge inside before next holding staged
  have changes (builder : Builder) (start : holds builder) :
      holds (builder.putChangeSets (batch.changeSets.map .item)).2 := by
    refine whenOpen_keeps start (stageAll_keeps (fun offer member before next holding staged => ?_)
      0 start)
    obtain ⟨change, inside, rfl⟩ := List.mem_map.mp member
    cases staged
    exact kept.change change inside before holding
  exact andThen_keeps (entities builder start) fun _ first holding =>
    andThen_keeps (edges first holding) fun _ second holding =>
      andThen_keeps (changes second holding) fun _ _ holding => holding

/-- A run of batches keeps what all of its items keep, whatever fault ends it. -/
theorem putBatches_keeps {holds : Builder → Prop} {batches : List Batch}
    (kept : ∀ batch ∈ batches, KeptBy holds batch) {builder : Builder} (counts : StagedCounts)
    (ending : Option Fault) (start : holds builder) :
    holds (builder.putBatches counts ending batches).2 := by
  induction batches generalizing builder counts with
  | nil =>
      unfold putBatches
      cases ending <;> exact start
  | cons batch rest inductionHypothesis =>
      unfold putBatches
      exact andThen_keeps (putBatch_keeps (kept batch List.mem_cons_self) counts start)
        fun counts _ holding => inductionHypothesis
          (fun other member => kept other (List.mem_cons_of_mem _ member)) counts holding

/-- The records of a feed leave the settings of the builder alone. -/
theorem stageFeed_settings (vocabulary : Vocabulary) (builder : Builder) (size : Int)
    (feed : Feed) : SameSettings builder (builder.stageFeed vocabulary size feed).2 := by
  suffices kept : ∀ batch, KeptBy (SameSettings builder) batch from
    putBatches_keeps (fun batch _ => kept batch) _ _ (SameSettings.refl builder)
  refine fun batch => ⟨?_, ?_, ?_⟩
  · exact fun _ _ _ _ before staged => before.trans (stageEntity_settings staged)
  · exact fun _ _ _ _ before staged => before.trans (stageEdge_settings staged)
  · exact fun change _ between before => before.trans (stageChange_settings between change)

end CodeGraph.Builder

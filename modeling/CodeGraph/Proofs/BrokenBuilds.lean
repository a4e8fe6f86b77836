import CodeGraph.Proofs.FaultKinds
import CodeGraph.Proofs.FilledBatches
import CodeGraph.Proofs.IndexedSnapshot

/-!
This file says which defects end the building of a snapshot. The staging of converted records never
is a defect, so it is the first record that cannot be converted, the end of the feed, or the commit.
-/

namespace CodeGraph

/-- The fault is told to the caller as an answer. -/
def Fault.IsTold (fault : Fault) : Prop := fault.isDefect = false

open FailsWithin

namespace Builder

theorem stageEntity_told (builder : Builder) (entity : Entity) :
    FailsWithin Fault.IsTold (builder.stageEntity entity) := by
  unfold stageEntity
  split
  · split
    · exact ok _
    · exact error rfl
  · exact ok _

theorem stageEdge_told (builder : Builder) (edge : Edge) :
    FailsWithin Fault.IsTold (builder.stageEdge edge) := by
  unfold stageEdge
  split
  · split <;> exact ok _
  · exact error rfl

/-- Items that are staged one by one fail like the stages. -/
theorem stageAll_told {α : Type} {offer : Builder → Offer α → Outcome Builder}
    (each : ∀ builder value, FailsWithin Fault.IsTold (offer builder (.item value)))
    (builder : Builder) (values : List α) :
    FailsWithin Fault.IsTold
      (builder.whenOpen (stageAll offer builder 0 (values.map .item))).1 := by
  have staged (builder : Builder) (count : Nat) :
      FailsWithin Fault.IsTold (stageAll offer builder count (values.map .item)).1 := by
    induction values generalizing builder count with
    | nil => exact ok _
    | cons value rest inductionHypothesis =>
        rw [List.map_cons, stageAll]
        split
        · rename_i fault failed
          exact error (each builder value fault failed)
        · exact inductionHypothesis _ _
  unfold whenOpen
  split
  · exact error rfl
  · exact staged builder 0

theorem andThen_told {α β : Type} {first : Staging α} {next : α → Builder → Staging β}
    (former : FailsWithin Fault.IsTold first.1)
    (latter : ∀ value between, FailsWithin Fault.IsTold (next value between).1) :
    FailsWithin Fault.IsTold (andThen first next).1 := by
  rcases first with ⟨fault | value, between⟩
  · exact error (former fault rfl)
  · exact latter value between

/-- A batch of converted records is staged, or the caller is told why not. -/
theorem putBatch_told (builder : Builder) (counts : StagedCounts) (batch : Batch) :
    FailsWithin Fault.IsTold (builder.putBatch counts batch).1 :=
  andThen_told (stageAll_told stageEntity_told builder _) fun _ first =>
    andThen_told (stageAll_told stageEdge_told first _) fun _ second =>
      andThen_told (stageAll_told (fun _ _ => ok _) second _) fun _ _ => ok _

theorem putBatches_told (builder : Builder) (counts : StagedCounts) (batches : List Batch) :
    FailsWithin Fault.IsTold (builder.putBatches counts none batches).1 := by
  induction batches generalizing builder counts with
  | nil => exact ok _
  | cons batch rest inductionHypothesis =>
      exact andThen_told (putBatch_told builder counts batch) fun counts between =>
        inductionHypothesis between counts

/-- A commit of named edges and of entities whose paths can be shown breaks only over metadata
without a text, or over a generation that cannot be written. -/
theorem commit_failsWithin {builder : Builder} (named : ∀ edge ∈ builder.edges, edge.IsNamed)
    (shown : ∀ entity ∈ builder.materialized.rows, entity.filePath.CanBeShown) (now : String)
    (createdAt : Value) :
    FailsWithin (fun fault => fault.IsTold ∨
      (∃ entity ∈ builder.materialized.rows, entity.metadata.canonicalText = .error fault) ∨
      Decimal.isWritable builder.generation = false) (builder.commit now createdAt).1 := by
  have texts : FailsWithin
      (fun fault => ∃ entity ∈ builder.materialized.rows,
        entity.metadata.canonicalText = .error fault)
      (builder.materialized.rows.mapM Content.entityLine) := by
    apply FailsWithin.mapM
    intro entity member
    unfold Content.entityLine
    refine bind (fun fault failed => ⟨entity, member, failed⟩) fun metadata _ => ?_
    rw [Value.whenShown_of (shown entity member)]
    exact ok _
  have made : FailsWithin (fun fault => fault.IsTold ∨
      ∃ entity ∈ builder.materialized.rows, entity.metadata.canonicalText = .error fault)
      (builder.snapshot now createdAt) := by
    unfold snapshot
    split
    · split
      · rename_i fault failed
        cases (Edge.sort_named named).symm.trans failed
      · rename_i edges sorting
        have inOrder : ∀ edge ∈ edges, edge.IsNamed := fun edge member =>
          named edge (Edge.mem_of_mem_sort sorting member)
        unfold Content.identifier
        rw [Content.text_named inOrder]
        exact ((texts.mono fun _ => .inr).map _ |>.map _).map _
    · exact error (.inl rfl)
  rcases commit_cases builder now createdAt with
    ⟨-, ended⟩ | ⟨-, fault, failed, ended⟩ | ⟨-, -, snapshot, -, ended⟩ |
      ⟨-, unwritable, snapshot, -, ended⟩ <;> rw [ended]
  · exact error (.inl rfl)
  · exact error ((made fault failed).imp_right .inl)
  · exact ok _
  · exact error (.inr (.inr unwritable))

end Builder

namespace Delivery

variable {vocabulary : Vocabulary}

theorem areConverted_iff {deliveries : List Delivery} :
    AreConverted vocabulary deliveries ↔ ∃ items, AreConvertedTo vocabulary deliveries items := by
  constructor
  · intro all
    induction deliveries with
    | nil => exact ⟨[], .nil⟩
    | cons delivery rest inductionHypothesis =>
        obtain ⟨⟨item, first⟩, others⟩ := areConverted_cons.mp all
        obtain ⟨items, converted⟩ := inductionHypothesis others
        exact ⟨item :: items, .cons first converted⟩
  · rintro ⟨items, converted⟩ delivery member
    obtain ⟨item, -, same⟩ := Outcome.exists_of_forall₂ converted member
    exact ⟨item, same⟩

/-- All records are converted, or one of them is the first that is not. -/
theorem areConverted_or_fails (vocabulary : Vocabulary) (deliveries : List Delivery) :
    AreConverted vocabulary deliveries ∨
    ∃ earlier failing later fault, deliveries = earlier ++ failing :: later ∧
      AreConverted vocabulary earlier ∧ failing.convert vocabulary = .error fault := by
  induction deliveries with
  | nil => exact .inl fun _ member => absurd member List.not_mem_nil
  | cons delivery rest inductionHypothesis =>
      cases first : delivery.convert vocabulary with
      | error fault =>
          exact .inr ⟨[], delivery, rest, fault, rfl,
            fun _ member => absurd member List.not_mem_nil, first⟩
      | ok item =>
          rcases inductionHypothesis with
            others | ⟨earlier, failing, later, fault, rfl, front, failed⟩
          · exact .inl (areConverted_cons.mpr ⟨⟨item, first⟩, others⟩)
          · exact .inr ⟨delivery :: earlier, failing, later, fault, rfl,
              areConverted_cons.mpr ⟨⟨item, first⟩, front⟩, failed⟩

end Delivery

namespace Manager

variable {setting : Setting} {manager : Manager} {feed : Feed} {cause : Defect}

/-- What the records of a feed stage for the next snapshot. -/
def stage (setting : Setting) (manager : Manager) (feed : Feed) : Staging StagedCounts :=
  (Builder.create manager.nextGeneration true).stageFeed setting.vocabulary setting.batchSize feed

theorem build_eq (setting : Setting) (manager : Manager) (feed : Feed) :
    manager.build setting feed =
      (Builder.andThen (manager.stage setting feed) fun _ builder =>
        builder.commit setting.now .null).1 := rfl

/-- The records of all batches that the records fill. -/
def fullBatches (setting : Setting) (deliveries : List Delivery) : Feed :=
  ⟨deliveries.take
    (deliveries.length / setting.batchSize.toNat * setting.batchSize.toNat), none⟩

/-- The records are converted, and the batches that they fill are staged without a fault. -/
structure StagesFull (setting : Setting) (manager : Manager) (deliveries : List Delivery) :
    Prop where
  converted : Delivery.AreConverted setting.vocabulary deliveries
  staged : ∃ counts builder,
    manager.stage setting (fullBatches setting deliveries) = (.ok counts, builder)

/-- The defect is met first: at a record whose predecessors are all converted, at the end of the
feed, or when all is staged and committed. -/
inductive Breaks (setting : Setting) (manager : Manager) (feed : Feed) (cause : Defect) :
    Prop where
  | record {earlier later : List Delivery} {failing : Delivery}
      (split : feed.deliveries = earlier ++ failing :: later)
      (front : manager.StagesFull setting earlier)
      (failed : failing.convert setting.vocabulary = crash cause)
  | ending (front : manager.StagesFull setting feed.deliveries)
      (ended : feed.fault = some (.defect cause))
  | commit {counts : StagedCounts} {builder : Builder}
      (staged : manager.stage setting feed = (.ok counts, builder))
      (broken : (builder.commit setting.now .null).1 = crash cause)

section Staged

variable (positive : 0 < setting.batchSize) {earlier : List Delivery}
  (front : Delivery.AreConverted setting.vocabulary earlier)

include positive front

/-- Converted records are staged, or the caller is told why not. -/
theorem stage_told : FailsWithin Fault.IsTold (manager.stage setting ⟨earlier, none⟩).1 := by
  obtain ⟨items, converted⟩ := Delivery.areConverted_iff.mp front
  have size := Int.toNat_of_nonneg positive.le
  have room := Int.pos_iff_toNat_pos.mp positive
  have run := BatchRun.ofFeed_converted room converted
  rw [size] at run
  unfold stage Builder.stageFeed
  rw [run]
  exact Builder.putBatches_told _ _ _

/-- Only the commit of converted records can be a defect. -/
theorem commit_of_build (broken : manager.build setting ⟨earlier, none⟩ = crash cause) :
    ∃ counts builder, manager.stage setting ⟨earlier, none⟩ = (.ok counts, builder) ∧
      (builder.commit setting.now .null).1 = crash cause := by
  have told := @stage_told setting manager positive earlier front
  rw [build_eq] at broken
  cases staged : manager.stage setting ⟨earlier, none⟩ with
  | mk outcome builder =>
      rw [staged] at broken told
      cases outcome with
      | error rejection =>
          cases broken
          cases told _ rfl
      | ok counts => exact ⟨counts, builder, rfl, broken⟩

variable {later : List Delivery} {ending : Option Fault} {fault : Fault}
  (stops : ∀ pending, BatchRun.collect setting.vocabulary setting.batchSize.toNat pending ending
    later = BatchRun.failing fault)

include stops

/-- A fault behind converted records is met after the batches that these fill, unless one of the
batches is rejected. -/
theorem stage_stopped : manager.stage setting ⟨earlier ++ later, ending⟩ =
    Builder.andThen (manager.stage setting (fullBatches setting earlier))
      fun _ staged => (.error fault, staged) := by
  obtain ⟨items, converted⟩ := Delivery.areConverted_iff.mp front
  have size := Int.toNat_of_nonneg positive.le
  have room := Int.pos_iff_toNat_pos.mp positive
  have ends := (BatchRun.endsBehind_of_stop room converted stops).stageFeed
    (Builder.create manager.nextGeneration true) room converted
  rw [size] at ends
  exact ends

/-- A fault behind converted records is a defect of the building exactly if it is a defect itself
and the batches in front of it are staged. -/
theorem build_stopped_iff : manager.build setting ⟨earlier ++ later, ending⟩ = crash cause ↔
    manager.StagesFull setting earlier ∧ fault = .defect cause := by
  have told : FailsWithin Fault.IsTold
      (manager.stage setting (fullBatches setting earlier)).1 :=
    stage_told positive fun delivery member => front delivery (List.mem_of_mem_take member)
  rw [build_eq, stage_stopped positive front stops]
  cases staged : manager.stage setting (fullBatches setting earlier) with
  | mk outcome between =>
      rw [staged] at told
      cases outcome with
      | error rejection =>
          constructor
          · intro broken
            cases broken
            cases told _ rfl
          · rintro ⟨⟨-, counts, builder, reached⟩, -⟩
            cases staged.symm.trans reached
      | ok counts =>
          constructor
          · intro broken
            exact ⟨⟨front, counts, between, staged⟩, Except.error.inj broken⟩
          · rintro ⟨-, rfl⟩
            rfl

/-- No snapshot is built of records behind which a fault is met. -/
theorem build_stopped_ne_ok (snapshot : Snapshot) :
    manager.build setting ⟨earlier ++ later, ending⟩ ≠ .ok snapshot := by
  rw [build_eq, stage_stopped positive front stops]
  rcases manager.stage setting (fullBatches setting earlier) with ⟨rejection | counts, between⟩
  · exact nofun
  · exact nofun

omit stops

theorem build_ended_iff : manager.build setting ⟨earlier, some fault⟩ = crash cause ↔
    manager.StagesFull setting earlier ∧ fault = .defect cause := by
  have stopped := @build_stopped_iff setting manager cause positive earlier front [] (some fault)
    fault fun _ => rfl
  rwa [List.append_nil] at stopped

theorem build_ended_ne_ok (snapshot : Snapshot) :
    manager.build setting ⟨earlier, some fault⟩ ≠ .ok snapshot := by
  have stopped := @build_stopped_ne_ok setting manager positive earlier front [] (some fault)
    fault (fun _ => rfl) snapshot
  rwa [List.append_nil] at stopped

end Staged

/-- A snapshot is built only of a feed that comes to its end and whose records are all converted. -/
theorem converted_of_build (positive : 0 < setting.batchSize) {snapshot : Snapshot}
    (built : manager.build setting feed = .ok snapshot) :
    feed.fault = none ∧ Delivery.AreConverted setting.vocabulary feed.deliveries := by
  obtain ⟨deliveries, ending⟩ := feed
  rcases Delivery.areConverted_or_fails setting.vocabulary deliveries with
    front | ⟨earlier, failing, later, fault, rfl, front, failed⟩
  · refine ⟨?_, front⟩
    cases ending with
    | none => rfl
    | some fault => exact absurd built (build_ended_ne_ok positive front snapshot)
  · exact absurd built (build_stopped_ne_ok positive front
      (BatchRun.collect_of_failing failed later ending) snapshot)

/-- The building of a snapshot is a defect exactly if a defect is met first. -/
theorem build_eq_crash_iff (positive : 0 < setting.batchSize) :
    manager.build setting feed = crash cause ↔ manager.Breaks setting feed cause := by
  obtain ⟨deliveries, ending⟩ := feed
  constructor
  · intro broken
    rcases Delivery.areConverted_or_fails setting.vocabulary deliveries with
      front | ⟨earlier, failing, later, fault, rfl, front, failed⟩
    · cases ending with
      | some fault =>
          obtain ⟨full, rfl⟩ := (build_ended_iff positive front).mp broken
          exact .ending full rfl
      | none =>
          obtain ⟨counts, builder, staged, broken⟩ := commit_of_build positive front broken
          exact .commit staged broken
    · obtain ⟨full, rfl⟩ := (build_stopped_iff positive front
        (BatchRun.collect_of_failing failed later ending)).mp broken
      exact .record rfl full failed
  · intro breaks
    cases breaks with
    | record split front failed =>
        obtain rfl : deliveries = _ := split
        exact (build_stopped_iff positive front.converted
          (BatchRun.collect_of_failing failed _ ending)).mpr ⟨front, rfl⟩
    | ending front ended =>
        obtain rfl : ending = _ := ended
        exact (build_ended_iff positive front.converted).mpr ⟨front, rfl⟩
    | commit staged broken =>
        rw [build_eq, staged]
        exact broken

/-- Whatever breaks a building is a record that cannot be converted, the end of the feed, metadata
without a text, or a generation that cannot be written. -/
theorem Breaks.reason (breaks : manager.Breaks setting feed cause) :
    (∃ delivery ∈ feed.deliveries, delivery.convert setting.vocabulary = crash cause) ∨
    feed.fault = some (.defect cause) ∨
    (∃ delivery ∈ feed.deliveries, ∃ entity, delivery.GivesEntity setting.vocabulary entity ∧
      entity.metadata.canonicalText = crash cause) ∨
    Decimal.isWritable manager.nextGeneration = false := by
  cases breaks with
  | record split front failed =>
      exact .inl ⟨_, split ▸ List.mem_append_right _ List.mem_cons_self, failed⟩
  | ending front ended => exact .inr (.inl ended)
  | @commit counts builder staged broken =>
      have isFrom := Builder.stageFeed_isFrom setting.vocabulary manager.nextGeneration
        setting.batchSize true feed
      have settings := Builder.stageFeed_settings setting.vocabulary
        (Builder.create manager.nextGeneration true) setting.batchSize feed
      unfold stage at staged
      rw [staged] at isFrom settings
      have named : ∀ edge ∈ builder.edges, edge.IsNamed := fun edge member => by
        obtain ⟨delivery, -, converted⟩ := isFrom.edges edge member
        exact Edge.ofRecord_isNamed converted.2
      have shown : ∀ entity ∈ builder.materialized.rows, entity.filePath.CanBeShown := by
        intro entity member
        rcases Builder.mem_materialized_iff.mp member with row | ⟨-, -, -, -, same⟩
        · obtain ⟨delivery, -, converted⟩ := isFrom.entities entity row
          obtain ⟨path, same⟩ := (Entity.ofRecord_ok converted.2).1
          rw [same]
          exact Value.canBeShown_text path
        · rw [same]
          exact Value.canBeShown_text _
      rcases Builder.commit_failsWithin named shown _ _ _ broken with
        told | ⟨entity, member, failed⟩ | unwritable
      · cases told
      · rcases Builder.mem_materialized_iff.mp member with row | ⟨-, -, -, -, same⟩
        · obtain ⟨delivery, inside, converted⟩ := isFrom.entities entity row
          exact .inr (.inr (.inl ⟨delivery, inside, entity, converted, failed⟩))
        · -- A sentinel has no metadata, and no metadata have a text.
          rw [same] at failed
          cases failed
      · have generation : builder.generation = manager.nextGeneration := settings.generation
        rw [generation] at unwritable
        exact .inr (.inr (.inr unwritable))

end Manager

end CodeGraph

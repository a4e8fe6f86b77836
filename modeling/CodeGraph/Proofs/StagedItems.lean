import CodeGraph.Proofs.Delivered
import Mathlib.Data.Set.Insert

/-!
This file says that the batches of a feed stage the converted records one after the other. The size
of the batches decides only in which order they are staged.
-/

namespace CodeGraph

/-- What a record is converted to. -/
inductive Item where
  | entity (entity : Entity)
  | edge (edge : Edge)
  | change (change : ChangeSet)

namespace Delivery

/-- The item to which the record is converted. -/
def convert (vocabulary : Vocabulary) (delivery : Delivery) : Outcome Item :=
  (Batch.kindOf delivery.kind).bind fun kind =>
    match kind with
    | .entity => (Entity.ofRecord vocabulary delivery.record).map .entity
    | .edge => (Edge.ofRecord vocabulary delivery.record).map .edge
    | .changeSet => (ChangeSet.ofRecord delivery.record).map .change

/-- All records are converted. -/
def AreConverted (vocabulary : Vocabulary) (deliveries : List Delivery) : Prop :=
  ∀ delivery ∈ deliveries, ∃ item, delivery.convert vocabulary = .ok item

/-- The items to which the records are converted. -/
def items (vocabulary : Vocabulary) (deliveries : List Delivery) : Set Item :=
  {item | ∃ delivery ∈ deliveries, delivery.convert vocabulary = .ok item}

variable {vocabulary : Vocabulary} {delivery : Delivery}

/-- The record is delivered under the kind of the item, and it is converted to the item. -/
def Gives (vocabulary : Vocabulary) (delivery : Delivery) : Item → Prop
  | .entity entity => delivery.GivesEntity vocabulary entity
  | .edge edge => delivery.GivesEdge vocabulary edge
  | .change change => delivery.GivesChangeSet change

theorem convert_eq_ok_iff {item : Item} :
    delivery.convert vocabulary = .ok item ↔ delivery.Gives vocabulary item := by
  unfold convert
  cases known : Batch.kindOf delivery.kind with
  | error fault =>
      cases item <;> simp [Gives, GivesEntity, GivesEdge, GivesChangeSet, known, Except.bind]
  | ok kind =>
      cases kind <;> cases item <;>
        simp [Gives, GivesEntity, GivesEdge, GivesChangeSet, known, Except.bind,
          Outcome.map_ok_iff]

theorem areConverted_cons {rest : List Delivery} : AreConverted vocabulary (delivery :: rest) ↔
    (∃ item, delivery.convert vocabulary = .ok item) ∧ AreConverted vocabulary rest :=
  List.forall_mem_cons

theorem mem_items_cons {rest : List Delivery} {item : Item} :
    item ∈ items vocabulary (delivery :: rest) ↔
      delivery.convert vocabulary = .ok item ∨ item ∈ items vocabulary rest := by
  simp [items]

end Delivery

namespace Batch

variable {vocabulary : Vocabulary} {delivery : Delivery}

/-- The items of a batch in the order in which they are staged. -/
def items (batch : Batch) : List Item :=
  batch.entities.map .entity ++ (batch.edges.map .edge ++ batch.changeSets.map .change)

theorem length_items (batch : Batch) : batch.items.length = batch.size := by
  simp [items, size, Nat.add_assoc]

/-- The batch with one more item. -/
def push (batch : Batch) : Item → Batch
  | .entity entity => { batch with entities := batch.entities ++ [entity] }
  | .edge edge => { batch with edges := batch.edges ++ [edge] }
  | .change change => { batch with changeSets := batch.changeSets ++ [change] }

theorem mem_items_push {batch : Batch} {item other : Item} :
    other ∈ (batch.push item).items ↔ other ∈ batch.items ∨ other = item := by
  cases item <;> simp only [push, items, List.map_append, List.map_cons, List.map_nil,
    List.mem_append, List.mem_singleton] <;> tauto

/-- A delivered record joins the batch as the item to which it is converted. -/
theorem add_eq (batch : Batch) :
    batch.add vocabulary delivery = (delivery.convert vocabulary).map batch.push := by
  unfold add Delivery.convert
  cases kindOf delivery.kind with
  | error fault => rfl
  | ok kind =>
      cases kind with
      | entity => cases Entity.ofRecord vocabulary delivery.record <;> rfl
      | edge => cases Edge.ofRecord vocabulary delivery.record <;> rfl
      | changeSet => cases ChangeSet.ofRecord delivery.record <;> rfl

end Batch

namespace BatchRun

variable {vocabulary : Vocabulary}

/-- All items of a run in the order in which they are staged. -/
def items (run : BatchRun) : List Item := run.batches.flatMap Batch.items

/-- A run over a feed without a fault meets none exactly if all records are converted. Then it holds
what was pending and the items of the records. -/
theorem collect_items (limit : Nat) (pending : Batch) (rest : List Delivery) :
    ((collect vocabulary limit pending none rest).fault = none ↔
      Delivery.AreConverted vocabulary rest) ∧
    (Delivery.AreConverted vocabulary rest → ∀ item,
      item ∈ (collect vocabulary limit pending none rest).items ↔
        item ∈ pending.items ∨ item ∈ Delivery.items vocabulary rest) := by
  -- Where the limit is met the pending batch ends, and the induction goes on with an empty one.
  induction rest generalizing pending with
  | nil =>
      refine ⟨⟨fun _ _ member => absurd member List.not_mem_nil, fun _ => rfl⟩, fun _ item => ?_⟩
      unfold collect items
      dsimp only
      split
      · rename_i empty
        rw [← Batch.length_items, List.length_eq_zero_iff] at empty
        simp [empty, Delivery.items]
      · simp [Delivery.items]
  | cons delivery rest inductionHypothesis =>
      unfold collect
      rw [Batch.add_eq, Delivery.areConverted_cons]
      cases converted : delivery.convert vocabulary with
      | error fault => simp [Except.map, failing]
      | ok given =>
          simp only [Except.map, Except.ok.injEq, exists_eq', true_and, Delivery.mem_items_cons,
            converted]
          split
          · obtain ⟨faultless, held⟩ := inductionHypothesis Batch.empty
            refine ⟨faultless, fun all item => ?_⟩
            unfold items cons
            rw [List.flatMap_cons, List.mem_append, Batch.mem_items_push, ← items, held all]
            simp [Batch.empty, Batch.items, or_assoc, eq_comm]
          · obtain ⟨faultless, held⟩ := inductionHypothesis (pending.push given)
            refine ⟨faultless, fun all item => ?_⟩
            rw [held all, Batch.mem_items_push, or_assoc, eq_comm]

end BatchRun

namespace Builder

/-- One item is staged by the operation of its kind. -/
def stageItem (builder : Builder) : Item → Outcome Builder
  | .entity entity => builder.stageEntity entity
  | .edge edge => builder.stageEdge edge
  | .change change => .ok (builder.stageChange change)

/-- The items are staged one after the other. -/
def stageItems (builder : Builder) (items : List Item) : Outcome Builder :=
  items.foldlM stageItem builder

/-- The builder to which an operation leads that succeeds. -/
def outcome {α : Type} (staging : Staging α) : Outcome Builder :=
  staging.1.map fun _ => staging.2

theorem stageItems_append (builder : Builder) (first second : List Item) :
    builder.stageItems (first ++ second) =
      (builder.stageItems first).bind fun next => next.stageItems second :=
  List.foldlM_append

theorem stageItem_settings {builder next : Builder} {item : Item}
    (staged : builder.stageItem item = .ok next) : SameSettings builder next := by
  cases item with
  | entity entity => exact stageEntity_settings staged
  | edge edge => exact stageEdge_settings staged
  | change change =>
      cases staged
      exact stageChange_settings builder change

theorem stageItems_settings {builder next : Builder} {items : List Item}
    (staged : builder.stageItems items = .ok next) : SameSettings builder next := by
  induction items generalizing builder with
  | nil =>
      cases staged
      exact SameSettings.refl _
  | cons item rest inductionHypothesis =>
      obtain ⟨between, first, others⟩ := Outcome.bind_ok staged
      exact (stageItem_settings first).trans (inductionHypothesis others)

theorem outcome_stageAll {α : Type} {offer : Builder → Offer α → Outcome Builder} {wrap : α → Item}
    (same : ∀ builder value, offer builder (.item value) = stageItem builder (wrap value))
    (builder : Builder) (count : Nat) (values : List α) :
    outcome (stageAll offer builder count (values.map .item)) =
      builder.stageItems (values.map wrap) := by
  induction values generalizing builder count with
  | nil => rfl
  | cons value rest inductionHypothesis =>
      rw [List.map_cons, List.map_cons, stageAll, stageItems, List.foldlM_cons, same]
      cases builder.stageItem (wrap value) with
      | error fault => rfl
      | ok next => exact inductionHypothesis next (count + 1)

theorem whenOpen_of_open {α : Type} {builder : Builder} (opened : builder.committed = false)
    (operation : Staging α) : builder.whenOpen operation = operation := by
  rw [whenOpen, opened]
  rfl

/-- Two operations in turn stage the items of the first one and then those of the second one. -/
theorem outcome_andThen {α β : Type} {builder : Builder} {first : Staging α}
    {next : α → Builder → Staging β} {items more : List Item}
    (opened : builder.committed = false) (former : outcome first = builder.stageItems items)
    (latter : ∀ value between, between.committed = false →
      outcome (next value between) = between.stageItems more) :
    outcome (andThen first next) = builder.stageItems (items ++ more) := by
  rw [stageItems_append, ← former]
  rcases first with ⟨fault | value, between⟩
  · rfl
  · have staged : builder.stageItems items = .ok between := former.symm
    exact latter value between ((stageItems_settings staged).committed.trans opened)

theorem outcome_putBatch {builder : Builder} (opened : builder.committed = false)
    (counts : StagedCounts) (batch : Batch) :
    outcome (builder.putBatch counts batch) = builder.stageItems batch.items := by
  refine outcome_andThen opened ?_ fun _ between opened => outcome_andThen opened ?_
    fun _ between opened => ?_
  · rw [putEntities, whenOpen_of_open opened]
    exact outcome_stageAll (fun _ _ => rfl) builder 0 batch.entities
  · rw [putEdges, whenOpen_of_open opened]
    exact outcome_stageAll (fun _ _ => rfl) between 0 batch.edges
  · rw [← List.append_nil (batch.changeSets.map Item.change)]
    refine outcome_andThen opened ?_ fun _ _ _ => rfl
    rw [putChangeSets, whenOpen_of_open opened]
    exact outcome_stageAll (fun _ _ => rfl) between 0 batch.changeSets

theorem outcome_putBatches {builder : Builder} (opened : builder.committed = false)
    (counts : StagedCounts) (batches : List Batch) :
    outcome (builder.putBatches counts none batches) =
      builder.stageItems (batches.flatMap Batch.items) := by
  induction batches generalizing builder counts with
  | nil => rfl
  | cons batch rest inductionHypothesis =>
      rw [putBatches, List.flatMap_cons]
      exact outcome_andThen opened (outcome_putBatch opened counts batch)
        fun counts _ opened => inductionHypothesis opened counts

/-- A run that ends in a fault does not succeed. -/
theorem outcome_putBatches_fault (builder : Builder) (counts : StagedCounts) (fault : Fault)
    (batches : List Batch) (next : Builder) :
    outcome (builder.putBatches counts (some fault) batches) ≠ .ok next := by
  induction batches generalizing builder counts with
  | nil => exact fun reached => by cases reached
  | cons batch rest inductionHypothesis =>
      rw [putBatches]
      rcases builder.putBatch counts batch with ⟨failed | counts, between⟩
      · exact fun reached => by cases reached
      · exact inductionHypothesis between counts

/-- A feed is staged exactly if all of its records are converted and their items can be staged, in
an order that depends on the size of the batches. -/
theorem stageFeed_ok_iff (vocabulary : Vocabulary) {builder : Builder}
    (opened : builder.committed = false) {size : Int} (positive : 0 < size)
    (deliveries : List Delivery) :
    ∃ items : List Item, (Delivery.AreConverted vocabulary deliveries →
        {item | item ∈ items} = Delivery.items vocabulary deliveries) ∧
      ∀ next, outcome (builder.stageFeed vocabulary size ⟨deliveries, none⟩) = .ok next ↔
        Delivery.AreConverted vocabulary deliveries ∧ builder.stageItems items = .ok next := by
  have run : BatchRun.ofFeed vocabulary size ⟨deliveries, none⟩ =
      BatchRun.collect vocabulary size.toNat Batch.empty none deliveries := by
    rw [BatchRun.ofFeed, if_neg (Int.not_le.mpr positive)]
  obtain ⟨faultless, held⟩ := @BatchRun.collect_items vocabulary size.toNat Batch.empty deliveries
  refine ⟨(BatchRun.collect vocabulary size.toNat Batch.empty none deliveries).items,
    fun all => Set.ext fun item => ?_, fun next => ?_⟩
  · rw [Set.mem_ofPred_eq, held all]
    simp [Batch.empty, Batch.items]
  · unfold stageFeed
    rw [run, ← faultless]
    dsimp only
    cases ending : (BatchRun.collect vocabulary size.toNat Batch.empty none deliveries).fault with
    | none =>
        rw [outcome_putBatches opened]
        exact (and_iff_right rfl).symm
    | some fault =>
        exact ⟨fun reached => absurd reached (outcome_putBatches_fault _ _ _ _ _),
          fun reached => by cases reached.1⟩

end Builder

end CodeGraph

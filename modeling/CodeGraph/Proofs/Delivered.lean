import CodeGraph.Proofs.Outcomes
import CodeGraph.Proofs.Sorting
import CodeGraph.Proofs.Staging
import CodeGraph.Proofs.TableRows

/-!
This file says where the staged items of a feed come from: each of them was converted from a record
that the feed delivered.
-/

namespace CodeGraph

namespace Delivery

/-- The record is delivered as an entity, and it is converted to this one. -/
def GivesEntity (vocabulary : Vocabulary) (delivery : Delivery) (entity : Entity) : Prop :=
  Batch.kindOf delivery.kind = .ok .entity ∧
    Entity.ofRecord vocabulary delivery.record = .ok entity

/-- The record is delivered as an edge, and it is converted to this one. -/
def GivesEdge (vocabulary : Vocabulary) (delivery : Delivery) (edge : Edge) : Prop :=
  Batch.kindOf delivery.kind = .ok .edge ∧ Edge.ofRecord vocabulary delivery.record = .ok edge

/-- The record is delivered as a change set, and it is converted to this one. -/
def GivesChangeSet (delivery : Delivery) (change : ChangeSet) : Prop :=
  Batch.kindOf delivery.kind = .ok .changeSet ∧ ChangeSet.ofRecord delivery.record = .ok change

/-- The entity of a record joins the batch. -/
theorem GivesEntity.add {vocabulary : Vocabulary} {delivery : Delivery} {entity : Entity}
    (gives : delivery.GivesEntity vocabulary entity) (batch : Batch) :
    batch.add vocabulary delivery = .ok { batch with entities := batch.entities ++ [entity] } := by
  unfold Batch.add
  simp only [gives.1, gives.2, bind, Except.bind]
  rfl

end Delivery

/-- The items of the batch were converted from delivered records. -/
structure Batch.IsFrom (vocabulary : Vocabulary) (deliveries : List Delivery) (batch : Batch) :
    Prop where
  entities : ∀ entity ∈ batch.entities, ∃ delivery ∈ deliveries,
    delivery.GivesEntity vocabulary entity
  edges : ∀ edge ∈ batch.edges, ∃ delivery ∈ deliveries,
    delivery.GivesEdge vocabulary edge
  changeSets : ∀ change ∈ batch.changeSets, ∃ delivery ∈ deliveries,
    delivery.GivesChangeSet change

/-- The staged items were converted from delivered records. An edge that is staged names a relation,
and it is staged once. -/
structure Builder.IsFrom (vocabulary : Vocabulary) (deliveries : List Delivery)
    (builder : Builder) : Prop where
  entities : ∀ entity ∈ builder.entities.rows, ∃ delivery ∈ deliveries,
    delivery.GivesEntity vocabulary entity
  edges : ∀ edge ∈ builder.edges, ∃ delivery ∈ deliveries,
    delivery.GivesEdge vocabulary edge
  relations : ∀ edge ∈ builder.edges, edge.relation.toValue.isTruthy = true
  distinct : builder.edges.Nodup
  changeSets : ∀ change ∈ builder.changeSets.rows, ∃ delivery ∈ deliveries,
    delivery.GivesChangeSet change

/-- A record names a relation by a text. -/
theorem Edge.ofRecord_isNamed {vocabulary : Vocabulary} {record : Value} {edge : Edge}
    (converted : Edge.ofRecord vocabulary record = .ok edge) : edge.IsNamed := by
  unfold Edge.ofRecord at converted
  obtain ⟨fields, -, converted⟩ := Outcome.bind_ok converted
  obtain ⟨source, -, converted⟩ := Outcome.bind_ok converted
  obtain ⟨source, -, converted⟩ := Outcome.bind_ok converted
  obtain ⟨target, -, converted⟩ := Outcome.bind_ok converted
  obtain ⟨target, -, converted⟩ := Outcome.bind_ok converted
  rw [← Except.ok.inj (Value.whenShown_ok_iff.mp converted).2]
  exact ⟨_, rfl⟩

namespace Batch

variable {vocabulary : Vocabulary} {deliveries : List Delivery}

theorem empty_isFrom : empty.IsFrom vocabulary deliveries :=
  ⟨fun _ member => absurd member List.not_mem_nil, fun _ member => absurd member List.not_mem_nil,
    fun _ member => absurd member List.not_mem_nil⟩

/-- A batch that takes one more record still holds only what was delivered. -/
theorem IsFrom.add {batch filled : Batch} (isFrom : batch.IsFrom vocabulary deliveries)
    {delivery : Delivery} (delivered : delivery ∈ deliveries)
    (added : batch.add vocabulary delivery = .ok filled) :
    filled.IsFrom vocabulary deliveries := by
  unfold Batch.add at added
  obtain ⟨kind, known, added⟩ := Outcome.bind_ok added
  cases kind with
  | entity =>
      obtain ⟨entity, converted, added⟩ := Outcome.bind_ok added
      cases added
      have latest : ∃ delivery ∈ deliveries, delivery.GivesEntity vocabulary entity :=
        ⟨delivery, delivered, known, converted⟩
      exact { isFrom with
        entities := List.forall_mem_append.mpr
          ⟨isFrom.entities, List.forall_mem_singleton.mpr latest⟩ }
  | edge =>
      obtain ⟨edge, converted, added⟩ := Outcome.bind_ok added
      cases added
      have latest : ∃ delivery ∈ deliveries, delivery.GivesEdge vocabulary edge :=
        ⟨delivery, delivered, known, converted⟩
      exact { isFrom with
        edges := List.forall_mem_append.mpr
          ⟨isFrom.edges, List.forall_mem_singleton.mpr latest⟩ }
  | changeSet =>
      obtain ⟨change, converted, added⟩ := Outcome.bind_ok added
      cases added
      have latest : ∃ delivery ∈ deliveries, delivery.GivesChangeSet change :=
        ⟨delivery, delivered, known, converted⟩
      exact { isFrom with
        changeSets := List.forall_mem_append.mpr
          ⟨isFrom.changeSets, List.forall_mem_singleton.mpr latest⟩ }

end Batch

namespace BatchRun

variable {vocabulary : Vocabulary} {deliveries : List Delivery}

/-- All batches of a run hold only what was delivered. -/
theorem collect_isFrom {limit : Nat} {ending : Option Fault} {pending : Batch}
    (isFrom : pending.IsFrom vocabulary deliveries) {rest : List Delivery}
    (delivered : ∀ delivery ∈ rest, delivery ∈ deliveries) :
    ∀ batch ∈ (collect vocabulary limit pending ending rest).batches,
      batch.IsFrom vocabulary deliveries := by
  induction rest generalizing pending with
  | nil =>
      unfold collect
      cases ending with
      | some fault => exact fun batch member => absurd member List.not_mem_nil
      | none =>
          dsimp only
          split
          · exact fun batch member => absurd member List.not_mem_nil
          · intro batch member
            rw [List.mem_singleton.mp member]
            exact isFrom
  | cons delivery rest inductionHypothesis =>
      have behind : ∀ other ∈ rest, other ∈ deliveries := fun other member =>
        delivered other (List.mem_cons_of_mem _ member)
      unfold collect
      cases added : pending.add vocabulary delivery with
      | error fault => exact fun batch member => absurd member List.not_mem_nil
      | ok filled =>
          have filledFrom := isFrom.add (delivered delivery List.mem_cons_self) added
          dsimp only
          split
          · intro batch member
            rcases List.mem_cons.mp member with rfl | later
            · exact filledFrom
            · exact inductionHypothesis Batch.empty_isFrom behind batch later
          · exact inductionHypothesis filledFrom behind

theorem ofFeed_isFrom (vocabulary : Vocabulary) (size : Int) (feed : Feed) :
    ∀ batch ∈ (ofFeed vocabulary size feed).batches,
      batch.IsFrom vocabulary feed.deliveries := by
  unfold ofFeed
  split
  · exact fun batch member => absurd member List.not_mem_nil
  · exact collect_isFrom Batch.empty_isFrom fun _ member => member

end BatchRun

namespace Builder

variable {vocabulary : Vocabulary} {deliveries : List Delivery}

theorem create_isFrom (generation : Int) (external : Bool) :
    (create generation external).IsFrom vocabulary deliveries :=
  ⟨fun _ member => absurd member List.not_mem_nil, fun _ member => absurd member List.not_mem_nil,
    fun _ member => absurd member List.not_mem_nil, List.nodup_nil,
    fun _ member => absurd member List.not_mem_nil⟩

/-- A staged edge is a delivered one that names a relation and was not staged before. -/
theorem IsFrom.stageEdge {builder next : Builder} (isFrom : builder.IsFrom vocabulary deliveries)
    {edge : Edge} (delivered : ∃ delivery ∈ deliveries, delivery.GivesEdge vocabulary edge)
    (staged : builder.stageEdge edge = .ok next) : next.IsFrom vocabulary deliveries := by
  obtain ⟨filled, ⟨-, rfl⟩ | ⟨absent, rfl⟩⟩ := stageEdge_ok staged
  · exact isFrom
  · obtain ⟨delivery, inside, converted⟩ := delivered
    have named := Edge.ofRecord_isNamed converted.2
    have fresh : edge ∉ builder.edges := fun member => by
      have apart := List.any_eq_false.mp absent edge member
      exact apart ((Edge.agrees_iff named named).mpr rfl)
    refine { isFrom with
      edges := List.forall_mem_append.mpr
        ⟨isFrom.edges, List.forall_mem_singleton.mpr ⟨delivery, inside, converted⟩⟩
      relations := List.forall_mem_append.mpr
        ⟨isFrom.relations, List.forall_mem_singleton.mpr filled⟩
      distinct := List.nodup_append.mpr ⟨isFrom.distinct, by simp, ?_⟩ }
    intro first earlier second latest same
    rw [List.mem_singleton.mp latest] at same
    exact fresh (same ▸ earlier)

/-- Whatever a feed stages in a new builder was delivered by the feed. -/
theorem stageFeed_isFrom (vocabulary : Vocabulary) (generation size : Int) (external : Bool)
    (feed : Feed) :
    ((create generation external).stageFeed vocabulary size feed).2.IsFrom vocabulary
      feed.deliveries := by
  refine putBatches_keeps (fun batch member => ?_) _ _ (create_isFrom generation external)
  have batchFrom := BatchRun.ofFeed_isFrom vocabulary size feed batch member
  refine ⟨fun entity inside builder next isFrom staged => ?_,
    fun edge inside builder next isFrom staged => isFrom.stageEdge (batchFrom.edges edge inside)
      staged,
    fun change inside builder isFrom => ?_⟩
  · rw [stageEntity_ok staged]
    refine { isFrom with entities := fun other row => ?_ }
    rcases Table.mem_insertRow row with rfl | kept
    · exact batchFrom.entities other inside
    · exact isFrom.entities other kept
  · refine { isFrom with changeSets := fun other row => ?_ }
    rcases Table.mem_insertRow row with rfl | kept
    · exact batchFrom.changeSets other inside
    · exact isFrom.changeSets other kept

end Builder

end CodeGraph

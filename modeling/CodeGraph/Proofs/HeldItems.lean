import CodeGraph.Proofs.Agreement
import CodeGraph.Proofs.StagedItems

/-!
This file says which items can be staged together, and what a builder holds after it staged them.
Neither depends on the order of the items or on how often an item comes.
-/

namespace CodeGraph

namespace Item

/-- The entities are well formed, and the relations of the edges are texts. -/
structure AreWellFormed (given : Set Item) : Prop where
  entities : ∀ entity, .entity entity ∈ given → entity.IsWellFormed
  edges : ∀ edge, .edge edge ∈ given → edge.IsNamed

/-- Entities of one address agree, and every edge has a relation. -/
structure AreConsistent (given : Set Item) : Prop where
  entities : ∀ first second, .entity first ∈ given → .entity second ∈ given →
    first.address = second.address → first.agrees second = true
  relations : ∀ edge, .edge edge ∈ given → edge.relation.toValue.isTruthy = true

theorem AreWellFormed.mono {given more : Set Item} (wellFormed : AreWellFormed more)
    (within : given ⊆ more) : AreWellFormed given :=
  ⟨fun entity member => wellFormed.entities entity (within member),
    fun edge member => wellFormed.edges edge (within member)⟩

theorem AreConsistent.mono {given more : Set Item} (consistent : AreConsistent more)
    (within : given ⊆ more) : AreConsistent given :=
  ⟨fun first second member other => consistent.entities first second (within member) (within other),
    fun edge member => consistent.relations edge (within member)⟩

/-- The first item of a list may be given beforehand. -/
theorem union_cons (given : Set Item) (item : Item) (rest : List Item) :
    given ∪ {other | other ∈ item :: rest} = insert item given ∪ {other | other ∈ rest} := by
  ext other
  simp [or_left_comm, or_assoc]

end Item

namespace Builder

/-- The builder holds an agreeing entity for each given one, exactly the given edges, and a change
set for each given identifier. -/
structure Holds (builder : Builder) (given : Set Item) : Prop where
  entityGiven : ∀ entity ∈ builder.entities.rows, .entity entity ∈ given
  entityStaged : ∀ entity, .entity entity ∈ given →
    ∃ staged ∈ builder.entities.rows, staged.agrees entity = true
  edges : ∀ edge, edge ∈ builder.edges ↔ .edge edge ∈ given
  distinct : builder.edges.Nodup
  relations : ∀ edge ∈ builder.edges, edge.relation.toValue.isTruthy = true
  changeGiven : ∀ change ∈ builder.changeSets.rows, .change change ∈ given
  changeStaged : ∀ change, .change change ∈ given →
    ∃ staged ∈ builder.changeSets.rows, staged.id = change.id

/-- A new builder holds nothing. -/
theorem create_holds (generation : Int) (external : Bool) :
    (create generation external).Holds ∅ where
  entityGiven := fun _ member => absurd member List.not_mem_nil
  entityStaged := fun _ member => absurd member (Set.notMem_empty _)
  edges := fun _ => ⟨fun member => absurd member List.not_mem_nil,
    fun member => absurd member (Set.notMem_empty _)⟩
  distinct := List.nodup_nil
  relations := fun _ member => absurd member List.not_mem_nil
  changeGiven := fun _ member => absurd member List.not_mem_nil
  changeStaged := fun _ member => absurd member (Set.notMem_empty _)

namespace Holds

variable {builder next : Builder} {given : Set Item}

/-- The staged entity of an address agrees with every given one. -/
theorem agrees_of_address (holds : builder.Holds given) (wellFormed : Item.AreWellFormed given)
    {staged entity : Entity} (row : staged ∈ builder.entities.rows)
    (member : .entity entity ∈ given) (same : staged.address = entity.address) :
    staged.agrees entity = true := by
  obtain ⟨other, otherRow, agreeing⟩ := holds.entityStaged entity member
  have address := ((Entity.agrees_iff (wellFormed.entities _ (holds.entityGiven _ otherRow)).path
    (wellFormed.entities _ member).path).mp agreeing).1
  have key : other.key = staged.key := congrArg Address.text (address.trans same.symm)
  rw [← Table.row_unique builder.entities.increasing otherRow row key]
  exact agreeing

/-- What a builder holds is consistent. -/
theorem consistent (holds : builder.Holds given) (wellFormed : Item.AreWellFormed given) :
    Item.AreConsistent given := by
  refine ⟨fun first second firstMember secondMember same => ?_,
    fun edge member => holds.relations edge ((holds.edges edge).mpr member)⟩
  obtain ⟨staged, row, agreeing⟩ := holds.entityStaged first firstMember
  have stagedFormed := wellFormed.entities _ (holds.entityGiven _ row)
  have firstFormed := wellFormed.entities _ firstMember
  have secondFormed := wellFormed.entities _ secondMember
  have address := ((Entity.agrees_iff stagedFormed.path firstFormed.path).mp agreeing).1
  exact firstFormed.agrees_trans stagedFormed secondFormed
    (stagedFormed.agrees_symm firstFormed agreeing)
    (holds.agrees_of_address wellFormed row secondMember (address.trans same))

/-- A staged entity takes the place of the one with which it agrees. -/
theorem stageEntity (holds : builder.Holds given) {entity : Entity}
    (wellFormed : Item.AreWellFormed (insert (.entity entity) given))
    (staged : builder.stageEntity entity = .ok next) :
    next.Holds (insert (.entity entity) given) := by
  obtain ⟨agreeing, rfl⟩ := stageEntity_ok_iff.mp staged
  have formed := wellFormed.entities entity (Set.mem_insert _ _)
  have givenFormed := wellFormed.mono (Set.subset_insert _ _)
  have here : entity ∈ (builder.entities.insert entity).rows :=
    Table.mem_insertRow_self entity builder.entities.rows
  refine ⟨fun other row => ?_, fun other member => ?_, fun edge => ?_, holds.distinct,
    holds.relations, fun change row => ?_, fun change member => ?_⟩
  · rcases Table.mem_insertRow row with rfl | kept
    · exact Set.mem_insert _ _
    · exact Set.mem_insert_of_mem _ (holds.entityGiven other kept)
  · rcases Set.mem_insert_iff.mp member with same | before
    · cases same
      exact ⟨entity, here, formed.agrees_refl⟩
    · obtain ⟨old, row, agreeingOld⟩ := holds.entityStaged other before
      -- The new entity agrees with the one that it replaces, and so with all that agreed with it.
      by_cases replaced : entity.key = old.key
      · have oldFormed := givenFormed.entities _ (holds.entityGiven _ row)
        have otherFormed := givenFormed.entities _ before
        have taken := agreeing old (Table.find?_eq_some_iff.mpr ⟨row, replaced.symm⟩)
        exact ⟨entity, here, formed.agrees_trans oldFormed otherFormed
          (oldFormed.agrees_symm formed taken) agreeingOld⟩
      · exact ⟨old, Table.mem_insertRow_of_ne row replaced, agreeingOld⟩
  · exact (holds.edges edge).trans (by simp)
  · exact Set.mem_insert_of_mem _ (holds.changeGiven change row)
  · exact holds.changeStaged change (by simpa using member)

/-- A staged edge is one more edge or one that was there. -/
theorem stageEdge (holds : builder.Holds given) {edge : Edge}
    (wellFormed : Item.AreWellFormed (insert (.edge edge) given))
    (staged : builder.stageEdge edge = .ok next) : next.Holds (insert (.edge edge) given) := by
  have named := wellFormed.edges edge (Set.mem_insert _ _)
  have present : builder.edges.any edge.agrees = true ↔ edge ∈ builder.edges := by
    rw [List.any_eq_true]
    constructor
    · rintro ⟨other, member, agreeing⟩
      have otherNamed := wellFormed.edges other
        (Set.mem_insert_of_mem _ ((holds.edges other).mp member))
      rw [(Edge.agrees_iff named otherNamed).mp agreeing]
      exact member
    · exact fun member => ⟨edge, member, (Edge.agrees_iff named named).mpr rfl⟩
  obtain ⟨related, ⟨old, rfl⟩ | ⟨fresh, rfl⟩⟩ := stageEdge_ok staged
  · rw [Set.insert_eq_of_mem ((holds.edges edge).mp (present.mp old))]
    exact holds
  · have absent : edge ∉ builder.edges := fun member => by
      rw [present.mpr member] at fresh
      cases fresh
    refine ⟨fun entity row => Set.mem_insert_of_mem _ (holds.entityGiven entity row),
      fun entity member => holds.entityStaged entity (by simpa using member), fun other => ?_,
      ?_, List.forall_mem_append.mpr ⟨holds.relations, List.forall_mem_singleton.mpr related⟩,
      fun change row => Set.mem_insert_of_mem _ (holds.changeGiven change row),
      fun change member => holds.changeStaged change (by simpa using member)⟩
    · rw [List.mem_append, List.mem_singleton, holds.edges, Set.mem_insert_iff, Item.edge.injEq,
        or_comm]
    · exact List.nodup_append.mpr ⟨holds.distinct, List.nodup_singleton edge,
        fun first earlier second latest same =>
          absent (List.mem_singleton.mp latest ▸ same ▸ earlier)⟩

/-- A staged change set takes the place of the one with its identifier. -/
theorem stageChange (holds : builder.Holds given) (change : ChangeSet) :
    (builder.stageChange change).Holds (insert (.change change) given) := by
  have here : change ∈ (builder.changeSets.insert change).rows :=
    Table.mem_insertRow_self change builder.changeSets.rows
  refine ⟨fun entity row => Set.mem_insert_of_mem _ (holds.entityGiven entity row),
    fun entity member => holds.entityStaged entity (by simpa using member),
    fun edge => (holds.edges edge).trans (by simp), holds.distinct, holds.relations,
    fun other row => ?_, fun other member => ?_⟩
  · rcases Table.mem_insertRow row with rfl | kept
    · exact Set.mem_insert _ _
    · exact Set.mem_insert_of_mem _ (holds.changeGiven other kept)
  · rcases Set.mem_insert_iff.mp member with same | before
    · cases same
      exact ⟨change, here, rfl⟩
    · obtain ⟨old, row, named⟩ := holds.changeStaged other before
      by_cases replaced : change.id = old.id
      · exact ⟨change, here, replaced.trans named⟩
      · exact ⟨old, Table.mem_insertRow_of_ne row replaced, named⟩

theorem stageItem (holds : builder.Holds given) {item : Item}
    (wellFormed : Item.AreWellFormed (insert item given))
    (staged : builder.stageItem item = .ok next) : next.Holds (insert item given) := by
  cases item with
  | entity entity => exact holds.stageEntity wellFormed staged
  | edge edge => exact holds.stageEdge wellFormed staged
  | change change =>
      cases staged
      exact holds.stageChange change

/-- An item can be staged that is consistent with what the builder holds. -/
theorem exists_stageItem (holds : builder.Holds given) {item : Item}
    (wellFormed : Item.AreWellFormed (insert item given))
    (consistent : Item.AreConsistent (insert item given)) :
    ∃ next, builder.stageItem item = .ok next := by
  cases item with
  | entity entity =>
      refine ⟨_, stageEntity_ok_iff.mpr ⟨fun staged found => ?_, rfl⟩⟩
      obtain ⟨row, named⟩ := Table.find?_eq_some_iff.mp found
      exact consistent.entities staged entity
        (Set.mem_insert_of_mem _ (holds.entityGiven staged row)) (Set.mem_insert _ _)
        (Address.text_injective named)
  | edge edge => exact builder.exists_stageEdge (consistent.relations edge (Set.mem_insert _ _))
  | change change => exact ⟨_, rfl⟩

/-- After a run the builder holds the items of the run as well. -/
theorem stageItems (holds : builder.Holds given) {items : List Item}
    (wellFormed : Item.AreWellFormed (given ∪ {item | item ∈ items}))
    (staged : builder.stageItems items = .ok next) :
    next.Holds (given ∪ {item | item ∈ items}) := by
  induction items generalizing builder given with
  | nil =>
      cases staged
      simpa using holds
  | cons item rest inductionHypothesis =>
      obtain ⟨between, first, others⟩ := Outcome.bind_ok staged
      rw [Item.union_cons] at wellFormed ⊢
      exact inductionHypothesis (holds.stageItem (wellFormed.mono Set.subset_union_left) first)
        wellFormed others

/-- A run of items succeeds that are consistent with what the builder holds. -/
theorem exists_stageItems (holds : builder.Holds given) {items : List Item}
    (wellFormed : Item.AreWellFormed (given ∪ {item | item ∈ items}))
    (consistent : Item.AreConsistent (given ∪ {item | item ∈ items})) :
    ∃ next, builder.stageItems items = .ok next := by
  induction items generalizing builder given with
  | nil => exact ⟨builder, rfl⟩
  | cons item rest inductionHypothesis =>
      rw [Item.union_cons] at wellFormed consistent
      have itemFormed := wellFormed.mono Set.subset_union_left
      obtain ⟨between, first⟩ :=
        holds.exists_stageItem itemFormed (consistent.mono Set.subset_union_left)
      obtain ⟨next, others⟩ :=
        inductionHypothesis (holds.stageItem itemFormed first) wellFormed consistent
      refine ⟨next, ?_⟩
      rw [Builder.stageItems, List.foldlM_cons, first]
      exact others

end Holds

section Create

variable {items : List Item} {generation : Int} {external : Bool}

/-- A new builder that staged items holds exactly these. -/
theorem create_stageItems_holds (wellFormed : Item.AreWellFormed {item | item ∈ items})
    {next : Builder} (staged : (create generation external).stageItems items = .ok next) :
    next.Holds {item | item ∈ items} := by
  rw [← Set.empty_union {item | item ∈ items}] at wellFormed ⊢
  exact (create_holds generation external).stageItems wellFormed staged

/-- Items can be staged in a new builder exactly if they are consistent. -/
theorem create_stageItems_iff (wellFormed : Item.AreWellFormed {item | item ∈ items}) :
    (∃ next, (create generation external).stageItems items = .ok next) ↔
      Item.AreConsistent {item | item ∈ items} := by
  constructor
  · rintro ⟨next, staged⟩
    exact (create_stageItems_holds wellFormed staged).consistent wellFormed
  · intro consistent
    rw [← Set.empty_union {item | item ∈ items}] at wellFormed consistent
    exact (create_holds generation external).exists_stageItems wellFormed consistent

end Create

end Builder

end CodeGraph

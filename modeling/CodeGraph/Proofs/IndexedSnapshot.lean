import CodeGraph.Manager
import CodeGraph.Proofs.ConvertedItems
import CodeGraph.Proofs.Delivered
import CodeGraph.Proofs.StoredSnapshot

/-!
This file says what the snapshot of a feed is like when all records of the feed are well formed.
-/

namespace CodeGraph

/-- All delivered records are well formed. -/
def Feed.IsWellFormed (feed : Feed) : Prop :=
  ∀ delivery ∈ feed.deliveries, delivery.record.IsWellFormed

namespace Content

/-- A snapshot has an identifier only if all its metadata can be written. -/
theorem writable_of_identifier {entities : List Entity} {edges : List Edge}
    {changes : List ChangeSet} {id : String}
    (identified : identifier entities edges changes = .ok id) :
    ∀ entity ∈ entities, entity.metadata.writeDefect? = none := by
  intro entity member
  obtain ⟨text, made, -⟩ := Outcome.map_ok identified
  obtain ⟨lines, made, -⟩ := text_ok_iff.mp made
  obtain ⟨line, -, made⟩ := Outcome.exists_of_forall₂ (Outcome.mapM_ok made) member
  obtain ⟨metadata, made, -⟩ := entityLine_ok_iff.mp made
  obtain ⟨entries, -, made⟩ := Outcome.bind_ok made
  split at made
  · cases made
  · rename_i none
    exact none

end Content

namespace Manager

variable {setting : Setting} {feed : Feed} {manager : Manager} {snapshot : Snapshot}

/-- A snapshot that is built shows what the feed delivered. -/
theorem build_ok (built : manager.build setting feed = .ok snapshot) :
    ∃ builder : Builder, builder.IsFrom setting.vocabulary feed.deliveries ∧
      Decimal.isWritable snapshot.generation = true ∧
      builder.Shows setting.now .null snapshot := by
  have isFrom := Builder.stageFeed_isFrom setting.vocabulary manager.nextGeneration
    setting.batchSize true feed
  unfold build at built
  dsimp only at built
  generalize (Builder.create manager.nextGeneration true).stageFeed setting.vocabulary
    setting.batchSize feed = staged at built isFrom
  rcases staged with ⟨fault | counts, builder⟩
  · cases built
  · obtain ⟨-, writable, shown, -⟩ := Builder.commit_ok built
    exact ⟨builder, isFrom, writable, shown⟩

/-- The edges of a snapshot that is built were delivered, and they stand in increasing order. -/
theorem build_edges {builder : Builder}
    (isFrom : builder.IsFrom setting.vocabulary feed.deliveries)
    (shown : builder.Shows setting.now .null snapshot) :
    (snapshot.edges.Pairwise fun first second => first.precedes second = true) ∧
      ∀ edge ∈ snapshot.edges, ∃ relation, edge.relation = .text relation ∧ relation ≠ "" := by
  have named : ∀ edge ∈ builder.edges, edge.IsNamed := fun edge member => by
    obtain ⟨delivery, -, converted⟩ := isFrom.edges edge member
    exact Edge.ofRecord_isNamed converted.2
  have sorted := shown.sorted
  rw [Edge.sort_named named, Except.ok.injEq] at sorted
  rw [← sorted]
  refine ⟨Order.sort_increasing Edge.precedes_strict named isFrom.distinct, ?_⟩
  intro edge member
  have staged := Order.mem_sort.mp member
  obtain ⟨relation, same⟩ := named edge staged
  refine ⟨relation, same, ?_⟩
  have filled := isFrom.relations edge staged
  rw [same] at filled
  simpa [Atom.toValue, Value.isTruthy] using filled

/-- An entity of a snapshot that is built was delivered, or it is a sentinel. -/
theorem build_entities {builder : Builder}
    (isFrom : builder.IsFrom setting.vocabulary feed.deliveries)
    (shown : builder.Shows setting.now .null snapshot) :
    ∀ entity ∈ snapshot.entities.rows,
      (∃ delivery ∈ feed.deliveries, delivery.GivesEntity setting.vocabulary entity) ∨
      (entity.isExternal = true ∧ entity = Entity.sentinel entity.address) := by
  intro entity member
  rw [shown.entities] at member
  rcases Builder.mem_materialized_iff.mp member with staged | ⟨-, -, outside, -, same⟩
  · exact Or.inl (isFrom.entities entity staged)
  · exact Or.inr ⟨outside, same⟩

/-- The snapshot of well-formed records is sound. -/
theorem build_isSound (wellFormed : feed.IsWellFormed) (stamped : setting.now ≠ "")
    (built : manager.build setting feed = .ok snapshot) : snapshot.IsSound := by
  obtain ⟨builder, isFrom, writable, shown⟩ := build_ok built
  have items : ∀ entity ∈ snapshot.entities.rows,
      (∃ path, entity.filePath = .text path) ∧ entity.metadata.IsWellFormed := by
    intro entity member
    rcases build_entities isFrom shown entity member with ⟨delivery, inside, converted⟩ | ⟨-, same⟩
    · exact ⟨(Entity.ofRecord_ok converted.2).1,
        Entity.ofRecord_isWellFormed (wellFormed delivery inside) converted.2⟩
    · rw [same]
      exact ⟨⟨_, rfl⟩, Metadata.empty_isWellFormed⟩
  obtain ⟨increasing, relations⟩ := build_edges isFrom shown
  refine {
    paths := fun entity member => (items entity member).1
    metadata := fun entity member => (items entity member).2
    writable := Content.writable_of_identifier shown.identified
    relations := relations
    increasing := increasing
    files := fun change member => ?_
    identified := shown.identified
    createdAt := ⟨setting.now, shown.createdAt, stamped⟩
    generation := writable }
  rw [shown.changeSets] at member
  obtain ⟨delivery, -, converted⟩ := isFrom.changeSets change member
  exact ChangeSet.ofRecord_ok converted.2

end Manager

theorem Location.lastLine_external {location : Location} (outside : location.isExternal = true) :
    location.lastLine = 0 := by
  cases location with
  | source place => cases outside
  | external => rfl

/-- What the record is converted to can be stored: an entity has line numbers of at most ten digits,
texts for the names of its metadata, and metadata that nest no deeper than what is read again, and
the paths of a change set stay as they are when they are brought into normal form once more. -/
structure Delivery.IsStorable (vocabulary : Vocabulary) (delivery : Delivery) : Prop where
  lines : ∀ entity, delivery.GivesEntity vocabulary entity → entity.lastLine < 10 ^ 10
  named : ∀ entity, delivery.GivesEntity vocabulary entity → entity.metadata.IsNamed
  readable : ∀ entity, delivery.GivesEntity vocabulary entity →
    entity.metadata.toValue.IsWritable (Json.nestingLimit - 3)
  fixed : ∀ change, delivery.GivesChangeSet change →
    ∀ path ∈ change.files.rows, FilePath.normalize (.text path) = .ok path

/-- The snapshot of storable records is durable. -/
theorem Manager.build_isDurable {setting : Setting} {feed : Feed} {manager : Manager}
    {snapshot : Snapshot}
    (storable : ∀ delivery ∈ feed.deliveries, delivery.IsStorable setting.vocabulary)
    (built : manager.build setting feed = .ok snapshot) : snapshot.IsDurable := by
  obtain ⟨builder, isFrom, -, shown⟩ := build_ok built
  have entities := build_entities isFrom shown
  refine ⟨⟨fun entity member => ?_, fun entity member => ?_, fun change member => ?_⟩,
    fun entity member => ?_⟩
  · rcases entities entity member with ⟨delivery, inside, converted⟩ | ⟨outside, -⟩
    · exact (storable delivery inside).lines entity converted
    · rw [Entity.lastLine, Location.lastLine_external outside]
      decide
  · rcases entities entity member with ⟨delivery, inside, converted⟩ | ⟨-, same⟩
    · exact (storable delivery inside).named entity converted
    · rw [same]
      exact Metadata.empty_serialisable.named
  · rw [shown.changeSets] at member
    obtain ⟨delivery, inside, converted⟩ := isFrom.changeSets change member
    exact (storable delivery inside).fixed change converted
  · rcases entities entity member with ⟨delivery, inside, converted⟩ | ⟨-, same⟩
    · exact (storable delivery inside).readable entity converted
    · rw [same]
      exact ⟨rfl⟩

end CodeGraph

import CodeGraph.Proofs.BuilderHistory

/-!
This file judges the commit of a builder by the items that it has accepted: when it succeeds, what
its snapshot shows, and that a commit that fails leaves no trace.
-/

namespace CodeGraph

/-- The order of edges by source, then by target, then by the text of the relation. -/
def Edge.IsBefore (first second : Edge) : Prop :=
  first.source.text < second.source.text ∨
    (first.source = second.source ∧ (first.target.text < second.target.text ∨
      (first.target = second.target ∧ ∃ firstRelation secondRelation,
        first.relation = .text firstRelation ∧ second.relation = .text secondRelation ∧
          firstRelation < secondRelation)))

theorem Edge.isBefore_of_precedes {first second : Edge} (firstNamed : first.IsNamed)
    (secondNamed : second.IsNamed) (smaller : first.precedes second = true) :
    first.IsBefore second := by
  obtain ⟨firstRelation, firstText⟩ := firstNamed
  obtain ⟨secondRelation, secondText⟩ := secondNamed
  rcases precedes_iff.mp smaller with less | ⟨sources, less | ⟨targets, less⟩⟩
  · exact Or.inl less
  · exact Or.inr ⟨sources, Or.inl less⟩
  · rw [firstText, secondText, Atom.text_precedes_iff] at less
    exact Or.inr ⟨sources, Or.inr ⟨targets, _, _, firstText, secondText, less⟩⟩

namespace BuilderHistory

/-- The entity stands for an external end of an accepted edge whose address no accepted entity
has. -/
structure IsSentinel (history : BuilderHistory) (external : Bool) (entity : Entity) : Prop where
  materialized : external = true
  outside : entity.address.isExternal = true
  endpoint : ∃ edge ∈ history.edges, entity.address = edge.source ∨ entity.address = edge.target
  unstaged : ∀ staged ∈ history.entities, staged.address ≠ entity.address
  empty : entity = ⟨entity.address, .text FilePath.unknown, Metadata.empty⟩

/-- The snapshot shows what was accepted: the latest entity of each key with the sentinels, each
edge once and in order, and the latest change set of each identifier in order. -/
structure Shows (history : BuilderHistory) (external : Bool) (snapshot : Snapshot) : Prop where
  entities : ∀ entity, entity ∈ snapshot.entities.rows ↔
    Table.latest? Entity.key entity.key history.entities = some entity ∨
      history.IsSentinel external entity
  keysIncrease : snapshot.entities.rows.Pairwise fun first second => first.key < second.key
  ends : ∀ edge ∈ snapshot.edges,
    (∃ entity ∈ snapshot.entities.rows, entity.address = edge.source) ∧
    ∃ entity ∈ snapshot.entities.rows, entity.address = edge.target
  edges : ∀ edge, edge ∈ snapshot.edges ↔ edge ∈ history.edges
  edgesIncrease : snapshot.edges.Pairwise Edge.IsBefore
  changeSets : ∀ change, change ∈ snapshot.changeSets.rows ↔
    Table.latest? ChangeSet.id change.id history.changeSets = some change
  changesIncrease : snapshot.changeSets.rows.Pairwise fun first second => first.id < second.id

theorem IsRecorded.mem_endpoints_iff {history : BuilderHistory} (recorded : history.IsRecorded)
    {address : Address} : address ∈ Builder.endpoints history.builder.edges ↔
      ∃ edge ∈ history.edges, address = edge.source ∨ address = edge.target := by
  unfold Builder.endpoints
  simp only [List.mem_flatMap, List.mem_cons, List.not_mem_nil, or_false, recorded.edges]

theorem IsRecorded.contains_iff {history : BuilderHistory} (recorded : history.IsRecorded)
    {address : Address} : history.builder.entities.contains address.text = true ↔
      ∃ entity ∈ history.entities, entity.address = address := by
  unfold Table.contains
  rw [recorded.entities, Table.latest?_isSome_iff]
  simp only [Entity.key, Address.text_eq_iff]

theorem IsRecorded.isSentinel_iff {history : BuilderHistory} (recorded : history.IsRecorded)
    {entity : Entity} : history.builder.IsSentinel entity ↔
      history.IsSentinel history.builder.materializeExternal entity := by
  have unstaged : history.builder.entities.contains entity.key = false ↔
      ∀ staged ∈ history.entities, staged.address ≠ entity.address := by
    rw [Bool.eq_false_iff, ne_eq, Entity.key, recorded.contains_iff]
    constructor
    · intro none staged member same
      exact none ⟨staged, member, same⟩
    · rintro apart ⟨staged, member, same⟩
      exact apart staged member same
  unfold Builder.IsSentinel
  rw [recorded.mem_endpoints_iff, unstaged]
  constructor
  · rintro ⟨materialized, endpoint, outside, fresh, empty⟩
    exact ⟨materialized, outside, endpoint, fresh, empty⟩
  · rintro ⟨materialized, outside, endpoint, fresh, empty⟩
    exact ⟨materialized, endpoint, outside, fresh, empty⟩

theorem IsRecorded.committable {history : BuilderHistory} (recorded : history.IsRecorded)
    (writable : Decimal.isWritable history.builder.generation = true) :
    history.builder.IsCommittable where
  generation := writable
  serialisable := fun entity member => by
    have found := recorded.entities entity.key
    rw [Table.mem_rows_iff.mp member] at found
    exact recorded.serialisable entity (Table.latest?_eq_some found.symm).1
  named := fun edge member => recorded.named edge ((recorded.edges edge).mp member)
  distinct := recorded.distinct

/-- A snapshot that shows the staged data shows what was accepted. -/
theorem IsRecorded.shows {history : BuilderHistory} (recorded : history.IsRecorded)
    (writable : Decimal.isWritable history.builder.generation = true) {now : String}
    {createdAt : Value} {snapshot : Snapshot}
    (shown : history.builder.Shows now createdAt snapshot) :
    history.Shows history.builder.materializeExternal snapshot where
  entities := fun entity => by
    rw [shown.entities, Builder.mem_materialized_iff, recorded.isSentinel_iff,
      Table.mem_rows_iff, recorded.entities]
  keysIncrease := snapshot.entities.increasing
  ends := fun _ member => Snapshot.entity_of_endpoint member
  edges := fun edge => by
    rw [(shown.edges_increasing (recorded.committable writable)).2, recorded.edges]
  edgesIncrease := by
    obtain ⟨increasing, members⟩ := shown.edges_increasing (recorded.committable writable)
    have named (edge : Edge) (member : edge ∈ snapshot.edges) : edge.IsNamed :=
      recorded.named edge ((recorded.edges edge).mp ((members edge).mp member))
    exact increasing.imp_of_mem fun first second smaller =>
      Edge.isBefore_of_precedes (named _ first) (named _ second) smaller
  changeSets := fun change => by
    rw [shown.changeSets, Table.mem_rows_iff, recorded.changeSets]
  changesIncrease := snapshot.changeSets.increasing

theorem run_append (history : BuilderHistory) (calls more : List BuilderCall) :
    history.run (calls ++ more) = (history.run calls).run more :=
  List.foldl_append

end BuilderHistory

end CodeGraph

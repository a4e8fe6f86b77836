import CodeGraph.Proofs.Commit
import CodeGraph.Proofs.Outcomes
import CodeGraph.Proofs.Sorting
import CodeGraph.Proofs.TableRows
import CodeGraph.Proofs.WriteLimits

/-!
This file says when a commit succeeds: every end of a staged edge is a staged entity, or a sentinel
is made for it. The staged data must be such that they can be hashed and sorted.
-/

namespace CodeGraph

/-- Names that are texts are in one order. -/
theorem NameOrder.sort_of_texts {α : Type} {entries : List (Atom × α)}
    (texts : ∀ entry ∈ entries, entry.1.isText = true) :
    sort entries = .ok (Order.sort (fun first second => first.1.lt second.1) entries) := by
  have all : (entries.map Prod.fst).all Atom.isText = true := by
    rw [List.all_map]
    exact List.all_eq_true.mpr texts
  have ordered : Atom.inOneOrder (entries.map Prod.fst) = true := by
    rw [Atom.inOneOrder, all, Bool.true_or]
  exact if_pos ordered

namespace Metadata

/-- The names of all entries are texts. -/
def IsNamed (metadata : Metadata) : Prop := ∀ entry ∈ metadata.entries, entry.1.isText = true

/-- A name that is a text is the name of the field that it is written as. -/
theorem IsNamed.text_fieldName {metadata : Metadata} (named : metadata.IsNamed)
    {entry : Atom × Value} (member : entry ∈ metadata.entries) :
    Atom.text entry.1.fieldName = entry.1 := by
  have isText := named entry member
  obtain ⟨name, value⟩ := entry
  cases name with
  | text name => rfl
  | _ => cases isText

/-- Entries with texts for names are given by the fields that they are written as. -/
theorem IsNamed.entries_eq {metadata : Metadata} (named : metadata.IsNamed) :
    (metadata.entries.map fun entry => (entry.1.fieldName, entry.2)).map
      (fun field => (Atom.text field.1, field.2)) = metadata.entries := by
  rw [List.map_map]
  refine Eq.trans (List.map_congr_left fun entry member => ?_) (List.map_id _)
  exact Prod.ext (named.text_fieldName member) rfl

/-- The names are texts, and the values can be written. -/
structure IsSerialisable (metadata : Metadata) : Prop where
  named : metadata.IsNamed
  writable : metadata.writeDefect? = none

/-- Metadata have a text if their document can be written and no name has too many digits. -/
theorem writeDefect?_eq_none_iff {metadata : Metadata} :
    metadata.writeDefect? = none ↔
      (∀ name ∈ metadata.names, name.toValue.IsWritable 0) ∧
        metadata.toValue.IsWritable nestingLimit := by
  rw [writeDefect?, Option.or_eq_none_iff, List.findSome?_eq_none_iff]
  exact and_congr
    ⟨fun none name member => ⟨none name member⟩,
      fun each name member => (each name member).defectless⟩
    ⟨Value.IsWritable.mk, Value.IsWritable.defectless⟩

/-- Names that are texts are never in the way of writing. -/
theorem IsNamed.writeDefect?_eq_none_iff {metadata : Metadata} (named : metadata.IsNamed) :
    metadata.writeDefect? = none ↔ metadata.toValue.IsWritable nestingLimit := by
  refine Metadata.writeDefect?_eq_none_iff.trans (and_iff_right fun name member => ?_)
  obtain ⟨entry, inside, rfl⟩ := List.mem_map.mp member
  rw [← named.text_fieldName inside]
  exact Value.isWritable_text 0 _

theorem IsSerialisable.document {metadata : Metadata} (serialisable : metadata.IsSerialisable) :
    metadata.toValue.IsWritable nestingLimit :=
  serialisable.named.writeDefect?_eq_none_iff.mp serialisable.writable

theorem empty_serialisable : empty.IsSerialisable :=
  ⟨fun _ member => absurd member List.not_mem_nil, rfl⟩

/-- Entries with texts for names are sorted by their names. -/
theorem sort_named {metadata : Metadata} (named : metadata.IsNamed) :
    NameOrder.sort metadata.entries =
      .ok (Order.sort (fun first second => first.1.lt second.1) metadata.entries) :=
  NameOrder.sort_of_texts named

/-- Metadata with texts for names have a canonical text as soon as they can be written. -/
theorem canonicalText_ok {metadata : Metadata} (serialisable : metadata.IsSerialisable) :
    ∃ text, metadata.canonicalText = .ok text := by
  unfold canonicalText
  rw [sort_named serialisable.named, serialisable.writable]
  exact ⟨_, rfl⟩

end Metadata

/-- The metadata of the entity can be written, and its path can be shown. -/
structure Entity.IsSerialisable (entity : Entity) : Prop where
  metadata : entity.metadata.IsSerialisable
  path : entity.filePath.CanBeShown

theorem Entity.sentinel_serialisable (address : Address) : (sentinel address).IsSerialisable :=
  ⟨Metadata.empty_serialisable, Value.canBeShown_text _⟩

theorem Edge.IsNamed.canBeShown {edge : Edge} (named : edge.IsNamed) :
    edge.relation.toValue.CanBeShown := by
  obtain ⟨relation, same⟩ := named
  rw [same]
  exact Value.canBeShown_text relation

namespace Content

theorem entityLine_ok_iff {entity : Entity} {line : List Char} :
    entityLine entity = .ok line ↔
      ∃ metadata, entity.metadata.canonicalText = .ok metadata ∧ entity.filePath.CanBeShown ∧
        "E|".toList ++ entity.key.toList ++ '|' :: (entity.filePath.shown.toList ++
          '|' :: (metadata ++ ['\n'])) = line := by
  unfold entityLine
  cases entity.metadata.canonicalText with
  | error fault => simp [Except.bind]
  | ok metadata => simp [Except.bind, Value.whenShown_ok_iff]

/-- The lines of edges are made exactly if their relations can be shown. -/
theorem mapM_checkedEdgeLine_ok_iff {edges : List Edge} {lines : List (List Char)} :
    edges.mapM checkedEdgeLine = .ok lines ↔
      (∀ edge ∈ edges, edge.relation.toValue.CanBeShown) ∧ edges.map edgeLine = lines := by
  constructor
  · intro made
    have each := (Outcome.mapM_ok made).imp fun edge line => Value.whenShown_ok_iff.mp
    refine ⟨fun edge member => ?_, ?_⟩
    · obtain ⟨_, -, shown, -⟩ := Outcome.exists_of_forall₂ each member
      exact shown
    · have same := each.imp fun edge line shown => Except.ok.inj shown.2
      exact List.forall₂_eq_eq_eq ▸ List.forall₂_map_left_iff.mpr same
  · rintro ⟨shown, rfl⟩
    induction edges with
    | nil => rfl
    | cons edge rest inductionHypothesis =>
        obtain ⟨head, tail⟩ := List.forall_mem_cons.mp shown
        rw [List.mapM_cons, inductionHypothesis tail, checkedEdgeLine, Value.whenShown_of head]
        rfl

/-- The content consists of the lines of all parts. -/
theorem text_ok_iff {entities : List Entity} {edges : List Edge} {changes : List ChangeSet}
    {content : List Char} :
    text entities edges changes = .ok content ↔
      ∃ lines, entities.mapM entityLine = .ok lines ∧
        (∀ edge ∈ edges, edge.relation.toValue.CanBeShown) ∧
        lines.flatten ++ edges.flatMap edgeLine ++ changes.flatMap changeLine = content := by
  constructor
  · intro written
    obtain ⟨lines, made, written⟩ := Outcome.bind_ok written
    obtain ⟨edgeLines, edgesMade, written⟩ := Outcome.bind_ok written
    obtain ⟨shown, rfl⟩ := mapM_checkedEdgeLine_ok_iff.mp edgesMade
    exact ⟨lines, made, shown, Except.ok.inj written⟩
  · rintro ⟨lines, made, shown, rfl⟩
    rw [text, made, mapM_checkedEdgeLine_ok_iff.mpr ⟨shown, rfl⟩]
    rfl

/-- Edges that name their relations are always written. -/
theorem text_named {edges : List Edge} (named : ∀ edge ∈ edges, edge.IsNamed)
    (entities : List Entity) (changes : List ChangeSet) :
    text entities edges changes = (entities.mapM entityLine).map fun lines =>
      lines.flatten ++ edges.flatMap edgeLine ++ changes.flatMap changeLine := by
  have shown := fun edge member => (named edge member).canBeShown
  rw [text, mapM_checkedEdgeLine_ok_iff.mpr ⟨shown, rfl⟩]
  rfl

/-- Serialisable entities and edges that name their relations have an identifier. -/
theorem identifier_ok {entities : List Entity}
    (serialisable : ∀ entity ∈ entities, entity.IsSerialisable) {edges : List Edge}
    (named : ∀ edge ∈ edges, edge.IsNamed) (changes : List ChangeSet) :
    ∃ id, identifier entities edges changes = .ok id := by
  have lines : ∃ texts, entities.mapM entityLine = .ok texts := by
    refine Outcome.exists_mapM_ok fun entity member => ?_
    obtain ⟨metadata, canonical⟩ :=
      Metadata.canonicalText_ok (serialisable entity member).metadata
    exact ⟨_, entityLine_ok_iff.mpr ⟨metadata, canonical, (serialisable entity member).path, rfl⟩⟩
  obtain ⟨texts, made⟩ := lines
  have written : text entities edges changes = .ok _ :=
    text_ok_iff.mpr ⟨texts, made, fun edge member => (named edge member).canBeShown, rfl⟩
  exact ⟨_, congrArg (Except.map identify) written⟩

end Content

/-- Both ends of an edge are entities of the snapshot. -/
theorem Snapshot.entity_of_endpoint {snapshot : Snapshot} {edge : Edge}
    (member : edge ∈ snapshot.edges) :
    (∃ entity ∈ snapshot.entities.rows, entity.address = edge.source) ∧
      ∃ entity ∈ snapshot.entities.rows, entity.address = edge.target := by
  have present (address : Address) (contained : snapshot.entities.contains address.text = true) :
      ∃ entity ∈ snapshot.entities.rows, entity.address = address := by
    obtain ⟨entity, inside, named⟩ := Table.contains_iff.mp contained
    exact ⟨entity, inside, Address.text_injective named⟩
  obtain ⟨source, target⟩ := snapshot.endpointsPresent edge member
  exact ⟨present edge.source source, present edge.target target⟩

namespace Builder

theorem find?_materialize (external : Bool) (addresses : List Address)
    (table : Table Entity Entity.key) (name : String) :
    (addresses.foldl (fun entities address =>
      if external && address.isExternal && !entities.contains address.text then
        entities.insert (Entity.sentinel address)
      else entities) table).find? name =
    (table.find? name).or ((addresses.find? fun address =>
      external && address.isExternal && address.text == name).map Entity.sentinel) := by
  induction addresses generalizing table with
  | nil => simp
  | cons address rest inductionHypothesis =>
      rw [List.foldl_cons, inductionHypothesis, List.find?_cons]
      have sentinelKey : (Entity.sentinel address).key = address.text := rfl
      by_cases named : address.text = name
      · subst named
        cases present : table.find? address.text <;>
          cases external <;> cases outside : address.isExternal <;>
            simp [Table.contains, present, Table.find?_insert, sentinelKey]
      · have skipped : (external && address.isExternal && address.text == name) = false := by
          simp [named]
        rw [skipped]
        split
        · rw [Table.find?_insert, sentinelKey, if_neg named]
        · rfl

/-- A key has its staged entity, or else the sentinel of an external end with this key. -/
theorem find?_materialized (builder : Builder) (name : String) :
    builder.materialized.find? name =
      (builder.entities.find? name).or (((endpoints builder.edges).find? fun address =>
        builder.materializeExternal && address.isExternal && address.text == name).map
          Entity.sentinel) :=
  find?_materialize builder.materializeExternal (endpoints builder.edges) builder.entities name

/-- The entity is an empty one that stands for an external end. -/
def IsSentinel (builder : Builder) (entity : Entity) : Prop :=
  builder.materializeExternal = true ∧ entity.address ∈ endpoints builder.edges ∧
    entity.address.isExternal = true ∧ builder.entities.contains entity.key = false ∧
    entity = Entity.sentinel entity.address

/-- The materialized entities are the staged ones and the sentinels. -/
theorem mem_materialized_iff {builder : Builder} {entity : Entity} :
    entity ∈ builder.materialized.rows ↔
      entity ∈ builder.entities.rows ∨ builder.IsSentinel entity := by
  rw [Table.mem_rows_iff, find?_materialized, Table.mem_rows_iff]
  unfold IsSentinel Table.contains
  cases staged : builder.entities.find? entity.key with
  | some other => simp
  | none =>
      simp only [Option.none_or, Option.map_eq_some_iff, Option.isSome_none, reduceCtorEq, false_or]
      constructor
      · rintro ⟨address, found, rfl⟩
        have matching := List.find?_some found
        simp only [Bool.and_eq_true] at matching
        exact ⟨matching.1.1, List.mem_of_find?_eq_some found, matching.1.2, trivial, rfl⟩
      · rintro ⟨external, member, outside, -, same⟩
        cases found : (endpoints builder.edges).find? fun address =>
            builder.materializeExternal && address.isExternal && address.text == entity.key with
        | none =>
            have absent := List.find?_eq_none.mp found entity.address member
            simp [external, outside, Entity.key] at absent
        | some address =>
            have matching := List.find?_some found
            simp only [Bool.and_eq_true, beq_iff_eq] at matching
            refine ⟨address, rfl, ?_⟩
            rw [same, Address.text_injective matching.2]

theorem contains_materialized_iff {builder : Builder} {address : Address}
    (member : address ∈ endpoints builder.edges) :
    builder.materialized.contains address.text = true ↔
      builder.entities.contains address.text = true ∨
        (address.isExternal = true ∧ builder.materializeExternal = true) := by
  rw [Table.contains_iff]
  constructor
  · rintro ⟨entity, present, named⟩
    rcases mem_materialized_iff.mp present with staged | ⟨external, -, outside, -, -⟩
    · exact Or.inl (Table.contains_iff.mpr ⟨entity, staged, named⟩)
    · rw [Address.text_injective named] at outside
      exact Or.inr ⟨outside, external⟩
  · intro covered
    cases staged : builder.entities.contains address.text with
    | true =>
        obtain ⟨entity, present, named⟩ := Table.contains_iff.mp staged
        exact ⟨entity, mem_materialized_iff.mpr (Or.inl present), named⟩
    | false =>
        rcases covered with present | ⟨outside, external⟩
        · rw [staged] at present
          cases present
        · exact ⟨Entity.sentinel address, mem_materialized_iff.mpr
            (Or.inr ⟨external, member, outside, staged, rfl⟩), rfl⟩

/-- Every end of a staged edge is staged, or it is external and a sentinel is made for it. -/
def IsClosed (builder : Builder) : Prop :=
  ∀ address ∈ endpoints builder.edges, builder.entities.contains address.text = true ∨
    (address.isExternal = true ∧ builder.materializeExternal = true)

/-- Edges of a snapshot are closed where its entities are staged. -/
theorem isClosed_of_snapshot {builder : Builder} {snapshot : Snapshot}
    (entities : builder.entities = snapshot.entities)
    (edges : ∀ edge ∈ builder.edges, edge ∈ snapshot.edges) : builder.IsClosed := by
  intro address member
  obtain ⟨edge, inside, isEnd⟩ := List.mem_flatMap.mp member
  obtain ⟨source, target⟩ := snapshot.endpointsPresent edge (edges edge inside)
  rw [entities]
  rcases List.mem_pair.mp isEnd with rfl | rfl
  · exact .inl source
  · exact .inl target

theorem missing_eq_nil_iff {builder : Builder} : builder.missing = [] ↔ builder.IsClosed := by
  unfold missing IsClosed
  rw [List.filter_eq_nil_iff]
  constructor
  · intro present address member
    exact (contains_materialized_iff member).mp (by simpa using present address member)
  · intro covered address member
    simpa using (contains_materialized_iff member).mpr (covered address member)

/-- The staged data can be hashed and sorted, and no edge is staged twice. -/
structure IsCommittable (builder : Builder) : Prop where
  generation : Decimal.isWritable builder.generation = true
  serialisable : ∀ entity ∈ builder.entities.rows, entity.IsSerialisable
  named : ∀ edge ∈ builder.edges, edge.IsNamed
  distinct : builder.edges.Nodup

theorem materialized_serialisable {builder : Builder}
    (serialisable : ∀ entity ∈ builder.entities.rows, entity.IsSerialisable) :
    ∀ entity ∈ builder.materialized.rows, entity.IsSerialisable := by
  intro entity member
  rcases mem_materialized_iff.mp member with staged | ⟨-, -, -, -, same⟩
  · exact serialisable entity staged
  · rw [same]
    exact Entity.sentinel_serialisable entity.address

/-- The commit of an open builder succeeds exactly if every end of an edge is covered. -/
theorem commit_succeeds_iff {builder : Builder} (committable : builder.IsCommittable)
    (opened : builder.committed = false) (now : String) (createdAt : Value) :
    (∃ snapshot, builder.commit now createdAt = (.ok snapshot, builder.closed)) ↔
      builder.IsClosed := by
  rw [← missing_eq_nil_iff]
  constructor
  · rintro ⟨snapshot, committed⟩
    obtain ⟨-, -, shown, -⟩ := commit_ok (congrArg Prod.fst committed)
    exact shown.complete
  · intro complete
    have named : ∀ edge ∈ Order.sort Edge.precedes builder.edges, edge.IsNamed :=
      fun edge member => committable.named edge (Order.mem_sort.mp member)
    obtain ⟨id, identified⟩ := Content.identifier_ok
      (materialized_serialisable committable.serialisable) named builder.changeSets.rows
    obtain ⟨snapshot, made⟩ := snapshot_of_parts now createdAt complete
      (Edge.sort_named committable.named) identified
    exact ⟨snapshot, commit_of_snapshot opened made committable.generation⟩

/-- The edges of a committed snapshot are the staged ones in increasing order. -/
theorem Shows.edges_increasing {builder : Builder} {now : String} {createdAt : Value}
    {snapshot : Snapshot} (committable : builder.IsCommittable)
    (shown : builder.Shows now createdAt snapshot) :
    (snapshot.edges.Pairwise fun first second => first.precedes second = true) ∧
      ∀ edge, edge ∈ snapshot.edges ↔ edge ∈ builder.edges := by
  have sorted := shown.sorted
  rw [Edge.sort_named committable.named, Except.ok.injEq] at sorted
  rw [← sorted]
  exact ⟨Order.sort_increasing Edge.precedes_strict committable.named committable.distinct,
    fun edge => Order.mem_sort⟩

end Builder

end CodeGraph

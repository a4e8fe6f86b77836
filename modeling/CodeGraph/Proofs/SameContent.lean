import CodeGraph.Proofs.LikeSnapshots

/-!
This file says when two snapshots have the same content, and that their documents agree then up to
the fields that tell when they were made.
-/

namespace CodeGraph

/-- An object without the fields of some names. -/
def Value.without (names : List String) : Value → Value
  | .object fields => .object (fields.filter fun field => !names.contains field.1)
  | value => value

/-- The document of the snapshot without the fields that tell when it was made. -/
def Snapshot.contentValue (snapshot : Snapshot) : Value :=
  snapshot.toValue.without ["created_at", "generation"]

/-- Documents can be compared where all names in the metadata are texts. -/
def Snapshot.IsNamed (snapshot : Snapshot) : Prop :=
  ∀ entity ∈ snapshot.entities.rows, entity.metadata.IsNamed

/-- Two snapshots have the same identifier, edges and change sets, and their entities agree one by
one and have metadata of the same text. Their documents agree as well. -/
structure Snapshot.SameContent (first second : Snapshot) : Prop where
  id : first.id = second.id
  entities : List.Forall₂ Entity.IsLike first.entities.rows second.entities.rows
  edges : first.edges = second.edges
  changeSets : first.changeSets = second.changeSets
  document : first.IsNamed → first.contentValue.agrees second.contentValue = true

/-- A text agrees only with itself. -/
theorem Atom.eq_of_isText {first second : Atom} (isText : first.isText = true)
    (same : first.essence = second.essence) : first = second := by
  cases first with
  | text value =>
      rcases second with _ | _ | _ | (_ | _ | _) | other <;> cases same
      rfl
  | _ => cases isText

/-- Metadata that agree and whose names are texts have agreeing documents. -/
theorem Metadata.toValue_agrees {first second : Metadata} (firstFormed : first.IsWellFormed)
    (secondFormed : second.IsWellFormed) (named : first.IsNamed)
    (agreeing : first.agrees second = true) : first.toValue.agrees second.toValue = true := by
  have matching := (agrees_iff secondFormed).mp agreeing
  have otherNamed : second.IsNamed := by
    intro other member
    obtain ⟨entry, inside, same, -⟩ := ((agrees_iff firstFormed).mp
      (agrees_symm firstFormed secondFormed agreeing)).2 other member
    rw [← Atom.eq_of_isText (named entry inside) same]
    exact named entry inside
  refine (Value.agrees_object_iff (toValue_hasDistinctNames secondFormed otherNamed)).mpr
    ⟨_, rfl, by simp [matching.1], fun field member => ?_⟩
  obtain ⟨entry, inside, rfl⟩ := List.mem_map.mp member
  obtain ⟨other, otherInside, same, related⟩ := matching.2 entry inside
  refine ⟨_, List.mem_map.mpr ⟨other, otherInside, rfl⟩, ?_, related⟩
  exact congrArg Atom.fieldName (Atom.eq_of_isText (named entry inside) same.symm).symm

theorem Entity.IsLike.toValue_agrees {first second : Entity} (like : first.IsLike second)
    (named : first.metadata.IsNamed) : first.toValue.agrees second.toValue = true := by
  obtain ⟨address, path, metadata⟩ :=
    (agrees_iff like.formed.path like.otherFormed.path).mp like.agrees
  have documents := Metadata.toValue_agrees like.formed.metadata like.otherFormed.metadata named
    metadata
  obtain ⟨text, isText⟩ := like.formed.path
  simp [Entity.toValue, fields, key, isExternal, firstLine, lastLine, ← address, ← path, isText,
    documents, Value.agrees, Value.fieldsAgree, Value.lookup, Value.itemsAgree, Value.atomsAgree,
    Atom.ofValue?, Atom.agrees, Atom.compareNumbers?]

/-- An entity that is like one that can be written can be written in the same place. -/
theorem Entity.IsLike.isWritable {first second : Entity} (like : first.IsLike second) {room : Nat}
    (writable : first.toValue.IsWritable room) {large : Nat}
    (short : second.metadata.toValue.IsWritable large) : second.toValue.IsWritable room := by
  obtain ⟨address, path, metadata⟩ :=
    (agrees_iff like.formed.path like.otherFormed.path).mp like.agrees
  have swapped := Metadata.agrees_symm like.formed.metadata like.otherFormed.metadata metadata
  unfold toValue fields at writable ⊢
  rw [Value.isWritable_object_iff] at writable ⊢
  simp only [List.forall_mem_cons] at writable ⊢
  obtain ⟨some, key, language, kind, name, place, lines, outside, document, none⟩ := writable
  unfold Entity.key firstLine lastLine isExternal at *
  rw [← address, ← path]
  exact ⟨some, key, language, kind, name, place, lines, outside,
    Metadata.isWritable_of_agrees like.formed.metadata swapped document short, none⟩

theorem Edge.toValue_hasDistinctNames (edge : Edge) : edge.toValue.HasDistinctNames := by
  have atom : edge.relation.toValue.HasDistinctNames := by cases edge.relation <;> trivial
  have names : ["source", "target", "relation"].Nodup := by decide
  exact ⟨names, trivial, trivial, atom, trivial⟩

theorem ChangeSet.toValue_hasDistinctNames (change : ChangeSet) :
    change.toValue.HasDistinctNames := by
  have names : ["id", "files"].Nodup := by decide
  refine ⟨names, trivial, Value.itemsHaveDistinctNames_iff.mpr fun value member => ?_, trivial⟩
  obtain ⟨path, -, rfl⟩ := List.mem_map.mp member
  trivial

/-- A list of documents with distinct names agrees with itself. -/
theorem Value.list_agrees_refl {α : Type} {document : α → Value} (rows : List α)
    (distinct : ∀ row, (document row).HasDistinctNames) :
    (Value.list (rows.map document)).agrees (.list (rows.map document)) = true := by
  refine Value.agrees_refl _ (Value.itemsHaveDistinctNames_iff.mpr fun value member => ?_)
  obtain ⟨row, -, rfl⟩ := List.mem_map.mp member
  exact distinct row

/-- Snapshots with equal parts and entities like each other have agreeing documents. -/
theorem Snapshot.contentValue_agrees {first second : Snapshot} (id : first.id = second.id)
    (entities : List.Forall₂ Entity.IsLike first.entities.rows second.entities.rows)
    (edges : first.edges = second.edges) (changeSets : first.changeSets = second.changeSets)
    (named : first.IsNamed) : first.contentValue.agrees second.contentValue = true := by
  have parts (snapshot : Snapshot) : snapshot.contentValue = .object [
      ("snapshot_id", .text snapshot.id),
      ("entities", .list (snapshot.entities.rows.map Entity.toValue)),
      ("edges", .list (snapshot.edges.map Edge.toValue)),
      ("change_sets", .list (snapshot.changeSets.rows.map ChangeSet.toValue))] := rfl
  have rows : (Value.list (first.entities.rows.map Entity.toValue)).agrees
      (.list (second.entities.rows.map Entity.toValue)) = true := by
    rw [Value.agrees, Value.itemsAgree_iff, List.forall₂_map_left_iff, List.forall₂_map_right_iff]
    rw [List.forall₂_iff_get] at entities ⊢
    exact ⟨entities.1, fun index inside otherInside =>
      (entities.2 index inside otherInside).toValue_agrees (named _ (List.get_mem _ _))⟩
  have edgeRows := Value.list_agrees_refl first.edges Edge.toValue_hasDistinctNames
  have changeRows := Value.list_agrees_refl first.changeSets.rows
    ChangeSet.toValue_hasDistinctNames
  have object (entities others edges changes : Value) (same : entities.agrees others = true)
      (sameEdges : edges.agrees edges = true) (sameChanges : changes.agrees changes = true) :
      (Value.object [("snapshot_id", .text first.id), ("entities", entities), ("edges", edges),
        ("change_sets", changes)]).agrees (.object [("snapshot_id", .text first.id),
        ("entities", others), ("edges", edges), ("change_sets", changes)]) = true := by
    simp [Value.agrees, Value.fieldsAgree, Value.lookup, Value.atomsAgree, Atom.ofValue?,
      Atom.agrees, same, sameEdges, sameChanges]
  rw [parts, parts, ← id, ← edges, ← changeSets]
  exact object _ _ _ _ rows edgeRows changeRows

/-- Of snapshots with the same content one can be written as far as the other can. -/
theorem Snapshot.SameContent.isWritable {first second : Snapshot} (same : first.SameContent second)
    {room : Nat} (writable : first.toValue.IsWritable room)
    (stamp : second.createdAt.IsWritable (room - 1))
    (generation : Decimal.isWritable second.generation = true) {large : Nat}
    (short : ∀ entity ∈ second.entities.rows, entity.metadata.toValue.IsWritable large) :
    second.toValue.IsWritable room := by
  unfold toValue at writable ⊢
  rw [Value.isWritable_object_iff] at writable ⊢
  simp only [List.forall_mem_cons] at writable ⊢
  obtain ⟨some, id, -, -, entities, edges, changes, none⟩ := writable
  obtain ⟨enough, items⟩ := Value.isWritable_list_iff.mp entities
  refine ⟨some, same.id ▸ id, stamp, Value.isWritable_int generation _,
    Value.isWritable_list_iff.mpr ⟨enough, List.forall_mem_map.mpr fun entity member => ?_⟩,
    same.edges ▸ edges, same.changeSets ▸ changes, none⟩
  obtain ⟨other, inside, like⟩ := Outcome.exists_of_forall₂ same.entities.flip member
  exact like.isWritable (items _ (List.mem_map_of_mem inside)) (short entity member)

end CodeGraph

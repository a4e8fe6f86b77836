import CodeGraph.Proofs.Closure
import CodeGraph.Proofs.ConvertedItems
import CodeGraph.Proofs.HeldItems

/-!
This file says that builders that hold the same items commit snapshots of the same content, whatever
was staged first and how often.
-/

namespace CodeGraph

namespace Entity

/-- Two well-formed entities agree, and their metadata have the same text. -/
structure IsLike (first second : Entity) : Prop where
  formed : first.IsWellFormed
  otherFormed : second.IsWellFormed
  agrees : first.agrees second = true
  text : first.metadata.canonicalText.toOption = second.metadata.canonicalText.toOption

theorem IsLike.address {first second : Entity} (like : first.IsLike second) :
    first.address = second.address :=
  ((agrees_iff like.formed.path like.otherFormed.path).mp like.agrees).1

theorem IsWellFormed.isLike {entity : Entity} (formed : entity.IsWellFormed) :
    entity.IsLike entity := ⟨formed, formed, formed.agrees_refl, rfl⟩

theorem sentinel_isWellFormed (address : Address) : (sentinel address).IsWellFormed :=
  ⟨⟨_, rfl⟩, Metadata.empty_isWellFormed⟩

/-- Entities that are like each other have the same line. -/
theorem IsLike.entityLine {first second : Entity} (like : first.IsLike second) {line : List Char}
    (written : Content.entityLine first = .ok line) : Content.entityLine second = .ok line := by
  obtain ⟨address, path, -⟩ :=
    (agrees_iff like.formed.path like.otherFormed.path).mp like.agrees
  obtain ⟨text, canonical, shown, rfl⟩ := Content.entityLine_ok_iff.mp written
  have texts := like.text
  rw [canonical] at texts
  rw [Content.entityLine_ok_iff, key, ← address, ← path]
  cases other : second.metadata.canonicalText with
  | error fault =>
      rw [other] at texts
      cases texts
  | ok more =>
      rw [other] at texts
      cases texts
      exact ⟨_, rfl, shown, rfl⟩

end Entity

/-- Entities that are like each other one by one have the same identifier. -/
theorem Content.identifier_of_like {first second : List Entity}
    (pairs : List.Forall₂ Entity.IsLike first second) {edges : List Edge}
    {changes : List ChangeSet} {id : String}
    (identified : identifier first edges changes = .ok id) :
    identifier second edges changes = .ok id := by
  obtain ⟨content, written, rfl⟩ := Outcome.map_ok identified
  obtain ⟨lines, made, shown, whole⟩ := text_ok_iff.mp written
  have others : second.mapM entityLine = .ok lines := by
    clear identified written whole
    induction pairs generalizing lines with
    | nil => exact made
    | cons like _ inductionHypothesis =>
        rw [List.mapM_cons] at made ⊢
        obtain ⟨line, head, made⟩ := Outcome.bind_ok made
        obtain ⟨rest, tail, made⟩ := Outcome.bind_ok made
        rw [like.entityLine head, inductionHypothesis rest tail]
        exact made
  exact congrArg (Except.map identify) (text_ok_iff.mpr ⟨lines, others, shown, whole⟩)

/-- No identifier has two change sets, and entities that agree have metadata of the same text. -/
structure Item.AreUnambiguous (given : Set Item) : Prop where
  changes : ∀ first second, .change first ∈ given → .change second ∈ given →
    first.id = second.id → first = second
  texts : ∀ first second, .entity first ∈ given → .entity second ∈ given →
    first.agrees second = true →
      first.metadata.canonicalText.toOption = second.metadata.canonicalText.toOption

namespace Builder

/-- Two builders hold the same items and treat external ends alike. -/
structure HoldAlike (first second : Builder) (given : Set Item) : Prop where
  former : first.Holds given
  latter : second.Holds given
  external : first.materializeExternal = second.materializeExternal
  wellFormed : Item.AreWellFormed given
  unambiguous : Item.AreUnambiguous given

namespace HoldAlike

variable {first second : Builder} {given : Set Item}

theorem symm (alike : HoldAlike first second given) : HoldAlike second first given :=
  ⟨alike.latter, alike.former, alike.external.symm, alike.wellFormed, alike.unambiguous⟩

theorem mem_edges_iff (alike : HoldAlike first second given) {edge : Edge} :
    edge ∈ first.edges ↔ edge ∈ second.edges :=
  (alike.former.edges edge).trans (alike.latter.edges edge).symm

theorem mem_endpoints_iff (alike : HoldAlike first second given) {address : Address} :
    address ∈ endpoints first.edges ↔ address ∈ endpoints second.edges := by
  unfold endpoints
  simp only [List.mem_flatMap, alike.mem_edges_iff]

/-- The staged entity of one builder has one that is like it in the other. -/
theorem exists_like (alike : HoldAlike first second given) {entity : Entity}
    (staged : entity ∈ first.entities.rows) :
    ∃ other ∈ second.entities.rows, entity.IsLike other := by
  have member := alike.former.entityGiven entity staged
  have formed := alike.wellFormed.entities entity member
  obtain ⟨other, row, agreeing⟩ := alike.latter.entityStaged entity member
  have otherMember := alike.latter.entityGiven other row
  have otherFormed := alike.wellFormed.entities other otherMember
  have agreeing := otherFormed.agrees_symm formed agreeing
  exact ⟨other, row, formed, otherFormed, agreeing,
    alike.unambiguous.texts entity other member otherMember agreeing⟩

theorem contains_of_contains (alike : HoldAlike first second given) {name : String}
    (present : first.entities.contains name = true) : second.entities.contains name = true := by
  obtain ⟨entity, staged, rfl⟩ := Table.contains_iff.mp present
  obtain ⟨other, row, like⟩ := alike.exists_like staged
  exact Table.contains_iff.mpr ⟨other, row, congrArg Address.text like.address.symm⟩

theorem contains_eq (alike : HoldAlike first second given) (name : String) :
    first.entities.contains name = second.entities.contains name :=
  Bool.eq_iff_iff.mpr ⟨alike.contains_of_contains, alike.symm.contains_of_contains⟩

theorem exists_like_materialized (alike : HoldAlike first second given) {entity : Entity}
    (member : entity ∈ first.materialized.rows) :
    ∃ other ∈ second.materialized.rows, entity.IsLike other := by
  rcases mem_materialized_iff.mp member with staged | ⟨external, inside, outside, absent, same⟩
  · obtain ⟨other, row, like⟩ := alike.exists_like staged
    exact ⟨other, mem_materialized_iff.mpr (Or.inl row), like⟩
  -- The same ends of edges are missing in both builders, so the same sentinels are added.
  · refine ⟨entity, mem_materialized_iff.mpr (Or.inr ⟨alike.external ▸ external,
      alike.mem_endpoints_iff.mp inside, outside, alike.contains_eq _ ▸ absent, same⟩), ?_⟩
    rw [same]
    exact (Entity.sentinel_isWellFormed _).isLike

/-- The entities of both snapshots are like each other row by row. -/
theorem forall₂_materialized (alike : HoldAlike first second given) :
    List.Forall₂ Entity.IsLike first.materialized.rows second.materialized.rows := by
  refine Table.forall₂_rows (fun _ _ like => congrArg Address.text like.address)
    (fun _ member => alike.exists_like_materialized member) fun other member => ?_
  obtain ⟨entity, row, like⟩ := alike.symm.exists_like_materialized member
  exact ⟨entity, row, congrArg Address.text like.address.symm⟩

theorem changeSets_eq (alike : HoldAlike first second given) :
    first.changeSets = second.changeSets := by
  have within {left right : Builder} (alike : HoldAlike left right given) (change : ChangeSet)
      (row : change ∈ left.changeSets.rows) : change ∈ right.changeSets.rows := by
    have member := alike.former.changeGiven change row
    obtain ⟨other, otherRow, named⟩ := alike.latter.changeStaged change member
    rw [← alike.unambiguous.changes other change (alike.latter.changeGiven other otherRow) member
      named]
    exact otherRow
  exact Table.eq_of_mem_rows_iff fun change => ⟨within alike change, within alike.symm change⟩

theorem isClosed (alike : HoldAlike first second given) (closed : first.IsClosed) :
    second.IsClosed := by
  intro address member
  have covered := closed address (alike.mem_endpoints_iff.mpr member)
  rw [alike.contains_eq, alike.external] at covered
  exact covered

/-- Both builders sort their edges into the same list. -/
theorem sort_edges (alike : HoldAlike first second given) :
    Edge.sort first.edges = Edge.sort second.edges := by
  have named {builder : Builder} (holds : builder.Holds given) :
      ∀ edge ∈ builder.edges, edge.IsNamed := fun edge member =>
    alike.wellFormed.edges edge ((holds.edges edge).mp member)
  rw [Edge.sort_named (named alike.former), Edge.sort_named (named alike.latter),
    Order.sort_eq_of_mem_iff Edge.precedes_strict (named alike.former) alike.former.distinct
      alike.latter.distinct fun _ => alike.mem_edges_iff]

end HoldAlike

end Builder

end CodeGraph

import CodeGraph.Proofs.NumberForms
import CodeGraph.Proofs.SameContent

/-!
This file says what becomes of an entity whose key is staged once more. The builder takes an entity
that agrees with the staged one and refuses any other, so only the types of numbers and the signs of
zeros can change under a key.
-/

namespace CodeGraph

/-- The entity says the same as an earlier one of its address. Its metadata have the same text
exactly if they also show every number in the same form. -/
structure Entity.Restates (entity old : Entity) : Prop where
  address : entity.address = old.address
  filePath : entity.filePath = old.filePath
  metadata : old.metadata.agrees entity.metadata = true
  text : old.metadata.IsSerialisable → entity.metadata.IsSerialisable →
    (entity.metadata.canonicalText = old.metadata.canonicalText ↔
      entity.metadata.toValue.forms = old.metadata.toValue.forms)

/-- Well-formed entities that agree say the same. -/
theorem Entity.restates_iff {entity old : Entity} (formed : entity.IsWellFormed)
    (oldFormed : old.IsWellFormed) : entity.Restates old ↔ old.agrees entity = true := by
  rw [agrees_iff oldFormed.path formed.path]
  constructor
  · intro restates
    exact ⟨restates.address.symm, restates.filePath.symm, restates.metadata⟩
  · rintro ⟨address, filePath, metadata⟩
    refine ⟨address.symm, filePath.symm, metadata, fun oldSerialisable serialisable => ?_⟩
    have documents := Metadata.toValue_agrees oldFormed.metadata formed.metadata
      oldSerialisable.named metadata
    rw [eq_comm, Metadata.canonicalText_eq_iff_forms oldFormed.metadata formed.metadata
      oldSerialisable serialisable documents, eq_comm]

namespace Builder

/-- The entities of the later builder are well formed, and under each key of the earlier one stands
an entity that agrees with the one that was there. -/
structure KeepsEntities (earlier later : Builder) : Prop where
  formed : ∀ entity ∈ later.entities.rows, entity.IsWellFormed
  agrees : ∀ key old, earlier.entities.find? key = some old →
    ∃ new, later.entities.find? key = some new ∧ old.agrees new = true

variable {builder later next : Builder}

theorem KeepsEntities.refl (formed : ∀ entity ∈ builder.entities.rows, entity.IsWellFormed) :
    builder.KeepsEntities builder := by
  refine ⟨formed, fun key old found => ⟨old, found, ?_⟩⟩
  exact (formed old (Table.find?_eq_some_iff.mp found).1).agrees_refl

/-- One more staged entity agrees with the one that it replaces, and so with all before it. -/
theorem KeepsEntities.stageEntity (keeps : builder.KeepsEntities later)
    (formed : ∀ entity ∈ builder.entities.rows, entity.IsWellFormed) {entity : Entity}
    (entityFormed : entity.IsWellFormed) (staged : later.stageEntity entity = .ok next) :
    builder.KeepsEntities next := by
  obtain ⟨agreeing, rfl⟩ := stageEntity_ok_iff.mp staged
  constructor
  · intro other row
    rcases Table.mem_insertRow row with rfl | kept
    · exact entityFormed
    · exact keeps.formed other kept
  · intro key old found
    obtain ⟨new, newFound, same⟩ := keeps.agrees key old found
    show ∃ new, (later.entities.insert entity).find? key = some new ∧ _
    rw [Table.find?_insert]
    split
    · rename_i replaced
      have oldFormed := formed old (Table.find?_eq_some_iff.mp found).1
      have newFormed := keeps.formed new (Table.find?_eq_some_iff.mp newFound).1
      exact ⟨entity, rfl, oldFormed.agrees_trans newFormed entityFormed same
        (agreeing new (replaced ▸ newFound))⟩
    · exact ⟨new, newFound, same⟩

/-- A whole batch keeps what was staged before it, whatever ends it. -/
theorem keepsEntities_putEntities
    (formed : ∀ entity ∈ builder.entities.rows, entity.IsWellFormed) {batch : List (Offer Entity)}
    (given : ∀ entity, .item entity ∈ batch → entity.IsWellFormed) :
    builder.KeepsEntities (builder.putEntities batch).2 := by
  have start := KeepsEntities.refl formed
  refine whenOpen_keeps start (stageAll_keeps (fun offer member between next keeps staged => ?_)
    0 start)
  cases offer with
  | item entity => exact keeps.stageEntity formed (given entity member) staged
  | foreign typeName => cases staged

/-- A batch is put by putting its front and then the rest. -/
theorem putEntities_append (opened : builder.committed = false) (front rest : List (Offer Entity)) :
    builder.putEntities (front ++ rest) =
      andThen (builder.putEntities front) fun count between =>
        stageAll offerEntity between count rest := by
  unfold putEntities
  rw [whenOpen_of_open opened, whenOpen_of_open opened, stageAll_append]

/-- An entity that does not agree with the one under its key ends the batch. -/
theorem putEntities_conflict (opened : builder.committed = false) {front rest : List (Offer Entity)}
    {entity old : Entity} {count : Nat} (accepted : (builder.putEntities front).1 = .ok count)
    (found : (builder.putEntities front).2.entities.find? entity.key = some old)
    (apart : ¬old.agrees entity = true) :
    builder.putEntities (front ++ .item entity :: rest) =
      (.error (.integrity (.conflictingEntities entity.key)), (builder.putEntities front).2) := by
  rw [putEntities_append opened]
  generalize builder.putEntities front = staged at accepted found
  obtain ⟨outcome, between⟩ := staged
  cases accepted
  have refused : offerEntity between (.item entity) =
      .error (.integrity (.conflictingEntities entity.key)) := by
    show between.stageEntity entity = _
    unfold Builder.stageEntity
    rw [found]
    exact if_neg apart
  show stageAll offerEntity between count (.item entity :: rest) = _
  rw [stageAll, refused]

/-- A single entity that agrees with the one under its key takes its place. -/
theorem putEntities_single (opened : builder.committed = false) {entity : Entity}
    (agreeing : ∀ staged, builder.entities.find? entity.key = some staged →
      staged.agrees entity = true) :
    builder.putEntities [.item entity] =
      (.ok 1, { builder with entities := builder.entities.insert entity }) := by
  have staged : offerEntity builder (.item entity) =
      .ok { builder with entities := builder.entities.insert entity } :=
    stageEntity_ok_iff.mpr ⟨agreeing, rfl⟩
  unfold putEntities
  rw [whenOpen_of_open opened, stageAll, staged]
  rfl

/-- The front of an accepted batch is accepted. -/
theorem putEntities_front (opened : builder.committed = false) {front rest : List (Offer Entity)}
    {count : Nat} (accepted : (builder.putEntities (front ++ rest)).1 = .ok count) :
    ∃ staged, (builder.putEntities front).1 = .ok staged := by
  rw [putEntities_append opened] at accepted
  generalize builder.putEntities front = staged at accepted ⊢
  obtain ⟨fault | staged, between⟩ := staged
  · cases accepted
  · exact ⟨staged, rfl⟩

/-- An open builder keeps what is staged. After any batch there is an entity under each key of
before that says the same. A batch is accepted only if all of its entities say the same as those
that were staged under their keys, and the first one that does not ends the batch.

Metadata are compared to any depth here. Past about 990 levels, about as deep as calls may nest, a
real comparison breaks off with a defect. -/
theorem putEntities_restates (opened : builder.committed = false)
    (formed : ∀ entity ∈ builder.entities.rows, entity.IsWellFormed) {batch : List (Offer Entity)}
    (given : ∀ entity, .item entity ∈ batch → entity.IsWellFormed) :
    (∀ key old, builder.entities.find? key = some old →
      ∃ new, (builder.putEntities batch).2.entities.find? key = some new ∧ new.Restates old) ∧
    (∀ count, (builder.putEntities batch).1 = .ok count → ∀ entity, .item entity ∈ batch →
      ∀ old, builder.entities.find? entity.key = some old → entity.Restates old) ∧
    ∀ front entity rest count, batch = front ++ .item entity :: rest →
      (builder.putEntities front).1 = .ok count →
      ∀ old, (builder.putEntities front).2.entities.find? entity.key = some old →
      ¬entity.Restates old → builder.putEntities batch =
        (.error (.integrity (.conflictingEntities entity.key)), (builder.putEntities front).2) := by
  have oldFormed {key : String} {old : Entity} (found : builder.entities.find? key = some old) :
      old.IsWellFormed := formed old (Table.find?_eq_some_iff.mp found).1
  refine ⟨fun key old found => ?_, fun count accepted entity member old found => ?_,
    fun front entity rest count split accepted old found apart => ?_⟩
  · have keeps := keepsEntities_putEntities formed given
    obtain ⟨new, newFound, agreeing⟩ := keeps.agrees key old found
    have newFormed := keeps.formed new (Table.find?_eq_some_iff.mp newFound).1
    exact ⟨new, newFound, (Entity.restates_iff newFormed (oldFormed found)).mpr agreeing⟩
  · obtain ⟨front, rest, rfl⟩ := List.append_of_mem member
    have entityFormed := given entity member
    obtain ⟨staged, frontAccepted⟩ := putEntities_front opened accepted
    have keeps : builder.KeepsEntities (builder.putEntities front).2 :=
      keepsEntities_putEntities formed fun other inside =>
        given other (List.mem_append_left _ inside)
    obtain ⟨new, newFound, agreeing⟩ := keeps.agrees entity.key old found
    have newFormed := keeps.formed new (Table.find?_eq_some_iff.mp newFound).1
    have taken : new.agrees entity = true := by
      by_contra apart
      rw [putEntities_conflict opened frontAccepted newFound apart] at accepted
      cases accepted
    exact (Entity.restates_iff entityFormed (oldFormed found)).mpr
      ((oldFormed found).agrees_trans newFormed entityFormed agreeing taken)
  · subst split
    have entityFormed := given entity (List.mem_append_right _ List.mem_cons_self)
    have keeps : builder.KeepsEntities (builder.putEntities front).2 :=
      keepsEntities_putEntities formed fun other inside =>
        given other (List.mem_append_left _ inside)
    have between := keeps.formed old (Table.find?_eq_some_iff.mp found).1
    rw [Entity.restates_iff entityFormed between] at apart
    exact putEntities_conflict opened accepted found apart

/-- A function with a number in its metadata. -/
def weighedEntity (weight : Atom) : Entity :=
  ⟨⟨.python, .function, "weigh", .source ⟨"c.py", 3, 7, by decide, by decide, by decide, by decide⟩,
    by decide⟩, .text "c.py", ⟨[(.text "x", weight.toValue)]⟩⟩

/-- A builder in which the function is staged with a weight of one. -/
def weighedBuilder : Builder :=
  { Builder.create 0 true with entities := Table.empty.insert (weighedEntity (.int 1)) }

theorem weighedEntity_isWellFormed (weight : Int) : (weighedEntity (.int weight)).IsWellFormed := by
  refine ⟨⟨"c.py", rfl⟩, fun entry member => ?_, List.pairwise_singleton _ _⟩
  rw [List.mem_singleton.mp member]
  exact ⟨trivial, trivial⟩

theorem find?_weighed (weight : Atom) {entities : Table Entity Entity.key} :
    (entities.insert (weighedEntity weight)).find? (weighedEntity (.int 1)).key =
      some (weighedEntity weight) := by
  rw [Table.find?_insert]
  exact if_pos rfl

/-- The weight can be put again in every spelling. -/
theorem putEntities_weighed {weight : Atom}
    (agreeing : (weighedEntity (.int 1)).agrees (weighedEntity weight) = true) :
    weighedBuilder.putEntities [.item (weighedEntity weight)] = (.ok 1, { weighedBuilder with
      entities := weighedBuilder.entities.insert (weighedEntity weight) }) := by
  refine putEntities_single rfl fun staged found => ?_
  rw [← Option.some.inj ((find?_weighed (.int 1)).symm.trans found)]
  exact agreeing

/-- A batch with the same weight and another one is refused at the other one. -/
theorem putEntities_restates_weights :
    let batch := [.item (weighedEntity (.int 1)), .item (weighedEntity (.int 2))]
    let key := (weighedEntity (.int 1)).key
    weighedBuilder.entities.find? key = some (weighedEntity (.int 1)) ∧
      (∃ new, (weighedBuilder.putEntities batch).2.entities.find? key = some new ∧
        new.Restates (weighedEntity (.int 1))) ∧
      (weighedBuilder.putEntities batch).1 = .error (.integrity (.conflictingEntities key)) := by
  intro batch key
  have formed : ∀ entity ∈ weighedBuilder.entities.rows, entity.IsWellFormed := by
    intro entity row
    rw [List.mem_singleton.mp row]
    exact weighedEntity_isWellFormed 1
  have given : ∀ entity, .item entity ∈ batch → entity.IsWellFormed := by
    intro entity member
    simp only [batch, List.mem_cons, Offer.item.injEq, List.not_mem_nil, or_false] at member
    rcases member with rfl | rfl <;> exact weighedEntity_isWellFormed _
  have found : weighedBuilder.entities.find? key = some (weighedEntity (.int 1)) :=
    find?_weighed (.int 1)
  have front := putEntities_weighed (weighedEntity_isWellFormed 1).agrees_refl
  obtain ⟨kept, -, refused⟩ := putEntities_restates rfl formed given
  refine ⟨found, kept key _ found, ?_⟩
  have apart : ¬(weighedEntity (.int 2)).Restates (weighedEntity (.int 1)) := fun restates =>
    absurd restates.metadata (by decide +kernel)
  have after : (weighedBuilder.putEntities [.item (weighedEntity (.int 1))]).2.entities.find? key =
      some (weighedEntity (.int 1)) := by
    rw [front]
    exact find?_weighed (.int 1)
  exact congrArg Prod.fst (refused [.item (weighedEntity (.int 1))] (weighedEntity (.int 2)) [] 1
    rfl (congrArg Prod.fst front) _ after apart)

/-- A weight of one that is put again as a floating-point number is accepted, and the text of the
metadata under the key changes. -/
theorem exists_respelled :
    let batch := [.item (weighedEntity (.float (Binary64.ofInt 1)))]
    let key := (weighedEntity (.int 1)).key
    weighedBuilder.committed = false ∧ (weighedBuilder.putEntities batch).1 = .ok 1 ∧
      ∃ old new, weighedBuilder.entities.find? key = some old ∧
        (weighedBuilder.putEntities batch).2.entities.find? key = some new ∧
        old.metadata.canonicalText = .ok "\x7b\"x\": 1\x7d".toList ∧
        new.metadata.canonicalText = .ok "\x7b\"x\": 1.0\x7d".toList := by
  intro batch key
  have put := @putEntities_weighed (.float (Binary64.ofInt 1)) (by decide +kernel)
  have after : (weighedBuilder.putEntities batch).2.entities.find? key =
      some (weighedEntity (.float (Binary64.ofInt 1))) := by
    rw [put]
    exact find?_weighed _
  exact ⟨rfl, congrArg Prod.fst put, _, _, find?_weighed (.int 1), after, by decide +kernel,
    by decide +kernel⟩

end Builder

end CodeGraph

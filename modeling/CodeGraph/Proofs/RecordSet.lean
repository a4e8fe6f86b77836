import CodeGraph.Proofs.SameContent

/-!
This file says that a snapshot depends on the set of the records alone. Neither their order nor
repetitions nor the size of the batches change its content.
-/

namespace CodeGraph

/-- Well-formed records are converted to well-formed items. -/
theorem Delivery.items_areWellFormed (vocabulary : Vocabulary) {deliveries : List Delivery}
    (wellFormed : ∀ delivery ∈ deliveries, delivery.record.IsWellFormed) :
    Item.AreWellFormed (items vocabulary deliveries) := by
  constructor
  · rintro entity ⟨delivery, member, converted⟩
    have given : delivery.GivesEntity vocabulary entity := convert_eq_ok_iff.mp converted
    exact ⟨(Entity.ofRecord_ok given.2).1,
      Entity.ofRecord_isWellFormed (wellFormed delivery member) given.2⟩
  · rintro edge ⟨delivery, member, converted⟩
    have given : delivery.GivesEdge vocabulary edge := convert_eq_ok_iff.mp converted
    exact Edge.ofRecord_isNamed given.2

namespace Builder

section Stage

variable (vocabulary : Vocabulary) (generation : Int) (external : Bool) {size : Int}
  {deliveries : List Delivery}

/-- Records can be staged in a new builder exactly if all of them are converted and what they are
converted to is consistent. -/
theorem exists_stageFeed_iff (positive : 0 < size)
    (wellFormed : ∀ delivery ∈ deliveries, delivery.record.IsWellFormed) :
    (∃ staged, outcome ((create generation external).stageFeed vocabulary size
        ⟨deliveries, none⟩) = .ok staged) ↔
      Delivery.AreConverted vocabulary deliveries ∧
        Item.AreConsistent (Delivery.items vocabulary deliveries) := by
  have opened : (create generation external).committed = false := rfl
  obtain ⟨items, held, reached⟩ := stageFeed_ok_iff vocabulary opened positive deliveries
  simp only [reached, exists_and_left]
  refine and_congr_right fun converted => ?_
  have formed := Delivery.items_areWellFormed vocabulary wellFormed
  rw [← held converted] at formed ⊢
  exact create_stageItems_iff formed

/-- A builder that staged records holds what they are converted to. -/
theorem stageFeed_holds (positive : 0 < size)
    (wellFormed : ∀ delivery ∈ deliveries, delivery.record.IsWellFormed) {staged : Builder}
    (reached : outcome ((create generation external).stageFeed vocabulary size
      ⟨deliveries, none⟩) = .ok staged) :
    staged.Holds (Delivery.items vocabulary deliveries) := by
  have opened : (create generation external).committed = false := rfl
  obtain ⟨items, held, reachedIff⟩ := stageFeed_ok_iff vocabulary opened positive deliveries
  obtain ⟨converted, run⟩ := (reachedIff staged).mp reached
  have formed := Delivery.items_areWellFormed vocabulary wellFormed
  rw [← held converted] at formed ⊢
  exact create_stageItems_holds formed run

end Stage

namespace HoldAlike

variable {first second : Builder} {given : Set Item}

/-- If one of two builders that hold the same items can be committed, the other one can be too. -/
theorem exists_commit (alike : HoldAlike first second given) (opened : second.committed = false)
    (writable : Decimal.isWritable second.generation = true) {now : String} {createdAt : Value}
    {snapshot : Snapshot} (committed : (first.commit now createdAt).1 = .ok snapshot)
    (otherNow : String) (otherCreatedAt : Value) :
    ∃ other, (second.commit otherNow otherCreatedAt).1 = .ok other := by
  obtain ⟨-, -, shown, -⟩ := commit_ok committed
  have complete : second.missing = [] :=
    missing_eq_nil_iff.mpr (alike.isClosed (missing_eq_nil_iff.mp shown.complete))
  have sorted : Edge.sort second.edges = .ok snapshot.edges := alike.sort_edges ▸ shown.sorted
  have identified := shown.identified
  rw [shown.entities, shown.changeSets, alike.changeSets_eq] at identified
  obtain ⟨other, made⟩ := snapshot_of_parts otherNow otherCreatedAt complete sorted
    (Content.identifier_of_like alike.forall₂_materialized identified)
  exact ⟨other, by rw [commit_of_snapshot opened made writable]⟩

/-- Builders that hold the same items commit snapshots of the same content. -/
theorem sameContent (alike : HoldAlike first second given) {now otherNow : String}
    {createdAt otherCreatedAt : Value} {snapshot other : Snapshot}
    (shown : first.Shows now createdAt snapshot)
    (otherShown : second.Shows otherNow otherCreatedAt other) : snapshot.SameContent other := by
  have entities : List.Forall₂ Entity.IsLike snapshot.entities.rows other.entities.rows := by
    rw [shown.entities, otherShown.entities]
    exact alike.forall₂_materialized
  have edges : snapshot.edges = other.edges := by
    have sorted := shown.sorted
    rw [alike.sort_edges, otherShown.sorted] at sorted
    exact (Except.ok.inj sorted).symm
  have changeSets : snapshot.changeSets = other.changeSets := by
    rw [shown.changeSets, otherShown.changeSets, alike.changeSets_eq]
  have id : snapshot.id = other.id := by
    have identified := Content.identifier_of_like entities shown.identified
    rw [edges, changeSets, otherShown.identified] at identified
    exact (Except.ok.inj identified).symm
  exact ⟨id, entities, edges, changeSets,
    Snapshot.contentValue_agrees id entities edges changeSets⟩

end HoldAlike

/-- Records are staged in batches of a size, and then the builder is committed. -/
def commitRecords (vocabulary : Vocabulary) (builder : Builder) (size : Int)
    (deliveries : List Delivery) (now : String) (createdAt : Value) : Staging Snapshot :=
  andThen (builder.stageFeed vocabulary size ⟨deliveries, none⟩) fun _ staged =>
    staged.commit now createdAt

theorem commitRecords_ok_iff {vocabulary : Vocabulary} {builder : Builder} {size : Int}
    {deliveries : List Delivery} {now : String} {createdAt : Value} {snapshot : Snapshot} :
    (commitRecords vocabulary builder size deliveries now createdAt).1 = .ok snapshot ↔
      ∃ staged, outcome (builder.stageFeed vocabulary size ⟨deliveries, none⟩) = .ok staged ∧
        (staged.commit now createdAt).1 = .ok snapshot := by
  unfold commitRecords outcome
  rcases builder.stageFeed vocabulary size ⟨deliveries, none⟩ with ⟨fault | counts, staged⟩ <;>
    simp [andThen, Except.map]

/-- Staging leaves the settings of a new builder alone. -/
theorem settings_of_outcome {vocabulary : Vocabulary} {builder staged : Builder} {size : Int}
    {feed : Feed} (reached : outcome (builder.stageFeed vocabulary size feed) = .ok staged) :
    SameSettings builder staged := by
  obtain ⟨counts, -, same⟩ := Outcome.map_ok reached
  rw [← same]
  exact stageFeed_settings vocabulary builder size feed

section SameRecords

variable {vocabulary : Vocabulary} {first second : List Delivery} {size otherSize : Int}
  {generation otherGeneration : Int} {external : Bool}

theorem items_eq_of_same (same : ∀ delivery, delivery ∈ first ↔ delivery ∈ second) :
    Delivery.items vocabulary first = Delivery.items vocabulary second :=
  Set.ext fun _ => exists_congr fun delivery => and_congr_left fun _ => same delivery

/-- Builders that staged the same records hold the same items. -/
theorem holdAlike_of_same (same : ∀ delivery, delivery ∈ first ↔ delivery ∈ second)
    (wellFormed : ∀ delivery ∈ first, delivery.record.IsWellFormed)
    (unambiguous : Item.AreUnambiguous (Delivery.items vocabulary first))
    (positive : 0 < size) (otherPositive : 0 < otherSize) {staged other : Builder}
    (reached : outcome ((create generation external).stageFeed vocabulary size
      ⟨first, none⟩) = .ok staged)
    (otherReached : outcome ((create otherGeneration external).stageFeed vocabulary otherSize
      ⟨second, none⟩) = .ok other) :
    HoldAlike staged other (Delivery.items vocabulary first) where
  former := stageFeed_holds vocabulary generation external positive wellFormed reached
  latter := by
    rw [items_eq_of_same same]
    exact stageFeed_holds vocabulary otherGeneration external otherPositive
      (fun delivery member => wellFormed delivery ((same delivery).mpr member)) otherReached
  external := (settings_of_outcome reached).materializeExternal.trans
    (settings_of_outcome otherReached).materializeExternal.symm
  wellFormed := Delivery.items_areWellFormed vocabulary wellFormed
  unambiguous := unambiguous

/-- If one of two lists of the same records is staged and committed, the other one is too. -/
theorem exists_commitRecords (same : ∀ delivery, delivery ∈ first ↔ delivery ∈ second)
    (wellFormed : ∀ delivery ∈ first, delivery.record.IsWellFormed)
    (unambiguous : Item.AreUnambiguous (Delivery.items vocabulary first))
    (positive : 0 < size) (otherPositive : 0 < otherSize)
    (writable : Decimal.isWritable generation = Decimal.isWritable otherGeneration)
    {now otherNow : String} {createdAt otherCreatedAt : Value} {snapshot : Snapshot}
    (committed : (commitRecords vocabulary (create generation external) size first now
      createdAt).1 = .ok snapshot) :
    ∃ other, (commitRecords vocabulary (create otherGeneration external) otherSize second otherNow
      otherCreatedAt).1 = .ok other := by
  obtain ⟨staged, reached, made⟩ := commitRecords_ok_iff.mp committed
  have otherFormed : ∀ delivery ∈ second, delivery.record.IsWellFormed := fun delivery member =>
    wellFormed delivery ((same delivery).mpr member)
  obtain ⟨converted, consistent⟩ :=
    (exists_stageFeed_iff vocabulary generation external positive wellFormed).mp ⟨staged, reached⟩
  have otherConverted : Delivery.AreConverted vocabulary second := fun delivery member =>
    converted delivery ((same delivery).mpr member)
  obtain ⟨other, otherReached⟩ :=
    (exists_stageFeed_iff vocabulary otherGeneration external otherPositive otherFormed).mpr
      ⟨otherConverted, items_eq_of_same same ▸ consistent⟩
  have alike := holdAlike_of_same same wellFormed unambiguous positive otherPositive reached
    otherReached
  have settings := settings_of_outcome otherReached
  have writableHere : Decimal.isWritable other.generation = true := by
    obtain ⟨-, writableThere, shown, -⟩ := commit_ok made
    rw [shown.generation, (settings_of_outcome reached).generation] at writableThere
    rw [settings.generation]
    exact writable.symm.trans writableThere
  obtain ⟨found, otherMade⟩ := alike.exists_commit settings.committed writableHere made otherNow
    otherCreatedAt
  exact ⟨found, commitRecords_ok_iff.mpr ⟨other, otherReached, otherMade⟩⟩

end SameRecords

/-- A function, an edge from it to one outside the source tree, and a change of its file. -/
def loadRecord : Delivery := ⟨.text "entity", .object [("language", .text "rust"),
  ("entity_type", .text "function"), ("name", .text "load"), ("file_path", .text "a.rs"),
  ("start_line", .int 1), ("end_line", .int 2)]⟩

def callRecord : Delivery := ⟨.text "edge", .object [
  ("source", .text "rust:function:load:a.rs:1-2"),
  ("target", .text "rust:function:read:unknown:0-0")]⟩

def changeRecord : Delivery := ⟨.text "change_set", .object [("id", .text "c"),
  ("files", .list [.text "a.rs"])]⟩

/-- Only one of the records is an entity, and only one is a change set. -/
theorem loadRecord_unambiguous : Item.AreUnambiguous
    (Delivery.items Vocabulary.initial [loadRecord, callRecord, changeRecord]) := by
  have kind {delivery : Delivery} {item : Item}
      (member : delivery ∈ [loadRecord, callRecord, changeRecord])
      (converted : delivery.convert Vocabulary.initial = .ok item) :
      (∀ entity, item = .entity entity → delivery = loadRecord) ∧
        ∀ change, item = .change change → delivery = changeRecord := by
    simp only [List.mem_cons, List.not_mem_nil, or_false] at member
    rw [Delivery.convert_eq_ok_iff] at converted
    constructor
    · rintro entity rfl
      rcases member with rfl | rfl | rfl
      · rfl
      · exact absurd converted.1 (by decide)
      · exact absurd converted.1 (by decide)
    · rintro change rfl
      rcases member with rfl | rfl | rfl
      · exact absurd converted.1 (by decide)
      · exact absurd converted.1 (by decide)
      · rfl
  constructor
  · rintro first second ⟨delivery, member, converted⟩ ⟨other, otherMember, otherConverted⟩ -
    rw [(kind member converted).2 first rfl] at converted
    rw [(kind otherMember otherConverted).2 second rfl, converted] at otherConverted
    exact Item.change.inj (Except.ok.inj otherConverted)
  · rintro first second ⟨delivery, member, converted⟩ ⟨other, otherMember, otherConverted⟩ -
    rw [(kind member converted).1 first rfl] at converted
    rw [(kind otherMember otherConverted).1 second rfl, converted] at otherConverted
    rw [Item.entity.inj (Except.ok.inj otherConverted)]

end Builder

end CodeGraph

import CodeGraph.Proofs.ConvertedItems
import CodeGraph.Proofs.FaultKinds
import CodeGraph.Proofs.KeyGrammar
import CodeGraph.Proofs.ReadLimits
import CodeGraph.Proofs.StoredExactly

/-!
This file says which faults come of stored data. Whatever was read, they are all reported as faults
of the storage, except for a generation that is infinite.
-/

namespace CodeGraph

/-- A fault that is reported as one of the storage when it comes of stored data. -/
def Fault.IsReported (fault : Fault) : Prop := fault.inStoredData.isStorage = true

section Kinds

variable {α : Type}

theorem refuse_isReported (refusal : Refusal) :
    FailsWithin Fault.IsReported (refuse refusal : Outcome α) := FailsWithin.error rfl

/-- The defects of the shape or the content of a value are reported. -/
theorem crash_isReported {cause : Defect}
    (ofValue : cause.defectClass = .wrongType ∨ cause.defectClass = .wrongValue) :
    FailsWithin Fault.IsReported (crash cause : Outcome α) := by
  apply FailsWithin.error
  unfold Fault.IsReported Fault.inStoredData
  dsimp only
  rw [if_pos ofValue]
  rfl

theorem Outcome.OnlyRefuses.isReported {outcome : Outcome α} (only : OnlyRefuses outcome) :
    FailsWithin Fault.IsReported outcome := by
  intro fault failed
  obtain ⟨refusal, rfl⟩ := only fault failed
  rfl

end Kinds

open FailsWithin

namespace Value

theorem items_isReported (value : Value) : FailsWithin Fault.IsReported value.items := by
  unfold items
  split
  · exact ok _
  · exact crash_isReported (.inl rfl)

theorem toAtom_isReported (value : Value) : FailsWithin Fault.IsReported value.toAtom := by
  unfold toAtom
  split
  · exact ok _
  · exact crash_isReported (.inl rfl)

theorem toFields_isReported (value : Value) : FailsWithin Fault.IsReported value.toFields := by
  unfold toFields
  split
  · exact ok _
  · exact crash_isReported (.inl rfl)

/-- A value that is no infinite number gives a whole number, or it is at fault itself. -/
theorem toInteger_isReported {value : Value}
    (finite : ∀ negative, value ≠ .float (.infinite negative)) :
    FailsWithin Fault.IsReported value.toInteger := by
  unfold toInteger
  split
  · exact ok _
  · exact ok _
  · exact crash_isReported (.inr rfl)
  · exact absurd rfl (finite _)
  · exact ok _
  · split
    · exact ok _
    · exact crash_isReported (.inr rfl)
  · exact crash_isReported (.inl rfl)

/-- The items over which a value is walked stand one level below it. -/
theorem IsWritable.items {room : Nat} {value : Value} (writable : value.IsWritable room)
    {items : List Value} (walked : value.items? = some items) :
    ∀ item ∈ items, item.IsWritable (room - 1) := by
  intro item member
  unfold items? at walked
  split at walked
  · cases walked
    exact (isWritable_list_iff.mp writable).2 item member
  · cases walked
    obtain ⟨c, -, rfl⟩ := List.mem_map.mp member
    exact isWritable_text _ _
  · cases walked
    obtain ⟨field, -, rfl⟩ := List.mem_map.mp member
    exact isWritable_text _ _
  · cases walked

end Value

/-- Only the digits of an atom are in the way of writing it. -/
theorem Atom.writeDefect?_cause (atom : Atom) {room : Nat} {cause : Defect}
    (found : atom.toValue.writeDefect? room = some cause) : cause = .tooManyDigits := by
  cases atom with
  | int number =>
      simp only [Atom.toValue, Value.writeDefect?] at found
      split at found
      · cases found
      · exact (Option.some.inj found).symm
  | null | bool | float | text => cases found

theorem Address.parse_isReported (vocabulary : Vocabulary) (key : Value) :
    FailsWithin Fault.IsReported (parse vocabulary key) :=
  (parse_onlyRefuses vocabulary key).isReported

theorem FilePath.normalize_isReported {raw : Value} (shown : raw.CanBeShown) :
    FailsWithin Fault.IsReported (normalize raw) := (normalize_onlyRefuses shown).isReported

theorem ChangeSet.create_isReported {id files : Value} (idShown : id.CanBeShown)
    (filesShown : files.CanBeShown) : FailsWithin Fault.IsReported (create id files) := by
  rw [create, Value.whenShown_of idShown]
  apply files.items_isReported.bind
  intro items walked
  have shown := filesShown.items (Value.items_ok walked)
  exact (FailsWithin.mapM fun item member => FilePath.normalize_isReported
    ((shown item member).mono _ (Nat.sub_le _ _))).bind fun paths _ => ok _

/-- Names that cannot be put into an order are a defect of the data. -/
theorem NameOrder.sort_isReported {α : Type} (entries : List (Atom × α)) :
    FailsWithin Fault.IsReported (sort entries) := by
  unfold sort
  split
  · exact ok _
  · apply Order.arrange_failsWithin
    intro first second
    unfold Atom.comesBefore
    split
    · exact ok _
    · exact crash_isReported (.inl rfl)

theorem Edge.sort_isReported (edges : List Edge) :
    FailsWithin Fault.IsReported (sort edges) := by
  unfold sort
  split
  · exact crash_isReported (.inl rfl)
  · exact ok _

namespace Metadata

theorem pairOf_isReported (position : Nat) (item : Value) :
    FailsWithin Fault.IsReported (pairOf position item) := by
  unfold pairOf
  split
  · exact crash_isReported (.inl rfl)
  · exact (Value.toAtom_isReported _).map _
  · exact crash_isReported (.inr rfl)

theorem ofItems_isReported (position : Nat) (entries : List (Atom × Value)) (items : List Value) :
    FailsWithin Fault.IsReported (ofItems position entries items) := by
  induction items generalizing position entries with
  | nil => exact ok _
  | cons item rest inductionHypothesis =>
      unfold ofItems
      split
      · rename_i fault failed
        exact error (pairOf_isReported position item fault failed)
      · exact inductionHypothesis _ _

theorem ofOptional_isReported (value : Value) :
    FailsWithin Fault.IsReported (ofOptional value) := by
  unfold ofOptional
  split
  · unfold ofValue
    split
    · exact ok _
    · exact (Value.items_isReported _).bind fun items _ => (ofItems_isReported 0 [] items).map _
  · exact ok _

/-- Only the digits of a name are in the way of metadata whose document can be written. -/
theorem writeDefect?_cause {metadata : Metadata}
    (writable : metadata.toValue.IsWritable nestingLimit) {cause : Defect}
    (found : metadata.writeDefect? = some cause) : cause = .tooManyDigits := by
  rw [writeDefect?, writable.defectless, Option.or_none] at found
  obtain ⟨name, -, inside⟩ := List.exists_of_findSome?_eq_some found
  exact name.writeDefect?_cause inside

theorem canonicalText_isReported {metadata : Metadata}
    (writable : metadata.toValue.IsWritable nestingLimit) :
    FailsWithin Fault.IsReported metadata.canonicalText := by
  apply (NameOrder.sort_isReported metadata.entries).bind
  intro entries _
  split
  · rename_i cause found
    rw [writeDefect?_cause writable found]
    exact crash_isReported (.inr rfl)
  · exact ok _

end Metadata

/-- The metadata of the entity and its path nest at most so deep. -/
structure Entity.FitsWithin (room : Nat) (entity : Entity) : Prop where
  metadata : entity.metadata.toValue.IsWritable room
  path : entity.filePath.IsWritable room

namespace Content

theorem entityLine_isReported {entity : Entity} {room : Nat} (fits : entity.FitsWithin room)
    (small : room ≤ Value.shownLimit) : FailsWithin Fault.IsReported (entityLine entity) := by
  apply (Metadata.canonicalText_isReported
    (fits.metadata.mono Metadata.nestingLimit (Nat.le_succ_of_le small))).bind
  intro metadata _
  rw [Value.whenShown_of (fits.path.mono _ small)]
  exact ok _

theorem checkedEdgeLine_isReported (edge : Edge) :
    FailsWithin Fault.IsReported (checkedEdgeLine edge) := by
  refine FailsWithin.whenShown (ok _) fun cause found => ?_
  rw [edge.relation.writeDefect?_cause found]
  rfl

end Content

namespace Builder

theorem stageEntity_isReported (builder : Builder) (entity : Entity) :
    FailsWithin Fault.IsReported (builder.stageEntity entity) := by
  unfold stageEntity
  split
  · split
    · exact ok _
    · exact error rfl
  · exact ok _

theorem stageEdge_isReported (builder : Builder) (edge : Edge) :
    FailsWithin Fault.IsReported (builder.stageEdge edge) := by
  unfold stageEdge
  split
  · split <;> exact ok _
  · exact refuse_isReported _

/-- A commit of entities that nest no deeper than what can be shown fails only for reasons that lie
in the data. -/
theorem commit_isReported {builder : Builder} {room : Nat} (small : room ≤ Value.shownLimit)
    (fits : ∀ entity ∈ builder.materialized.rows, entity.FitsWithin room)
    (now : String) (createdAt : Value) :
    FailsWithin Fault.IsReported (builder.commit now createdAt).1 := by
  have written (edges : List Edge) : FailsWithin Fault.IsReported
      (Content.text builder.materialized.rows edges builder.changeSets.rows) :=
    (FailsWithin.mapM fun entity member =>
      Content.entityLine_isReported (fits entity member) small).bind fun _ _ =>
        (FailsWithin.mapM fun edge _ => Content.checkedEdgeLine_isReported edge).bind
          fun _ _ => ok _
  have made : FailsWithin Fault.IsReported (builder.snapshot now createdAt) := by
    unfold snapshot
    split
    · split
      · rename_i fault failed
        exact error (Edge.sort_isReported builder.edges fault failed)
      · exact ((written _).map _).map _
    · exact error rfl
  rcases commit_cases builder now createdAt with
    ⟨-, ended⟩ | ⟨-, fault, failed, ended⟩ | ⟨-, -, snapshot, -, ended⟩ |
      ⟨-, -, snapshot, -, ended⟩ <;> rw [ended]
  · exact error rfl
  · exact error (made fault failed)
  · exact ok _
  · exact crash_isReported (.inr rfl)

end Builder

namespace Value

theorem IsWritable.storedFieldOr {room : Nat} {fields : List (String × Value)}
    (writable : ∀ field ∈ fields, field.2.IsWritable room) {absent : Value}
    (absentWritable : absent.IsWritable room) (name : String) :
    (Snapshot.storedFieldOr fields name absent).IsWritable room := by
  unfold Snapshot.storedFieldOr
  cases found : lookup name fields with
  | none => exact absentWritable
  | some value => exact writable (name, value) (mem_of_lookup found)

end Value

namespace Metadata

theorem toValue_isWritable {room : Nat} {entries : List (Atom × Value)} (some : room ≠ 0)
    (writable : ∀ entry ∈ entries, entry.2.IsWritable (room - 1)) :
    (toValue ⟨entries⟩).IsWritable room := by
  refine Value.isWritable_object_iff.mpr ⟨some, fun field member => ?_⟩
  obtain ⟨entry, inside, rfl⟩ := List.mem_map.mp member
  exact writable entry inside

theorem ofItems_isWritable {room position : Nat} {items : List Value}
    (itemsWritable : ∀ item ∈ items, item.IsWritable room)
    {entries result : List (Atom × Value)}
    (writable : ∀ entry ∈ entries, entry.2.IsWritable room)
    (given : ofItems position entries items = .ok result) :
    ∀ entry ∈ result, entry.2.IsWritable room := by
  induction items generalizing position entries with
  | nil =>
      cases given
      exact writable
  | cons item rest inductionHypothesis =>
      unfold ofItems at given
      split at given
      · cases given
      · rename_i name value pair
        have first : value.IsWritable room := by
          unfold pairOf at pair
          split at pair
          · cases pair
          · rename_i walked
            obtain ⟨atom, -, same⟩ := Outcome.map_ok pair
            obtain ⟨-, rfl⟩ := Prod.mk.inj same
            -- The value of a pair stands one level deeper than in the metadata.
            have parts := (itemsWritable item List.mem_cons_self).items walked
            exact (parts _ (List.mem_cons_of_mem _ List.mem_cons_self)).mono room
              (Nat.sub_le room 1)
          · cases pair
        apply inductionHypothesis (fun other member =>
          itemsWritable other (List.mem_cons_of_mem _ member)) _ given
        intro entry member
        rcases mem_setEntry member with ⟨same, -⟩ | kept
        · exact same ▸ first
        · exact writable entry kept

/-- Metadata can be written wherever the value of which they are made can. -/
theorem ofOptional_isWritable {room : Nat} (some : room ≠ 0) {value : Value}
    (writable : value.IsWritable room) {metadata : Metadata}
    (given : ofOptional value = .ok metadata) : metadata.toValue.IsWritable room := by
  unfold ofOptional at given
  split at given
  · unfold ofValue at given
    split at given
    · cases given
      apply toValue_isWritable some
      intro entry member
      obtain ⟨field, inside, rfl⟩ := List.mem_map.mp member
      exact (Value.isWritable_object_iff.mp writable).2 field inside
    · obtain ⟨items, walked, given⟩ := Outcome.bind_ok given
      obtain ⟨entries, converted, rfl⟩ := Outcome.map_ok given
      apply toValue_isWritable some
      exact ofItems_isWritable (writable.items (Value.items_ok walked))
        (fun entry member => absurd member List.not_mem_nil) converted
  · cases given
    exact toValue_isWritable some fun entry member => absurd member List.not_mem_nil

end Metadata

namespace Snapshot

/-- The list of a stored field stands one level below the fields. -/
theorem isWritable_storedFieldOr_items {room : Nat} {fields : List (String × Value)}
    (writable : (Value.object fields).IsWritable room) (large : 1 < room) (name : String) :
    (storedFieldOr fields name (.list [])).IsWritable (room - 1) :=
  Value.IsWritable.storedFieldOr (Value.isWritable_object_iff.mp writable).2
    (Value.isWritable_list_iff.mpr ⟨by omega, List.forall_mem_nil _⟩) name

theorem storedField_isReported (fields : List (String × Value)) (name : String) :
    FailsWithin Fault.IsReported (storedField fields name) := by
  unfold storedField
  split
  · exact ok _
  · exact error rfl

theorem storedEntity_isReported (vocabulary : Vocabulary) (item : Value) :
    FailsWithin Fault.IsReported (storedEntity vocabulary item) := by
  apply item.toFields_isReported.bind
  intro fields _
  apply (storedField_isReported fields "key").bind
  intro key _
  apply (Address.parse_isReported vocabulary key).bind
  intro address _
  apply (storedField_isReported fields "file_path").bind
  intro path _
  exact (Metadata.ofOptional_isReported _).bind fun metadata _ => ok _

theorem storedEdge_isReported (vocabulary : Vocabulary) (item : Value) :
    FailsWithin Fault.IsReported (storedEdge vocabulary item) := by
  apply item.toFields_isReported.bind
  intro fields _
  apply (storedField_isReported fields "source").bind
  intro sourceKey _
  apply (Address.parse_isReported vocabulary sourceKey).bind
  intro source _
  apply (storedField_isReported fields "target").bind
  intro targetKey _
  apply (Address.parse_isReported vocabulary targetKey).bind
  intro target _
  dsimp only
  split
  · exact (Value.toAtom_isReported _).bind fun relation _ => ok _
  · exact refuse_isReported _

theorem storedChange_isReported {item : Value} (shown : item.CanBeShown) :
    FailsWithin Fault.IsReported (storedChange item) := by
  apply item.toFields_isReported.bind
  intro fields isObject
  obtain rfl := Value.toFields_ok isObject
  have inside : ∀ field ∈ fields, field.2.CanBeShown := fun field member =>
    ((Value.isWritable_object_iff.mp shown).2 field member).mono _ (Nat.sub_le _ _)
  apply (storedField_isReported fields "id").bind
  intro id given
  have none : (Value.list []).CanBeShown :=
    Value.isWritable_list_iff.mpr ⟨by decide, List.forall_mem_nil _⟩
  exact ChangeSet.create_isReported
    (inside ("id", id) (Value.mem_of_lookup (storedField_ok given)))
    (Value.IsWritable.storedFieldOr inside none "files")

theorem stageStored_isReported {α : Type} {convert : Value → Outcome α}
    {stage : Builder → α → Outcome Builder} {items : List Value}
    (converts : ∀ item ∈ items, FailsWithin Fault.IsReported (convert item))
    (stages : ∀ builder value, FailsWithin Fault.IsReported (stage builder value))
    (builder : Builder) :
    FailsWithin Fault.IsReported (stageStored convert stage builder items) := by
  induction items generalizing builder with
  | nil => exact ok _
  | cons item rest inductionHypothesis =>
      obtain ⟨head, tail⟩ := List.forall_mem_cons.mp converts
      have first : FailsWithin Fault.IsReported ((convert item).bind (stage builder)) :=
        head.bind fun value _ => stages builder value
      unfold stageStored
      split
      · rename_i fault failed
        exact error (first fault failed)
      · exact inductionHypothesis tail _

/-- The generation of the stored fields is an infinite number. -/
def HasInfiniteGeneration (fields : List (String × Value)) : Prop :=
  ∃ negative, Value.lookup "generation" fields = some (.float (.infinite negative))

theorem stageFields_isReported (vocabulary : Vocabulary) {fields : List (String × Value)}
    (shown : (Value.object fields).CanBeShown) (finite : ¬HasInfiniteGeneration fields) :
    FailsWithin Fault.IsReported (stageFields vocabulary fields) := by
  have generation : ∀ negative,
      storedFieldOr fields "generation" (.int 0) ≠ .float (.infinite negative) := by
    intro negative same
    unfold storedFieldOr at same
    cases found : Value.lookup "generation" fields with
    | none =>
        rw [found] at same
        cases same
    | some value =>
        rw [found] at same
        exact finite ⟨negative, found.trans (congrArg some same)⟩
  apply (Value.toInteger_isReported generation).bind
  intro generation _
  apply (Value.items_isReported _).bind
  intro entities _
  apply (stageStored_isReported (fun item _ => storedEntity_isReported vocabulary item)
    Builder.stageEntity_isReported _).bind
  intro first _
  apply (Value.items_isReported _).bind
  intro edges _
  apply (stageStored_isReported (fun item _ => storedEdge_isReported vocabulary item)
    Builder.stageEdge_isReported first).bind
  intro second _
  apply (Value.items_isReported _).bind
  intro changes walked
  have listed := (isWritable_storedFieldOr_items shown (by decide)
    "change_sets").items (Value.items_ok walked)
  exact stageStored_isReported
    (fun item member => storedChange_isReported
      ((listed item member).mono _ (Nat.le_trans (Nat.sub_le _ _) (Nat.sub_le _ _))))
    (fun builder change => ok _) second

/-- The parts of a stored entity stand one level below its item. -/
theorem storedEntity_fits {vocabulary : Vocabulary} {room : Nat} {item : Value}
    (writable : item.IsWritable room) (large : 1 < room) {entity : Entity}
    (converted : storedEntity vocabulary item = .ok entity) : entity.FitsWithin (room - 1) := by
  obtain ⟨fields, isObject, converted⟩ := Outcome.bind_ok converted
  obtain ⟨key, -, converted⟩ := Outcome.bind_ok converted
  obtain ⟨address, -, converted⟩ := Outcome.bind_ok converted
  obtain ⟨path, pathGiven, converted⟩ := Outcome.bind_ok converted
  obtain ⟨metadata, given, converted⟩ := Outcome.bind_ok converted
  cases converted
  obtain rfl := Value.toFields_ok isObject
  have inside := (Value.isWritable_object_iff.mp writable).2
  exact {
    metadata := Metadata.ofOptional_isWritable (by omega)
      (Value.IsWritable.storedFieldOr inside ⟨rfl⟩ "metadata") given
    path := inside ("file_path", path) (Value.mem_of_lookup (storedField_ok pathGiven)) }

/-- The parts of the entities that are staged stand three levels below the stored fields. -/
theorem stageFields_fits {vocabulary : Vocabulary} {fields : List (String × Value)} {room : Nat}
    (writable : (Value.object fields).IsWritable room) (large : 3 < room) {builder : Builder}
    (staged : stageFields vocabulary fields = .ok builder) :
    ∀ entity ∈ builder.materialized.rows, entity.FitsWithin (room - 3) := by
  obtain ⟨items, -, entities, -, walked, -, converted, -, table, -, bare⟩ := stageFields_ok staged
  have list := isWritable_storedFieldOr_items writable (by omega) "entities"
  intro entity member
  rw [Builder.materialized_eq bare, table] at member
  obtain ⟨item, itemMember, stored⟩ := Outcome.exists_of_forall₂ converted.flip
    (Table.mem_of_mem_ofList member)
  have itemWritable := list.items (Value.items_ok walked) item itemMember
  exact storedEntity_fits itemWritable (by omega) stored

/-- Fields that were read make up a snapshot, or the storage is at fault, unless their generation is
infinite. -/
theorem ofFields_isStorage (vocabulary : Vocabulary) (now : String)
    {fields : List (String × Value)}
    (writable : (Value.object fields).IsWritable Json.nestingLimit)
    (finite : ¬HasInfiniteGeneration fields) :
    FailsWithin (fun fault => fault.isStorage = true) (ofFields vocabulary now fields) := by
  have rebuilt : FailsWithin Fault.IsReported (rebuild vocabulary now fields) := by
    apply (stageFields_isReported vocabulary (writable.mono _ (by decide)) finite).bind
    intro builder staged
    exact Builder.commit_isReported (by decide) (stageFields_fits writable (by decide) staged) _ _
  unfold ofFields
  split
  · rename_i fault failed
    exact error (rebuilt fault failed)
  · have inside := (Value.isWritable_object_iff.mp writable).2
    have absent : Value.null.IsWritable (Json.nestingLimit - 1) := ⟨rfl⟩
    have shown := (Value.IsWritable.storedFieldOr inside absent "snapshot_id").mono
      Value.shownLimit (by decide)
    unfold checkIdentifier
    split
    · rw [Value.whenShown_of shown]
      exact error rfl
    · exact ok _

/-- A generation that is infinite is a defect, whatever else was stored. -/
theorem ofFields_of_infinite (vocabulary : Vocabulary) (now : String)
    {fields : List (String × Value)} (endless : HasInfiniteGeneration fields) :
    ofFields vocabulary now fields = crash .infinityToInteger := by
  obtain ⟨negative, found⟩ := endless
  have generation : storedFieldOr fields "generation" (.int 0) = .float (.infinite negative) := by
    unfold storedFieldOr
    rw [found]
    rfl
  unfold ofFields rebuild stageFields
  rw [generation]
  rfl

end Snapshot

end CodeGraph

import CodeGraph.Proofs.Outcomes
import CodeGraph.Proofs.StoredItems
import CodeGraph.Record.Conversion

/-!
This file says what the items have in common that are converted from well-formed records.
-/

namespace CodeGraph

namespace Value

theorem isWellFormed_null : IsWellFormed .null := ⟨trivial, trivial⟩

theorem isWellFormed_text (value : String) : IsWellFormed (.text value) := ⟨trivial, trivial⟩

theorem IsWellFormed.item {items : List Value} (wellFormed : IsWellFormed (.list items)) :
    ∀ value ∈ items, value.IsWellFormed := fun value member =>
  ⟨itemsHaveDoubles_iff.mp wellFormed.doubles value member,
    itemsHaveDistinctNames_iff.mp wellFormed.names value member⟩

theorem IsWellFormed.field {fields : List (String × Value)}
    (wellFormed : IsWellFormed (.object fields)) :
    ∀ field ∈ fields, field.2.IsWellFormed := fun field member =>
  ⟨fieldsHaveDoubles_iff.mp wellFormed.doubles field member,
    fieldsHaveDistinctNames_iff.mp wellFormed.names.2 field member⟩

/-- The items over which a well-formed value is walked are well formed. -/
theorem IsWellFormed.items {value : Value} (wellFormed : value.IsWellFormed) {items : List Value}
    (walked : value.items? = some items) : ∀ item ∈ items, item.IsWellFormed := by
  cases value with
  | list values =>
      cases walked
      exact wellFormed.item
  | text text =>
      cases walked
      intro item member
      obtain ⟨c, -, rfl⟩ := List.mem_map.mp member
      exact isWellFormed_text _
  | object fields =>
      cases walked
      intro item member
      obtain ⟨field, -, rfl⟩ := List.mem_map.mp member
      exact isWellFormed_text _
  | _ => cases walked

/-- A value that has items can be walked. -/
theorem items_ok {value : Value} {items : List Value} (walked : value.items = .ok items) :
    value.items? = some items := by
  unfold Value.items at walked
  split at walked
  · rename_i found
    rw [found, Except.ok.inj walked]
  · cases walked

/-- A value with fields is an object. -/
theorem toFields_ok {value : Value} {fields : List (String × Value)}
    (isObject : value.toFields = .ok fields) : value = .object fields := by
  cases value with
  | object others => exact congrArg Value.object (Except.ok.inj isObject)
  | _ => cases isObject

theorem mem_of_lookup {name : String} {fields : List (String × Value)} {value : Value}
    (found : lookup name fields = some value) : (name, value) ∈ fields := by
  induction fields with
  | nil => cases found
  | cons field rest inductionHypothesis =>
      unfold lookup at found
      split at found
      · rename_i same
        cases found
        rw [← same]
        exact List.mem_cons_self
      · exact List.mem_cons_of_mem _ (inductionHypothesis found)

end Value

theorem isWellFormed_optionalField {fields : List (String × Value)}
    (wellFormed : Value.IsWellFormed (.object fields)) (name : String) :
    (optionalField fields name).IsWellFormed := by
  unfold optionalField
  cases found : Value.lookup name fields with
  | none => exact Value.isWellFormed_null
  | some value => exact wellFormed.field (name, value) (Value.mem_of_lookup found)

namespace Metadata

theorem empty_isWellFormed : empty.IsWellFormed :=
  ⟨fun _ member => absurd member List.not_mem_nil, List.Pairwise.nil⟩

theorem mem_setEntry {name : Atom} {value : Value} {entries : List (Atom × Value)}
    {entry : Atom × Value} (member : entry ∈ setEntry name value entries) :
    (entry.2 = value ∧ (entry.1 = name ∨ ∃ old ∈ entries, old.1 = entry.1)) ∨ entry ∈ entries := by
  induction entries with
  | nil =>
      rw [setEntry, List.mem_singleton] at member
      rw [member]
      exact Or.inl ⟨rfl, Or.inl rfl⟩
  | cons first rest inductionHypothesis =>
      unfold setEntry at member
      split at member
      · rcases List.mem_cons.mp member with rfl | behind
        · exact Or.inl ⟨rfl, Or.inr ⟨first, List.mem_cons_self, rfl⟩⟩
        · exact Or.inr (List.mem_cons_of_mem _ behind)
      · rcases List.mem_cons.mp member with rfl | behind
        · exact Or.inr List.mem_cons_self
        · rcases inductionHypothesis behind with ⟨same, named | ⟨old, inside, named⟩⟩ | kept
          · exact Or.inl ⟨same, Or.inl named⟩
          · exact Or.inl ⟨same, Or.inr ⟨old, List.mem_cons_of_mem _ inside, named⟩⟩
          · exact Or.inr (List.mem_cons_of_mem _ kept)

/-- A set entry keeps the metadata well formed. -/
theorem IsWellFormed.setEntry {entries : List (Atom × Value)}
    (wellFormed : IsWellFormed ⟨entries⟩) (name : Atom) {value : Value}
    (valueWellFormed : value.IsWellFormed) :
    IsWellFormed ⟨Metadata.setEntry name value entries⟩ := by
  refine ⟨fun entry member => ?_, ?_⟩
  · rcases mem_setEntry member with ⟨same, -⟩ | kept
    · rw [same]
      exact valueWellFormed
    · exact wellFormed.values entry kept
  · have names := wellFormed.names
    dsimp only at names ⊢
    clear wellFormed
    induction entries with
    | nil => exact List.pairwise_singleton _ _
    | cons first rest inductionHypothesis =>
        obtain ⟨apart, restApart⟩ := List.pairwise_cons.mp names
        unfold Metadata.setEntry
        split
        · exact List.pairwise_cons.mpr ⟨apart, restApart⟩
        · rename_i other
          refine List.pairwise_cons.mpr ⟨fun entry member => ?_, inductionHypothesis restApart⟩
          rcases mem_setEntry member with ⟨-, named | ⟨old, inside, named⟩⟩ | kept
          · rw [named]
            simpa using other
          · rw [← named]
            exact apart old inside
          · exact apart entry kept

/-- The entry of a pair holds one of its well-formed parts. -/
theorem pairOf_isWellFormed {position : Nat} {item : Value} {entry : Atom × Value}
    (wellFormed : item.IsWellFormed) (given : pairOf position item = .ok entry) :
    entry.2.IsWellFormed := by
  unfold pairOf at given
  split at given
  · cases given
  · rename_i name value walked
    obtain ⟨atom, -, rfl⟩ := Outcome.map_ok given
    exact wellFormed.items walked value (List.mem_cons_of_mem _ List.mem_cons_self)
  · cases given

theorem ofItems_isWellFormed {items : List Value}
    (itemsWellFormed : ∀ item ∈ items, item.IsWellFormed) {position : Nat}
    {entries result : List (Atom × Value)} (wellFormed : IsWellFormed ⟨entries⟩)
    (given : ofItems position entries items = .ok result) : IsWellFormed ⟨result⟩ := by
  induction items generalizing position entries with
  | nil =>
      cases given
      exact wellFormed
  | cons item rest inductionHypothesis =>
      unfold ofItems at given
      split at given
      · cases given
      · rename_i name value pair
        have valueWellFormed := pairOf_isWellFormed (itemsWellFormed item List.mem_cons_self) pair
        exact inductionHypothesis
          (fun other member => itemsWellFormed other (List.mem_cons_of_mem _ member))
          (wellFormed.setEntry name valueWellFormed) given

/-- The fields of a well-formed object are well-formed metadata. -/
theorem ofFields_isWellFormed {fields : List (String × Value)}
    (wellFormed : Value.IsWellFormed (.object fields)) :
    IsWellFormed ⟨fields.map fun field => (.text field.1, field.2)⟩ := by
  refine ⟨fun entry member => ?_, List.pairwise_map.mpr ?_⟩
  · obtain ⟨field, inside, rfl⟩ := List.mem_map.mp member
    exact wellFormed.field field inside
  · refine (List.pairwise_map.mp wellFormed.names.1).imp fun apart => ?_
    simpa [Atom.agrees] using apart

/-- Metadata that are taken from a well-formed value are well formed. -/
theorem ofOptional_isWellFormed {value : Value} (wellFormed : value.IsWellFormed)
    {metadata : Metadata} (given : ofOptional value = .ok metadata) : metadata.IsWellFormed := by
  unfold ofOptional at given
  split at given
  · unfold ofValue at given
    split at given
    · cases given
      exact ofFields_isWellFormed wellFormed
    · obtain ⟨items, walked, given⟩ := Outcome.bind_ok given
      obtain ⟨entries, made, rfl⟩ := Outcome.map_ok given
      refine ofItems_isWellFormed (fun item member => ?_) empty_isWellFormed made
      unfold Value.items at walked
      split at walked
      · rename_i found
        cases walked
        exact wellFormed.items found item member
      · cases walked
  · cases given
    exact empty_isWellFormed

end Metadata

/-- A field that is required is found. -/
theorem RecordKind.require_ok {kind : RecordKind} {fields : List (String × Value)} {name : String}
    {value : Value} (given : kind.require fields name = .ok value) :
    Value.lookup name fields = some value := by
  unfold require at given
  split at given
  · rename_i found
    rw [found, Except.ok.inj given]
  · cases given

namespace Entity

/-- The place of an entity lies outside the source tree, or it is made of the path and the lines. -/
inductive IsMadeOf (vocabulary : Vocabulary) (language kind name filePath lineRange : Value) :
    Address → Value → Prop where
  | outside {address : Address} (reserved : meansExternal filePath = true)
      (range : lineRange = .null ∨
        ∃ items, lineRange.items = .ok items ∧ isEmptyRange items = true)
      (made : Address.forExternal vocabulary language kind name = .ok address) :
      IsMadeOf vocabulary language kind name filePath lineRange address (.text FilePath.unknown)
  | inside {address : Address} {path : String} {first last : Value}
      (given : meansExternal filePath = false)
      (range : (lineRange = .null ∧ first = .int 0 ∧ last = .int 0) ∨
        bounds lineRange = .ok (first, last))
      (made : Address.forSource vocabulary language kind name filePath first last = .ok address)
      (normal : FilePath.normalize filePath = .ok path) :
      IsMadeOf vocabulary language kind name filePath lineRange address (.text path)

/-- An entity that is made has a place and the given metadata. -/
theorem create_isMadeOf {vocabulary : Vocabulary}
    {language kind name filePath lineRange metadata : Value} {entity : Entity}
    (made : create vocabulary language kind name filePath lineRange metadata = .ok entity) :
    IsMadeOf vocabulary language kind name filePath lineRange entity.address entity.filePath ∧
      Metadata.ofOptional metadata = .ok entity.metadata := by
  unfold create at made
  split at made
  · rename_i reserved
    have outside (range : lineRange = .null ∨
        ∃ items, lineRange.items = .ok items ∧ isEmptyRange items = true)
        (made : createExternal vocabulary language kind name metadata = .ok entity) :
        IsMadeOf vocabulary language kind name filePath lineRange entity.address
          entity.filePath ∧ Metadata.ofOptional metadata = .ok entity.metadata := by
      obtain ⟨address, reached, made⟩ := Outcome.bind_ok made
      obtain ⟨given, taken, made⟩ := Outcome.bind_ok made
      cases made
      exact ⟨.outside reserved range reached, taken⟩
    split at made
    · exact outside (.inl rfl) made
    · obtain ⟨items, walked, made⟩ := Outcome.bind_ok made
      split at made
      · rename_i empty
        exact outside (.inr ⟨items, walked, empty⟩) made
      · exact absurd made Value.whenShown_error_ne_ok
  · rename_i apart
    have inside {first last : Value} (range : (lineRange = .null ∧ first = .int 0 ∧
          last = .int 0) ∨ bounds lineRange = .ok (first, last))
        (made : (do
          let address ← Address.forSource vocabulary language kind name filePath first last
          let path ← FilePath.normalize filePath
          let metadata ← Metadata.ofOptional metadata
          return ⟨address, .text path, metadata⟩) = (.ok entity : Outcome Entity)) :
        IsMadeOf vocabulary language kind name filePath lineRange entity.address
          entity.filePath ∧ Metadata.ofOptional metadata = .ok entity.metadata := by
      obtain ⟨address, reached, made⟩ := Outcome.bind_ok made
      obtain ⟨path, normal, made⟩ := Outcome.bind_ok made
      obtain ⟨given, taken, made⟩ := Outcome.bind_ok made
      cases made
      exact ⟨.inside (Bool.eq_false_iff.mpr apart) range reached normal, taken⟩
    dsimp only at made
    split at made
    · obtain ⟨⟨first, last⟩, same, made⟩ := Outcome.bind_ok made
      cases same
      exact inside (.inl ⟨rfl, rfl, rfl⟩) made
    · obtain ⟨⟨first, last⟩, bounded, made⟩ := Outcome.bind_ok made
      exact inside (.inr bounded) made

/-- An entity that is made has a text for its path and the given metadata. -/
theorem create_ok {vocabulary : Vocabulary} {language kind name filePath lineRange metadata : Value}
    {entity : Entity}
    (made : create vocabulary language kind name filePath lineRange metadata = .ok entity) :
    (∃ path, entity.filePath = .text path) ∧
      Metadata.ofOptional metadata = .ok entity.metadata := by
  obtain ⟨place, taken⟩ := create_isMadeOf made
  generalize entity.filePath = filePath at place ⊢
  cases place with
  | outside => exact ⟨⟨_, rfl⟩, taken⟩
  | inside => exact ⟨⟨_, rfl⟩, taken⟩

/-- The fields of a record give this line range for an entity of the name. -/
def GivesLines (fields : List (String × Value)) (name lineRange : Value) : Prop :=
  (GivenRange.ofRecord? fields = none ∧ lineRange = .null) ∨
    ∃ range first last, GivenRange.ofRecord? fields = some range ∧
      range.resolve name = .ok (first, last) ∧ lineRange = .list [.int first, .int last]

/-- An entity that is converted is made of the fields. -/
theorem ofFields_create {vocabulary : Vocabulary} {fields : List (String × Value)}
    {entity : Entity} (converted : ofFields vocabulary fields = .ok entity) :
    ∃ language kind name lineRange, Value.lookup "language" fields = some language ∧
      Value.lookup "entity_type" fields = some kind ∧ Value.lookup "name" fields = some name ∧
      GivesLines fields name lineRange ∧
      create vocabulary language kind name (optionalField fields "file_path") lineRange
        (optionalField fields "metadata") = .ok entity := by
  obtain ⟨language, languageGiven, made⟩ := Outcome.bind_ok converted
  obtain ⟨kind, kindGiven, made⟩ := Outcome.bind_ok made
  obtain ⟨name, named, made⟩ := Outcome.bind_ok made
  refine ⟨language, kind, name, ?_⟩
  simp only [RecordKind.require_ok languageGiven, RecordKind.require_ok kindGiven,
    RecordKind.require_ok named, true_and]
  dsimp only at made
  split at made
  · rename_i absent
    exact ⟨.null, .inl ⟨absent, rfl⟩, made⟩
  · rename_i range present
    obtain ⟨lineRange, resolved, made⟩ := Outcome.bind_ok made
    obtain ⟨lines, given, rfl⟩ := Outcome.map_ok resolved
    exact ⟨_, .inr ⟨range, lines.1, lines.2, present, given, rfl⟩, made⟩

/-- An entity that is converted has a text for its path and the metadata of the record. -/
theorem ofRecord_ok {vocabulary : Vocabulary} {record : Value} {entity : Entity}
    (converted : ofRecord vocabulary record = .ok entity) :
    (∃ path, entity.filePath = .text path) ∧ ∃ fields, record = .object fields ∧
      Metadata.ofOptional (optionalField fields "metadata") = .ok entity.metadata := by
  obtain ⟨fields, isObject, made⟩ := Outcome.bind_ok converted
  obtain ⟨_, _, _, _, -, -, -, -, made⟩ := ofFields_create made
  obtain ⟨path, taken⟩ := create_ok made
  exact ⟨path, fields, Value.toFields_ok isObject, taken⟩

/-- The entity of a well-formed record has well-formed metadata. -/
theorem ofRecord_isWellFormed {vocabulary : Vocabulary} {record : Value}
    (wellFormed : record.IsWellFormed) {entity : Entity}
    (converted : ofRecord vocabulary record = .ok entity) : entity.metadata.IsWellFormed := by
  obtain ⟨-, fields, rfl, taken⟩ := ofRecord_ok converted
  exact Metadata.ofOptional_isWellFormed (isWellFormed_optionalField wellFormed "metadata") taken

end Entity

/-- The paths of a change set are in normal form. -/
theorem ChangeSet.create_ok {id files : Value} {change : ChangeSet}
    (made : create id files = .ok change) :
    ∀ path ∈ change.files.rows, ∃ raw, FilePath.normalize raw = .ok path := by
  obtain ⟨items, -, made⟩ := Outcome.bind_ok (Value.whenShown_ok_iff.mp made).2
  obtain ⟨paths, normal, made⟩ := Outcome.bind_ok made
  cases made
  intro path member
  obtain ⟨raw, -, accepted⟩ := Outcome.exists_of_forall₂ (Outcome.mapM_ok normal).flip
    (Table.mem_of_mem_ofList member)
  exact ⟨raw, accepted⟩

theorem ChangeSet.ofRecord_ok {record : Value} {change : ChangeSet}
    (converted : ChangeSet.ofRecord record = .ok change) :
    ∀ path ∈ change.files.rows, ∃ raw, FilePath.normalize raw = .ok path := by
  obtain ⟨fields, -, converted⟩ := Outcome.bind_ok converted
  obtain ⟨id, -, converted⟩ := Outcome.bind_ok converted
  exact create_ok converted

end CodeGraph

import CodeGraph.Proofs.PartFaults

/-!
This file says which shape a record needs. A record of its shape is converted or refused, and a
record without it is never converted: it is refused for another reason, or it ends in a defect.
-/

namespace CodeGraph

open FailsWithin

namespace GivenRange

/-- None of the numbers that are looked at is infinite. -/
def IsBounded (range : GivenRange) : Prop :=
  ∀ items, range.bounds.items? = some items → ∀ item ∈ items.take 3,
    ∀ negative, item ≠ .float (.infinite negative)

theorem numbers_isReported {range : GivenRange} (bounded : range.IsBounded) :
    FailsWithin Fault.IsReported range.numbers := by
  apply (Value.items_isReported _).bind
  intro items walked
  exact FailsWithin.mapM fun item member =>
    Value.toInteger_isReported (bounded items (Value.items_ok walked) item member)

/-- Two lines are found exactly if the range gives two numbers. -/
theorem resolve_ok_iff {range : GivenRange} {name : Value} {lines : Int × Int} :
    range.resolve name = .ok lines ↔ range.numbers = .ok [lines.1, lines.2] := by
  have refused : range.refuseFor name ≠ .ok lines := fun given =>
    Value.whenShown_error_ne_ok (Value.whenShown_ok_iff.mp given).2
  unfold resolve
  split
  · rename_i first last counted
    rw [counted]
    constructor
    · rintro ⟨⟩
      rfl
    · rintro ⟨⟩
      rfl
  · rename_i cause failed
    rw [failed]
    refine ⟨fun given => ?_, fun given => by cases given⟩
    split at given
    · cases given
    · exact absurd given refused
  · rename_i other _
    exact ⟨fun given => absurd given refused, fun given => absurd given (other _ _)⟩

/-- The range gives two numbers that have texts, or it can be shown in the message that refuses it;
and no number of it is infinite. -/
structure IsFit (range : GivenRange) : Prop where
  bounded : range.IsBounded
  lines : ∀ first last, range.numbers = .ok [first, last] → AreWritable first last
  shown : (∀ first last, range.numbers ≠ .ok [first, last]) → range.bounds.CanBeShown

theorem refuseFor_spares {shaped : Prop} {range : GivenRange} {name : Value}
    (named : shaped → name.CanBeName) (shown : shaped → range.bounds.CanBeShown) :
    FailsWithin (Fault.ComesOf Refusal.SparesToken shaped) (range.refuseFor name) :=
  FailsWithin.comesOf_whenShown (fun fits => (named fits).canBeShown)
    (FailsWithin.comesOf_whenShown shown (refuse_comesOf trivial))

/-- A range that fits gives its lines or is refused. -/
theorem resolve_spares {shaped : Prop} {range : GivenRange} {name : Value}
    (named : shaped → name.CanBeName) (fit : shaped → range.IsFit) :
    FailsWithin (Fault.ComesOf Refusal.SparesToken shaped) (range.resolve name) := by
  unfold resolve
  split
  · exact ok _
  · rename_i cause failed
    have lineless (first last : Int) : range.numbers ≠ .ok [first, last] := by
      rw [failed]
      exact fun given => by cases given
    split
    · rename_i endless
      refine crash_comesOf fun fits => ?_
      have reported : Fault.IsReported (.defect cause) :=
        numbers_isReported (fit fits).bounded _ failed
      unfold Fault.IsReported Fault.inStoredData at reported
      dsimp only at reported
      rw [endless, if_neg (by decide)] at reported
      cases reported
    · exact refuseFor_spares named fun fits => (fit fits).shown lineless
  · rename_i lineless _
    exact refuseFor_spares named fun fits => (fit fits).shown lineless

/-- A range whose lines were found is bounded. -/
theorem isBounded_of_numbers {range : GivenRange} {numbers : List Int}
    (counted : range.numbers = .ok numbers) : range.IsBounded := by
  obtain ⟨items, walked, counted⟩ := Outcome.bind_ok counted
  intro others same item member negative infinite
  cases (Value.items_ok walked).symm.trans same
  obtain ⟨number, -, converted⟩ := Outcome.exists_of_forall₂ (Outcome.mapM_ok counted) member
  rw [infinite] at converted
  cases converted

/-- A range fits whose lines were found and have texts. -/
theorem isFit_of_resolve {range : GivenRange} {name : Value} {first last : Int}
    (resolved : range.resolve name = .ok (first, last)) (written : AreWritable first last) :
    range.IsFit := by
  have counted := resolve_ok_iff.mp resolved
  refine ⟨isBounded_of_numbers counted, fun otherFirst otherLast same => ?_,
    fun lineless => absurd counted (lineless _ _)⟩
  cases counted.symm.trans same
  exact written

end GivenRange

namespace Entity

/-- The shape of the fields of an entity: the name can be checked, the lines have texts, the
metadata give entries, and whatever a message may name can be shown. -/
structure HasShape (fields : List (String × Value)) : Prop where
  language : ∀ language, Value.lookup "language" fields = some language → language.CanBeShown
  kind : ∀ kind, Value.lookup "entity_type" fields = some kind → kind.CanBeShown
  name : ∀ name, Value.lookup "name" fields = some name → name.CanBeName
  range : ∀ range, GivenRange.ofRecord? fields = some range → range.IsFit
  path : (optionalField fields "file_path").CanBeShown
  metadata : (optionalField fields "metadata").GivesEntries

section Create

variable (vocabulary : Vocabulary) {language kind name filePath metadata : Value} {shaped : Prop}
  (languageShown : shaped → language.CanBeShown) (kindShown : shaped → kind.CanBeShown)
  (named : shaped → name.CanBeName) (given : shaped → metadata.GivesEntries)

include languageShown kindShown named given

theorem createExternal_spares : FailsWithin (Fault.ComesOf Refusal.SparesToken shaped)
    (createExternal vocabulary language kind name metadata) :=
  (Address.forExternal_spares vocabulary languageShown kindShown named).bind fun _ _ =>
    ((Metadata.ofOptional_comesOf metadata).comesOf_mono (fun _ => False.elim) given).bind
      fun _ _ => ok _

/-- An entity at known lines lacks nothing but a name, entries or a text. -/
theorem create_spares (pathShown : shaped → filePath.CanBeShown) {lineRange : Value}
    (lines : lineRange = .null ∨ ∃ first last, lineRange = .list [.int first, .int last] ∧
      (shaped → AreWritable first last)) :
    FailsWithin (Fault.ComesOf Refusal.SparesToken shaped)
      (create vocabulary language kind name filePath lineRange metadata) := by
  have outside := createExternal_spares vocabulary languageShown kindShown named given
  have inside {first last : Int} (written : shaped → AreWritable first last) :
      FailsWithin (Fault.ComesOf Refusal.SparesToken shaped) (do
        let address ← Address.forSource vocabulary language kind name filePath (.int first)
          (.int last)
        let path ← FilePath.normalize filePath
        let metadata ← Metadata.ofOptional metadata
        return (⟨address, .text path, metadata⟩ : Entity)) :=
    (Address.forSource_spares vocabulary languageShown kindShown named pathShown written).bind
      fun _ _ => (FilePath.normalize_spares pathShown).bind fun _ _ =>
        ((Metadata.ofOptional_comesOf metadata).comesOf_mono (fun _ => False.elim) given).bind
          fun _ _ => ok _
  unfold create
  rcases lines with rfl | ⟨first, last, rfl, written⟩
  · split
    · exact outside
    · dsimp only
      rw [pure_bind]
      exact inside fun _ => ⟨by decide +kernel, by decide +kernel⟩
  · split
    · have walks : FailsWithin (Fault.ComesOf Refusal.SparesToken shaped)
          (Value.list [.int first, .int last]).items := ok _
      refine walks.bind fun items _ => ?_
      split
      · exact outside
      · exact FailsWithin.comesOf_whenShown (fun fits => (named fits).canBeShown)
          (refuse_comesOf trivial)
    · have bounded : bounds (.list [.int first, .int last]) =
          .ok (.int first, .int last) := rfl
      dsimp only
      rw [bounded, Outcome.ok_bind]
      exact inside written

end Create

theorem ofFields_spares (vocabulary : Vocabulary) (fields : List (String × Value)) :
    FailsWithin (Fault.ComesOf Refusal.SparesToken (HasShape fields))
      (ofFields vocabulary fields) := by
  unfold ofFields
  apply (RecordKind.require_spares .entity fields "language").bind
  intro language languageFound
  apply (RecordKind.require_spares .entity fields "entity_type").bind
  intro kind kindFound
  apply (RecordKind.require_spares .entity fields "name").bind
  intro name nameFound
  have languageShown (shaped : HasShape fields) : language.CanBeShown :=
    shaped.language language (RecordKind.require_ok languageFound)
  have kindShown (shaped : HasShape fields) : kind.CanBeShown :=
    shaped.kind kind (RecordKind.require_ok kindFound)
  have named (shaped : HasShape fields) : name.CanBeName :=
    shaped.name name (RecordKind.require_ok nameFound)
  split
  · exact (ok _).bind fun lineRange same => create_spares vocabulary languageShown kindShown named
      HasShape.metadata HasShape.path (.inl (Except.ok.inj same).symm)
  · rename_i range present
    have fit (shaped : HasShape fields) : range.IsFit := shaped.range range present
    refine ((GivenRange.resolve_spares named fit).map _).bind fun lineRange resolved => ?_
    obtain ⟨⟨first, last⟩, found, same⟩ := Outcome.map_ok resolved
    exact create_spares vocabulary languageShown kindShown named HasShape.metadata HasShape.path
      (.inr ⟨first, last, same.symm,
        fun shaped => (fit shaped).lines first last (GivenRange.resolve_ok_iff.mp found)⟩)

/-- A record of the shape of an entity is converted or refused, and never for its path token. -/
theorem ofRecord_spares (vocabulary : Vocabulary) (record : Value) :
    FailsWithin (Fault.ComesOf Refusal.SparesToken (record.HasFields HasShape))
      (ofRecord vocabulary record) :=
  Value.toFields_comesOf (ofFields_spares vocabulary) record

section Made

variable {vocabulary : Vocabulary}

/-- The lines of an entity that is made are the two numbers of its range, and both are zero without
a range. -/
theorem lines_of_isMadeOf {entity : Entity} {language kind name filePath lineRange path : Value}
    (place : IsMadeOf vocabulary language kind name filePath lineRange entity.address path) :
    (lineRange = .null → entity.firstLine = 0 ∧ entity.lastLine = 0) ∧
      ∀ first last : Int, lineRange = .list [.int first, .int last] →
        first = entity.firstLine ∧ last = entity.lastLine := by
  unfold firstLine lastLine
  generalize entity.address = address at place ⊢
  cases place with
  | outside reserved range reached =>
      rw [Address.location_of_forExternal reached]
      refine ⟨fun _ => ⟨rfl, rfl⟩, fun first last same => ?_⟩
      rcases range with absent | ⟨items, walked, empty⟩
      · cases absent.symm.trans same
      · rw [same] at walked
        cases walked
        change first = 0 ∧ last = 0
        simpa [isEmptyRange, Value.itemsAgree, Value.agrees, Value.atomsAgree, Atom.ofValue?,
          Atom.agrees, Atom.compareNumbers?] using empty
  | inside apart range reached normal =>
      obtain ⟨starts, ends⟩ := Address.lines_of_forSource reached
      refine ⟨fun same => ?_, fun givenFirst givenLast same => ?_⟩
      · rcases range with ⟨-, rfl, rfl⟩ | bounded
        · exact ⟨(Int.ofNat.inj (Except.ok.inj starts)).symm,
            (Int.ofNat.inj (Except.ok.inj ends)).symm⟩
        · rw [same] at bounded
          cases bounded
      · rcases range with ⟨absent, -, -⟩ | bounded
        · cases absent.symm.trans same
        · rw [same] at bounded
          cases bounded
          exact ⟨Except.ok.inj starts, Except.ok.inj ends⟩

/-- What an entity is made of can be shown, its name can be checked, and its lines have texts. -/
structure HasParts (language kind name filePath : Value) (address : Address) : Prop where
  language : language.CanBeShown
  kind : kind.CanBeShown
  name : name.CanBeName
  path : filePath.CanBeShown
  lines : address.location.isWritable = true

theorem IsMadeOf.parts {language kind name filePath lineRange path : Value} {address : Address}
    (place : IsMadeOf vocabulary language kind name filePath lineRange address path) :
    HasParts language kind name filePath address := by
  cases place with
  | outside reserved range reached =>
      obtain ⟨language, languageKnown, made⟩ := Outcome.bind_ok reached
      obtain ⟨kind, kindKnown, created⟩ := Outcome.bind_ok made
      obtain ⟨named, written⟩ := Address.of_create created
      refine ⟨(Value.whenShown_ok_iff.mp languageKnown).1, (Value.whenShown_ok_iff.mp kindKnown).1,
        named, ?_, Address.location_of_create created ▸ written⟩
      cases filePath with
      | null | text => exact ⟨rfl⟩
      | _ => cases reserved
  | inside given range reached normal =>
      obtain ⟨language, languageKnown, made⟩ := Outcome.bind_ok reached
      obtain ⟨path, -, made⟩ := Outcome.bind_ok made
      obtain ⟨first, -, made⟩ := Outcome.bind_ok made
      obtain ⟨last, -, made⟩ := Outcome.bind_ok made
      obtain ⟨place, -, made⟩ := Outcome.bind_ok made
      obtain ⟨kind, kindKnown, created⟩ := Outcome.bind_ok made
      obtain ⟨named, written⟩ := Address.of_create created
      exact ⟨(Value.whenShown_ok_iff.mp languageKnown).1, (Value.whenShown_ok_iff.mp kindKnown).1,
        named, (Value.whenShown_ok_iff.mp normal).1, Address.location_of_create created ▸ written⟩

end Made

/-- Fields that are converted have the shape of an entity. -/
theorem hasShape_of_ofFields {vocabulary : Vocabulary} {fields : List (String × Value)}
    {entity : Entity} (converted : ofFields vocabulary fields = .ok entity) : HasShape fields := by
  obtain ⟨language, kind, name, lineRange, languageFound, kindFound, nameFound, lines, made⟩ :=
    ofFields_create converted
  obtain ⟨place, taken⟩ := create_isMadeOf made
  have parts := place.parts
  refine ⟨fun other again => ?_, fun other again => ?_, fun other again => ?_,
    fun range present => ?_, parts.path, Metadata.ofOptional_givesEntries taken⟩
  · cases languageFound.symm.trans again
    exact parts.language
  · cases kindFound.symm.trans again
    exact parts.kind
  · cases nameFound.symm.trans again
    exact parts.name
  · rcases lines with ⟨absent, -⟩ | ⟨other, first, last, given, resolved, same⟩
    · cases absent.symm.trans present
    · cases given.symm.trans present
      obtain ⟨rfl, rfl⟩ := (lines_of_isMadeOf place).2 first last same
      have written : AreWritable entity.firstLine entity.lastLine := by
        have both := parts.lines
        rw [Location.isWritable, Bool.and_eq_true] at both
        exact ⟨both.1, both.2⟩
      exact GivenRange.isFit_of_resolve resolved written

/-- A record that is converted has the shape of an entity. -/
theorem hasShape_of_ofRecord {vocabulary : Vocabulary} {record : Value} {entity : Entity}
    (converted : ofRecord vocabulary record = .ok entity) : record.HasFields HasShape := by
  obtain ⟨fields, isObject, converted⟩ := Outcome.bind_ok converted
  exact ⟨fields, Value.toFields_ok isObject, hasShape_of_ofFields converted⟩

end Entity

/-- An end that is given by fields needs the shape of an entity. -/
def Value.CanBeEnd (value : Value) : Prop :=
  ∀ fields, value = .object fields → Entity.HasShape fields

namespace Edge

/-- The shape of the fields of an edge. -/
structure HasShape (fields : List (String × Value)) : Prop where
  ends : ∀ name ∈ ["source", "target"], ∀ value, Value.lookup name fields = some value →
    value.CanBeEnd
  relation : (optionalField fields "relation").CanBeShown

theorem endpoint_comesOf (vocabulary : Vocabulary) (value : Value) :
    FailsWithin (Fault.ComesOf (fun _ => True) value.CanBeEnd) (endpoint vocabulary value) := by
  unfold endpoint
  split
  · exact ((Entity.ofFields_spares vocabulary _).map _).comesOf_mono (fun _ _ => trivial)
      fun shaped => shaped _ rfl
  · exact (Address.parse_onlyRefuses vocabulary value).comesOf

theorem canBeEnd_of_endpoint {vocabulary : Vocabulary} {value : Value} {address : Address}
    (reached : endpoint vocabulary value = .ok address) : value.CanBeEnd := by
  rintro fields rfl
  obtain ⟨entity, converted, -⟩ := Outcome.map_ok reached
  exact Entity.hasShape_of_ofFields converted

/-- A record of the shape of an edge is converted or refused. -/
theorem ofRecord_comesOf (vocabulary : Vocabulary) (record : Value) :
    FailsWithin (Fault.ComesOf (fun _ => True) (record.HasFields HasShape))
      (ofRecord vocabulary record) := by
  refine Value.toFields_comesOf (fun fields => ?_) record
  have required (name : String) : FailsWithin (Fault.ComesOf (fun _ => True) (HasShape fields))
      (RecordKind.edge.require fields name) :=
    (RecordKind.require_spares .edge fields name).comesOf_mono (fun _ _ => trivial) id
  have given {name : String} {value : Value} (side : name ∈ ["source", "target"])
      (found : RecordKind.edge.require fields name = .ok value) :
      FailsWithin (Fault.ComesOf (fun _ => True) (HasShape fields)) (endpoint vocabulary value) :=
    (endpoint_comesOf vocabulary value).comesOf_mono (fun _ => id)
      fun shaped => shaped.ends name side value (RecordKind.require_ok found)
  exact (required "source").bind fun source found =>
    (given (by decide) found).bind fun _ _ => (required "target").bind fun target found =>
      (given (by decide) found).bind fun _ _ =>
        FailsWithin.comesOf_whenShown HasShape.relation (ok _)

/-- A record of an edge is converted exactly if it has both ends, they lead to addresses, and the
relation can be shown. -/
theorem ofRecord_ok_iff {vocabulary : Vocabulary} {fields : List (String × Value)} {edge : Edge} :
    ofRecord vocabulary (.object fields) = .ok edge ↔
      (∃ source, Value.lookup "source" fields = some source ∧
        endpoint vocabulary source = .ok edge.source) ∧
      (∃ target, Value.lookup "target" fields = some target ∧
        endpoint vocabulary target = .ok edge.target) ∧
      (optionalField fields "relation").CanBeShown ∧
      edge.relation = .text (if (optionalField fields "relation").isTruthy then
        (optionalField fields "relation").shown else defaultRelation) := by
  constructor
  · intro converted
    obtain ⟨_, same, converted⟩ := Outcome.bind_ok converted
    cases same
    obtain ⟨source, sourceGiven, converted⟩ := Outcome.bind_ok converted
    obtain ⟨_, sourceReached, converted⟩ := Outcome.bind_ok converted
    obtain ⟨target, targetGiven, converted⟩ := Outcome.bind_ok converted
    obtain ⟨_, targetReached, converted⟩ := Outcome.bind_ok converted
    obtain ⟨shown, converted⟩ := Value.whenShown_ok_iff.mp converted
    cases converted
    exact ⟨⟨source, RecordKind.require_ok sourceGiven, sourceReached⟩,
      ⟨target, RecordKind.require_ok targetGiven, targetReached⟩, shown, rfl⟩
  · rintro ⟨⟨source, sourceGiven, sourceReached⟩, ⟨target, targetGiven, targetReached⟩, shown,
      relation⟩
    unfold ofRecord
    simp only [Value.toFields, RecordKind.require, sourceGiven, targetGiven, sourceReached,
      targetReached, Outcome.ok_bind, Value.whenShown_of shown, ← relation]

/-- A record that is converted has the shape of an edge. -/
theorem hasShape_of_ofRecord {vocabulary : Vocabulary} {record : Value} {edge : Edge}
    (converted : ofRecord vocabulary record = .ok edge) : record.HasFields HasShape := by
  obtain ⟨fields, isObject, -⟩ := Outcome.bind_ok converted
  obtain rfl := Value.toFields_ok isObject
  obtain ⟨⟨source, sourceGiven, sourceReached⟩, ⟨target, targetGiven, targetReached⟩, shown, -⟩ :=
    ofRecord_ok_iff.mp converted
  refine ⟨fields, rfl, List.forall_mem_cons.mpr ⟨fun value found => ?_,
    List.forall_mem_singleton.mpr fun value found => ?_⟩, shown⟩
  · cases sourceGiven.symm.trans found
    exact canBeEnd_of_endpoint sourceReached
  · cases targetGiven.symm.trans found
    exact canBeEnd_of_endpoint targetReached

end Edge

namespace ChangeSet

/-- The shape of the fields of a change set: the files can be walked, and the identity and each file
can be shown. -/
structure HasShape (fields : List (String × Value)) : Prop where
  id : ∀ id, Value.lookup "id" fields = some id → id.CanBeShown
  files : (optionalField fields "files").isTruthy = true →
    ∃ items, (optionalField fields "files").items? = some items ∧ ∀ item ∈ items, item.CanBeShown

theorem create_comesOf {id files : Value} {shaped : Prop} (idShown : shaped → id.CanBeShown)
    (walked : shaped → ∃ items, files.items? = some items ∧ ∀ item ∈ items, item.CanBeShown) :
    FailsWithin (Fault.ComesOf (fun _ => True) shaped) (create id files) := by
  refine FailsWithin.comesOf_whenShown idShown ?_
  have walks : FailsWithin (Fault.ComesOf (fun _ => True) shaped) files.items :=
    files.items_comesOf.comesOf_mono (fun _ permitted => permitted) fun fits =>
      (walked fits).imp fun _ => And.left
  refine walks.bind fun items given => FailsWithin.bind (FailsWithin.mapM fun item member => ?_)
    fun _ _ => ok _
  refine (FilePath.normalize_spares fun fits => ?_).comesOf_mono (fun _ _ => trivial)
    fun fits : shaped => fits
  obtain ⟨others, same, shown⟩ := walked fits
  cases (Value.items_ok given).symm.trans same
  exact shown item member

/-- A record of the shape of a change set is converted or refused. -/
theorem ofRecord_comesOf (record : Value) :
    FailsWithin (Fault.ComesOf (fun _ => True) (record.HasFields HasShape)) (ofRecord record) := by
  refine Value.toFields_comesOf (fun fields => ?_) record
  apply ((RecordKind.require_spares .changeSet fields "id").comesOf_mono
    (fun _ _ => trivial) fun shaped => shaped).bind
  intro id found
  refine create_comesOf (fun shaped => shaped.id id (RecordKind.require_ok found))
    fun shaped => ?_
  split
  · rename_i present
    exact shaped.files present
  · exact ⟨[], rfl, fun _ member => absurd member List.not_mem_nil⟩

/-- A record that is converted has the shape of a change set. -/
theorem hasShape_of_ofRecord {record : Value} {change : ChangeSet}
    (converted : ofRecord record = .ok change) : record.HasFields HasShape := by
  obtain ⟨fields, isObject, converted⟩ := Outcome.bind_ok converted
  obtain ⟨id, given, converted⟩ := Outcome.bind_ok converted
  obtain ⟨idShown, converted⟩ := Value.whenShown_ok_iff.mp converted
  obtain ⟨items, walked, converted⟩ := Outcome.bind_ok converted
  obtain ⟨paths, normal, -⟩ := Outcome.bind_ok converted
  refine ⟨fields, Value.toFields_ok isObject, fun other again => ?_, fun present => ?_⟩
  · cases (RecordKind.require_ok given).symm.trans again
    exact idShown
  · rw [if_pos present] at walked
    refine ⟨items, Value.items_ok walked, fun item member => ?_⟩
    obtain ⟨path, -, named⟩ := Outcome.exists_of_forall₂ (Outcome.mapM_ok normal) member
    exact (Value.whenShown_ok_iff.mp named).1

end ChangeSet

end CodeGraph

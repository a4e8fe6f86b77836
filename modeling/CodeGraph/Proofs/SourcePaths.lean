import CodeGraph.Proofs.DirectoriesAbove
import CodeGraph.Proofs.IndexedSnapshot
import CodeGraph.Proofs.KeyRoundTrip
import CodeGraph.Proofs.Serving
import CodeGraph.Proofs.StoredExactly

/-!
This file says which entities have a path that fits their address. Those of records do. Stored paths
are taken over as they are, so the paths of a restored snapshot fit exactly if the stored ones did.
-/

namespace CodeGraph

/-- A path leads to a file of the source tree. -/
structure FilePath.IsInTree (path : String) : Prop where
  filled : path ≠ ""
  relative : startsAtRoot path.toList = false
  slashed : '\\' ∉ path.toList
  apart : path ≠ unknown

/-- The path of an external address is the reserved one. The path of a place in the source tree is a
text that leads there, and its form inside a key is the token of the place. -/
def Address.Fits (address : Address) (filePath : Value) : Prop :=
  match address.location with
  | .source place => ∃ path, filePath = .text path ∧ FilePath.IsInTree path ∧
      FilePath.token path = place.token
  | .external => filePath = .text FilePath.unknown

def Entity.IsPlaced (entity : Entity) : Prop := entity.address.Fits entity.filePath

/-- All entities have paths that fit their addresses. -/
def Snapshot.IsPlaced (snapshot : Snapshot) : Prop :=
  ∀ entity ∈ snapshot.entities.rows, entity.IsPlaced

namespace FilePath

/-- A path that is accepted leads to a file of the source tree unless it is the reserved one. -/
theorem normalize_isInTree {raw : Value} {path : String} (normal : normalize raw = .ok path)
    (apart : path ≠ unknown) : IsInTree path := by
  obtain ⟨components, isNormal⟩ := normalize_isNormal normal
  have solid : [] ∉ components := by
    have absent := Disk.nil_notMem_of_isStack isNormal.folded
    rwa [List.mem_reverse] at absent
  obtain ⟨first, rest, same⟩ := List.exists_cons_of_ne_nil isNormal.some
  obtain ⟨c, more, letters⟩ : ∃ c more, first = c :: more := by
    apply List.exists_cons_of_ne_nil
    rintro rfl
    exact solid (same ▸ List.mem_cons_self)
  have noSlash : c ≠ '/' := by
    rintro rfl
    apply (isNormal.slashless first (same ▸ List.mem_cons_self)).1
    exact letters ▸ List.mem_cons_self
  obtain ⟨behind, whole⟩ : ∃ behind, path.toList = c :: behind := by
    rw [isNormal.joined, same, letters]
    cases rest with
    | nil => exact ⟨more, rfl⟩
    | cons next others => exact ⟨_, rfl⟩
  refine ⟨?_, ?_, isNormal.backslash_notMem, apart⟩
  · rintro rfl
    cases whole
  · rw [whole]
    unfold startsAtRoot
    split
    · rename_i same
      exact absurd (List.cons.inj same).1 noSlash
    · rfl

/-- An accepted path is not empty, and it does not begin at the root. -/
theorem normalize_isRelative {raw : Value} {path : String} (normal : normalize raw = .ok path) :
    path.toList ≠ [] ∧ startsAtRoot path.toList = false := by
  by_cases reserved : path = unknown
  · rw [reserved]
    exact ⟨by decide, rfl⟩
  · have inTree := normalize_isInTree normal reserved
    refine ⟨fun empty => inTree.filled ?_, inTree.relative⟩
    rw [← String.ofList_toList (s := path), empty]

end FilePath

namespace Entity

/-- An entity that is made from the values of an extractor has a path that fits its address. -/
theorem create_isPlaced {vocabulary : Vocabulary}
    {language kind name filePath lineRange metadata : Value} {entity : Entity}
    (made : create vocabulary language kind name filePath lineRange metadata = .ok entity) :
    entity.IsPlaced := by
  obtain ⟨place, -⟩ := create_isMadeOf made
  unfold IsPlaced Address.Fits
  generalize entity.filePath = path, entity.address = address at place ⊢
  cases place with
  | outside reserved range reached => rw [Address.location_of_forExternal reached]
  | inside given range reached normal =>
      obtain ⟨path, place, again, token, location⟩ := Address.location_of_forSource reached
      rw [Except.ok.inj (normal.symm.trans again)]
      have apart : path ≠ FilePath.unknown := by
        rintro rfl
        exact place.tokenNotUnknown (token.trans (by decide))
      rw [location]
      exact ⟨path, rfl, FilePath.normalize_isInTree again apart, token.symm⟩

theorem ofRecord_isPlaced {vocabulary : Vocabulary} {record : Value} {entity : Entity}
    (converted : ofRecord vocabulary record = .ok entity) : entity.IsPlaced := by
  obtain ⟨fields, -, made⟩ := Outcome.bind_ok converted
  obtain ⟨_, _, _, _, -, -, -, -, made⟩ := ofFields_create made
  exact create_isPlaced made

theorem sentinel_isPlaced {address : Address} (outside : address.isExternal = true) :
    (sentinel address).IsPlaced := by
  have location : address.location = .external := by
    unfold Address.isExternal at outside
    cases same : address.location with
    | source place =>
        rw [same] at outside
        cases outside
    | external => rfl
  unfold IsPlaced Address.Fits sentinel
  dsimp only
  rw [location]

/-- An entity without metadata. -/
def bare (address : Address) (filePath : Value) : Entity := ⟨address, filePath, Metadata.empty⟩

end Entity

/-- The entities of a snapshot that is built from records have paths that fit. -/
theorem Manager.build_isPlaced {setting : Setting} {feed : Feed} {manager : Manager}
    {snapshot : Snapshot} (built : manager.build setting feed = .ok snapshot) :
    snapshot.IsPlaced := by
  obtain ⟨builder, isFrom, -, shown⟩ := build_ok built
  intro entity member
  rcases build_entities isFrom shown entity member with
    ⟨delivery, -, converted⟩ | ⟨outside, same⟩
  · exact Entity.ofRecord_isPlaced converted.2
  · rw [same]
    exact Entity.sentinel_isPlaced outside

namespace Value

/-- Only the same text agrees with a text. -/
theorem agrees_text_iff {value : Value} {content : String} :
    value.agrees (.text content) = true ↔ value = .text content := by
  cases value <;>
    simp [agrees, atomsAgree, Atom.ofValue?, Atom.agrees, Atom.compareNumbers?]

theorem text_agrees_iff {value : Value} {content : String} :
    (Value.text content).agrees value = true ↔ value = .text content := by
  cases value with
  | text other =>
      simp only [agrees, atomsAgree, Atom.ofValue?, Atom.agrees, beq_iff_eq, Value.text.injEq]
      exact eq_comm
  | _ => simp [agrees, atomsAgree, Atom.ofValue?, Atom.agrees, Atom.compareNumbers?]

/-- The items in the list of the entities of stored data. -/
def storedEntities (data : Value) : List Value :=
  ((data.field? "entities").bind items?).getD []

/-- A stored item has a key, and a path that fits the address of the key. -/
def HasFittingPath (vocabulary : Vocabulary) (item : Value) : Prop :=
  ∃ key address path, item.field? "key" = some key ∧
    Address.parse vocabulary key = .ok address ∧ item.field? "file_path" = some path ∧
    address.Fits path

end Value

/-- Of two paths that agree both fit an address or neither does. -/
theorem Address.fits_of_agrees {address : Address} {first second : Value}
    (agree : first.agrees second = true) : address.Fits first ↔ address.Fits second := by
  have same (content : String) : first = .text content ↔ second = .text content := by
    constructor
    · rintro rfl
      exact Value.text_agrees_iff.mp agree
    · rintro rfl
      exact Value.agrees_text_iff.mp agree
  unfold Fits
  split
  · simp only [same]
  · exact same _

namespace Builder

/-- Of all staged entities of an address the last one stays, and its path fits exactly if that of
each of them does. -/
theorem stageEntities_isPlaced {entities : List Entity} {builder final : Builder}
    (staged : entities.foldlM stageEntity builder = .ok final) {entity : Entity}
    (given : entity ∈ entities ∨ entity ∈ builder.entities.rows) :
    ∃ row ∈ final.entities.rows, (row.IsPlaced ↔ entity.IsPlaced) := by
  induction entities generalizing builder entity with
  | nil =>
      cases staged
      exact ⟨entity, given.resolve_left List.not_mem_nil, Iff.rfl⟩
  | cons first rest inductionHypothesis =>
      rw [List.foldlM_cons] at staged
      obtain ⟨next, made, further⟩ := Outcome.bind_ok staged
      obtain ⟨agreeing, rfl⟩ := stageEntity_ok_iff.mp made
      have inserted : first ∈ (builder.entities.insert first).rows :=
        Table.mem_insertRow_self first _
      have latest := inductionHypothesis further (.inr inserted)
      rcases given with member | member
      · rcases List.mem_cons.mp member with rfl | behind
        · exact latest
        · exact inductionHypothesis further (.inl behind)
      · -- An entity takes the place of an earlier one of its key only if the two agree.
        by_cases other : first.key = entity.key
        · have agree := agreeing entity (Table.find?_eq_some_iff.mpr ⟨member, other.symm⟩)
          unfold Entity.agrees at agree
          simp only [Bool.and_eq_true, decide_eq_true_eq] at agree
          obtain ⟨row, inside, same⟩ := latest
          refine ⟨row, inside, same.trans ?_⟩
          unfold Entity.IsPlaced
          rw [agree.1.1]
          exact (Address.fits_of_agrees agree.1.2).symm
        · have kept : entity ∈ (builder.entities.insert first).rows :=
            Table.mem_insertRow_of_ne member other
          exact inductionHypothesis further (.inr kept)

/-- A builder with a single staged entity. -/
def lonely (generation : Int) (materializeExternal : Bool) (entity : Entity) : Builder :=
  { create generation materializeExternal with entities := Table.empty.insert entity }

/-- A single entity makes a snapshot if its path can be shown. -/
theorem snapshot_lonely (generation : Int) (materializeExternal : Bool) (address : Address)
    {path : Value} (shown : path.CanBeShown) (now : String) :
    ∃ snapshot,
      (lonely generation materializeExternal (.bare address path)).snapshot now .null =
        .ok snapshot ∧
      snapshot.entities.rows = [.bare address path] := by
  have bare : (lonely generation materializeExternal (.bare address path)).edges = [] := rfl
  have rows : (lonely generation materializeExternal (.bare address path)).materialized.rows =
      [.bare address path] := by
    cases materializeExternal <;> rfl
  have complete : (lonely generation materializeExternal (.bare address path)).missing = [] := by
    unfold missing
    rw [bare]
    rfl
  obtain ⟨id, identified⟩ : ∃ id, Content.identifier [.bare address path] [] [] = .ok id :=
    Content.identifier_ok
      (List.forall_mem_singleton.mpr ⟨Metadata.empty_serialisable, shown⟩)
      (List.forall_mem_nil _) []
  obtain ⟨snapshot, made⟩ := snapshot_of_parts now .null complete rfl (rows.symm ▸ identified)
  exact ⟨snapshot, made, (shows_of_snapshot made).entities ▸ rows⟩

end Builder

namespace Snapshot

variable {vocabulary : Vocabulary} {now : String} {snapshot : Snapshot}

/-- A stored item is converted to an entity with the path of the item, whatever path that is. -/
theorem storedEntity_isPlaced_iff {item : Value} {entity : Entity}
    (converted : storedEntity vocabulary item = .ok entity) :
    entity.IsPlaced ↔ item.HasFittingPath vocabulary := by
  obtain ⟨fields, isObject, converted⟩ := Outcome.bind_ok converted
  obtain ⟨key, keyGiven, converted⟩ := Outcome.bind_ok converted
  obtain ⟨address, parsed, converted⟩ := Outcome.bind_ok converted
  obtain ⟨path, pathGiven, converted⟩ := Outcome.bind_ok converted
  obtain ⟨metadata, -, converted⟩ := Outcome.bind_ok converted
  cases converted
  obtain rfl := Value.toFields_ok isObject
  constructor
  · exact fun fits =>
      ⟨key, address, path, storedField_ok keyGiven, parsed, storedField_ok pathGiven, fits⟩
  · rintro ⟨otherKey, other, otherPath, otherGiven, otherParsed, otherPathGiven, fits⟩
    cases (storedField_ok keyGiven).symm.trans otherGiven
    cases parsed.symm.trans otherParsed
    cases (storedField_ok pathGiven).symm.trans otherPathGiven
    exact fits

/-- The paths of a restored snapshot fit exactly if those of all stored items do. -/
theorem restored_isPlaced_iff {data : Value}
    (restored : ofValue vocabulary now data = .ok snapshot) :
    snapshot.IsPlaced ↔ ∀ item ∈ data.storedEntities, item.HasFittingPath vocabulary := by
  cases data with
  | object fields =>
      obtain ⟨builder, staged, shown⟩ := ofFields_ok restored
      obtain ⟨generation, items, -, entities, -, first, walked, -, converted, -, left, table, -,
        bare⟩ := stageFields_parts staged
      have given : (Value.object fields).storedEntities = items := by
        have parts := Value.items_ok walked
        unfold storedFieldOr at parts
        unfold Value.storedEntities Value.field?
        dsimp only
        cases found : Value.lookup "entities" fields with
        | none =>
            rw [found] at parts
            exact Option.some.inj parts
        | some value =>
            rw [found] at parts
            exact congrArg (Option.getD · []) parts
      have rows : snapshot.entities = first.entities := by
        rw [shown.entities, Builder.materialized_eq bare, table]
      unfold IsPlaced
      rw [given, rows]
      constructor
      · intro placed item member
        obtain ⟨entity, inside, made⟩ := Outcome.exists_of_forall₂ converted member
        obtain ⟨row, present, same⟩ := Builder.stageEntities_isPlaced left (.inl inside)
        exact (storedEntity_isPlaced_iff made).mp (same.mp (placed row present))
      · intro fitting row member
        have listed : row ∈ entities := by
          rw [Builder.stageEntities_ok left] at member
          exact Table.mem_of_mem_ofList member
        obtain ⟨item, inside, made⟩ := Outcome.exists_of_forall₂ converted.flip listed
        exact (storedEntity_isPlaced_iff made).mpr (fitting item inside)
  | _ => cases restored

/-- The fields of stored data with a single entity. -/
def lonelyFields (key : String) (path : Value) : List (String × Value) :=
  [("entities", .list [.object [("key", .text key), ("file_path", path)]])]

/-- Any value that can be shown is taken over as the path of a stored entity. -/
theorem exists_restored {key : String} {address : Address}
    (parsed : Address.parse vocabulary (.text key) = .ok address) (now : String) {path : Value}
    (shown : path.CanBeShown) :
    ∃ snapshot, ofValue vocabulary now (.object (lonelyFields key path)) = .ok snapshot ∧
      snapshot.entities.rows = [.bare address path] := by
  obtain ⟨snapshot, made, rows⟩ := Builder.snapshot_lonely 0 false address shown now
  have converted : storedEntity vocabulary (.object [("key", .text key), ("file_path", path)]) =
      .ok (.bare address path) := by
    change (do
      let address ← Address.parse vocabulary (.text key)
      return Entity.bare address path) = (.ok (Entity.bare address path) : Outcome Entity)
    rw [parsed]
    rfl
  have staged : stageFields vocabulary (lonelyFields key path) =
      .ok (Builder.lonely 0 false (.bare address path)) := by
    change ((stageStored (storedEntity vocabulary) Builder.stageEntity (Builder.create 0 false)
      [.object [("key", .text key), ("file_path", path)]]).bind fun first => .ok first) = _
    unfold stageStored
    rw [converted]
    rfl
  have unnamed (name : String) (other : "entities" ≠ name) :
      storedFieldOr (lonelyFields key path) name .null = .null := by
    simp [storedFieldOr, lonelyFields, Value.lookup, other]
  have writable : Decimal.isWritable 0 = true := Decimal.isWritable_of_lt (by decide)
  have rebuilt : rebuild vocabulary now (lonelyFields key path) = .ok snapshot := by
    unfold rebuild
    rw [staged, unnamed "created_at" (by decide)]
    refine (pure_bind _ _).trans ?_
    rw [Builder.commit_of_snapshot rfl made writable]
  refine ⟨snapshot, ?_, rows⟩
  unfold ofValue
  dsimp only
  unfold ofFields
  rw [rebuilt, unnamed "snapshot_id" (by decide)]
  rfl

/-- The paths of a snapshot that is built from records fit. Those of a restored snapshot fit exactly
if the stored ones do, and any value that can be shown can be stored as a path. -/
theorem paths_asStored (vocabulary : Vocabulary) (now : String) (data : Value) :
    (∀ (setting : Setting) (feed : Feed) (manager : Manager) (snapshot : Snapshot),
      manager.build setting feed = .ok snapshot → snapshot.IsPlaced) ∧
    (∀ snapshot, ofValue vocabulary now data = .ok snapshot →
      (snapshot.IsPlaced ↔ ∀ item ∈ data.storedEntities, item.HasFittingPath vocabulary)) ∧
    ∀ (key : String) (address : Address) (path : Value),
      Address.parse vocabulary (.text key) = .ok address → path.CanBeShown →
        ∃ snapshot, ofValue vocabulary now (.object (lonelyFields key path)) = .ok snapshot ∧
          snapshot.entities.rows = [.bare address path] :=
  ⟨fun _ _ _ _ built => Manager.build_isPlaced built,
    fun _ restored => restored_isPlaced_iff restored,
    fun _ _ _ parsed shown => exists_restored parsed now shown⟩

/-- A function in the first two lines of a file. -/
def nearFunction : Address where
  language := .python
  kind := .function
  name := "near"
  location := .source {
    token := "a.py"
    firstLine := 1
    lastLine := 2
    tokenNonempty := by decide
    tokenWithoutColon := by decide
    tokenNotUnknown := by decide
    ordered := by decide }
  nameValid := by decide

theorem parse_nearFunction : Address.parse Vocabulary.initial
    (.text "python:function:near:a.py:1-2") = .ok nearFunction := by decide +kernel

theorem canBeShown_five : (Value.int 5).CanBeShown :=
  Value.isWritable_int (Decimal.isWritable_of_lt (by decide)) _

/-- A record of this function. -/
def nearDelivery : Delivery := ⟨.text "entity", .object [
  ("language", .text "python"), ("entity_type", .text "function"), ("name", .text "near"),
  ("file_path", .text "./a.py"), ("line_range", .list [.int 1, .int 2])]⟩

theorem nearDelivery_gives : nearDelivery.GivesEntity Vocabulary.initial
    (.bare nearFunction (.text "a.py")) := by
  -- The entity is compared part by part, since no computation decides whether values are the same.
  obtain ⟨entity, given, near⟩ := @Outcome.exists_of_any _
    (Entity.ofRecord Vocabulary.initial nearDelivery.record)
    (fun entity => decide (entity.address = nearFunction) &&
      entity.filePath.agrees (.text "a.py") && entity.metadata.entries.isEmpty)
    (by decide +kernel)
  simp only [Bool.and_eq_true, decide_eq_true_eq, List.isEmpty_iff] at near
  obtain ⟨⟨address, path⟩, none⟩ := near
  refine ⟨rfl, given.trans ?_⟩
  obtain ⟨_, _, entries⟩ := entity
  cases address
  cases Value.agrees_text_iff.mp path
  cases entries
  cases none
  rfl

/-- The entity of a record has a path that fits, and that of the same key with the path 5 in stored
data has not. -/
theorem paths_asStored_near :
    (∃ snapshot,
      Manager.initial.build ⟨Vocabulary.initial, "2024-01-02", 1000⟩ ⟨[⟨.text "entity", .object [
        ("language", .text "python"), ("entity_type", .text "function"), ("name", .text "near"),
        ("file_path", .text "./a.py"), ("line_range", .list [.int 1, .int 2])]⟩], none⟩ =
          .ok snapshot ∧
      snapshot.entities.rows = [.bare nearFunction (.text "a.py")] ∧
      snapshot.IsPlaced) ∧
    ∃ snapshot, ofValue Vocabulary.initial "2024-01-02"
        (.object (lonelyFields "python:function:near:a.py:1-2" (.int 5))) = .ok snapshot ∧
      snapshot.entities.rows = [.bare nearFunction (.int 5)] ∧ ¬ snapshot.IsPlaced := by
  obtain ⟨placed, exact, accepted⟩ := paths_asStored Vocabulary.initial "2024-01-02"
    (.object (lonelyFields "python:function:near:a.py:1-2" (.int 5)))
  constructor
  · let setting : Setting := ⟨Vocabulary.initial, "2024-01-02", 1000⟩
    obtain ⟨snapshot, made, rows⟩ :=
      Builder.snapshot_lonely 1 true nearFunction (Value.canBeShown_text "a.py") setting.now
    have staged : (Builder.create Manager.initial.nextGeneration true).stageFeed setting.vocabulary
        setting.batchSize ⟨[nearDelivery], none⟩ =
        (.ok ⟨1, 0, 0, 1⟩, Builder.lonely 1 true (.bare nearFunction (.text "a.py"))) := by
      have run : BatchRun.ofFeed setting.vocabulary setting.batchSize ⟨[nearDelivery], none⟩ =
          ⟨[⟨[.bare nearFunction (.text "a.py")], [], []⟩], none⟩ := by
        unfold BatchRun.ofFeed
        rw [if_neg (by decide), BatchRun.collect, nearDelivery_gives.add]
        rfl
      unfold Builder.stageFeed
      rw [run]
      rfl
    have built := Manager.build_of_staged staged rfl made (Decimal.isWritable_of_lt (by decide))
    exact ⟨snapshot, built, rows, placed _ _ _ _ built⟩
  · obtain ⟨snapshot, restored, rows⟩ := accepted _ _ (.int 5) parse_nearFunction canBeShown_five
    refine ⟨snapshot, restored, rows, fun fits => ?_⟩
    obtain ⟨key, address, path, keyGiven, parsedKey, pathGiven, fitting⟩ :=
      (exact _ restored).mp fits _ List.mem_cons_self
    cases keyGiven
    cases pathGiven
    cases parse_nearFunction.symm.trans parsedKey
    obtain ⟨text, isText, -⟩ := fitting
    cases isText

/-- Stored data are accepted whose path does not fit. -/
theorem exists_misplaced : ¬ ∀ (vocabulary : Vocabulary) (now : String)
    (fields : List (String × Value)) (snapshot : Snapshot),
      ofValue vocabulary now (.object fields) = .ok snapshot → snapshot.IsPlaced := by
  intro placed
  obtain ⟨snapshot, restored, rows⟩ :=
    exists_restored parse_nearFunction "2024-01-02" canBeShown_five
  have misplaced : (Entity.bare nearFunction (.int 5)).IsPlaced :=
    placed _ _ _ _ restored _ (rows ▸ List.mem_cons_self)
  obtain ⟨path, isText, -⟩ := misplaced
  cases isText

end Snapshot

end CodeGraph

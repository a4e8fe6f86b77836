import CodeGraph.Proofs.RecordShape

/-!
This file says that the parts of a converted entity tell the same place, however its record was laid
out, and that an edge whose end is given by the record leads to the same address.
-/

namespace CodeGraph

/-- The lines of a given range are the numbers that are found in it, and no range stands for lines
zero to zero. -/
def Entity.HasGivenLines (fields : List (String × Value)) (entity : Entity) : Prop :=
  match GivenRange.ofRecord? fields with
  | none => entity.firstLine = 0 ∧ entity.lastLine = 0
  | some range => ∃ name, Value.lookup "name" fields = some name ∧
      range.resolve name = .ok ((entity.firstLine : Int), (entity.lastLine : Int))

namespace Entity

/-- An entity inside the source tree has the path in normal form, the token of this path, and at
least one line. -/
structure IsInside (filePath : Value) (entity : Entity) : Prop where
  path : ∃ path, FilePath.normalize filePath = .ok path ∧ entity.filePath = .text path ∧
    entity.address.location.token = FilePath.token path
  tokenFilled : entity.address.location.token ≠ ""
  tokenWithoutColon : ':' ∉ entity.address.location.token.toList
  ordered : 0 ≤ entity.firstLine ∧ entity.firstLine ≤ entity.lastLine
  lineCount : (entity.lineCount : Int) = entity.lastLine - entity.firstLine + 1 ∧
    1 ≤ entity.lineCount

/-- An entity is external exactly if its path and its token are the reserved ones and its range is
empty, which is the case exactly if its path is missing or reserved among the fields. Otherwise it
is inside the source tree. -/
structure IsCoherent (fields : List (String × Value)) (entity : Entity) : Prop where
  external_iff : entity.isExternal = true ↔ entity.filePath = .text FilePath.unknown ∧
    entity.address.location.token = FilePath.unknown ∧ entity.firstLine = 0 ∧ entity.lastLine = 0
  meant : entity.isExternal = meansExternal (optionalField fields "file_path")
  inside : entity.isExternal = false → entity.IsInside (optionalField fields "file_path")
  lines : entity.HasGivenLines fields

variable {vocabulary : Vocabulary} {fields : List (String × Value)} {entity : Entity}

theorem isExternal_of_location {location : Location} (same : entity.address.location = location) :
    entity.isExternal = location.isExternal := by
  rw [← same]
  rfl

theorem hasGivenLines_of_isMadeOf {language kind name filePath lineRange path : Value}
    (named : Value.lookup "name" fields = some name) (given : GivesLines fields name lineRange)
    (place : IsMadeOf vocabulary language kind name filePath lineRange entity.address path) :
    entity.HasGivenLines fields := by
  obtain ⟨without, within⟩ := lines_of_isMadeOf place
  unfold HasGivenLines
  rcases given with ⟨absent, same⟩ | ⟨range, first, last, present, resolved, same⟩
  · rw [absent]
    exact without same
  · rw [present]
    obtain ⟨rfl, rfl⟩ := within first last same
    exact ⟨name, named, resolved⟩

/-- Fields are converted to an entity whose parts tell the same place. -/
theorem ofFields_isCoherent (converted : ofFields vocabulary fields = .ok entity) :
    entity.IsCoherent fields := by
  obtain ⟨language, kind, name, lineRange, -, -, named, given, made⟩ := ofFields_create converted
  obtain ⟨place, -⟩ := create_isMadeOf made
  have lines := hasGivenLines_of_isMadeOf named given place
  generalize filePathEq : entity.filePath = path, addressEq : entity.address = address at place
  cases place with
  | outside reserved range reached =>
      have location := Address.location_of_forExternal reached
      rw [← addressEq] at location
      have external := isExternal_of_location location
      refine ⟨⟨fun _ => ⟨filePathEq, ?_⟩, fun _ => external⟩, external.trans reserved.symm,
        fun inside => absurd (external.symm.trans inside) (by decide), lines⟩
      unfold firstLine lastLine
      rw [location]
      exact ⟨rfl, rfl, rfl⟩
  | inside apart range reached normal =>
      obtain ⟨path, place, again, made, location⟩ := Address.location_of_forSource reached
      cases normal.symm.trans again
      rw [← addressEq] at location
      have external := isExternal_of_location location
      have token : entity.address.location.token = place.token := by rw [location]; rfl
      have ordered : entity.firstLine ≤ entity.lastLine :=
        Address.firstLine_le_lastLine entity.address.location
      have counted : entity.lineCount = entity.lastLine - entity.firstLine + 1 := by
        unfold lineCount
        rw [external]
        rfl
      refine ⟨⟨fun outside => ?_, fun ⟨_, reserved, _⟩ => ?_⟩, external.trans apart.symm,
        fun _ => ?_, lines⟩
      · exact absurd (external.symm.trans outside) Bool.false_ne_true
      · exact absurd (token.symm.trans reserved) place.tokenNotUnknown
      · refine ⟨⟨_, normal, filePathEq, token.trans made⟩,
          token ▸ place.tokenNonempty, token ▸ place.tokenWithoutColon,
          ⟨Nat.zero_le _, ordered⟩, ?_⟩
        omega

end Entity

namespace Edge

variable {vocabulary : Vocabulary} {fields : List (String × Value)}

/-- The record stands for the address as an end of every edge: with an end that leads to an address
at its other side it makes an edge, and each edge that has the record at a side has the address
there. Only a relation that has no text keeps such an edge from being made. -/
structure EndsAt (vocabulary : Vocabulary) (record : Value) (address : Address) : Prop where
  reached : endpoint vocabulary record = .ok address
  source : ∀ fields edge, Value.lookup "source" fields = some record →
    ofRecord vocabulary (.object fields) = .ok edge → edge.source = address
  target : ∀ fields edge, Value.lookup "target" fields = some record →
    ofRecord vocabulary (.object fields) = .ok edge → edge.target = address
  accepted : ∀ fields other otherAddress, endpoint vocabulary other = .ok otherAddress →
    (optionalField fields "relation").CanBeShown →
    (Value.lookup "source" fields = some record ∧ Value.lookup "target" fields = some other ∨
      Value.lookup "source" fields = some other ∧ Value.lookup "target" fields = some record) →
    ∃ edge, ofRecord vocabulary (.object fields) = .ok edge

theorem endsAt_of_endpoint {record : Value} {address : Address}
    (reached : endpoint vocabulary record = .ok address) : EndsAt vocabulary record address := by
  refine ⟨reached, fun fields edge given converted => ?_, fun fields edge given converted => ?_,
    fun fields other otherAddress otherReached shown sides => ?_⟩
  · obtain ⟨⟨source, found, sourceReached⟩, -, -⟩ := ofRecord_ok_iff.mp converted
    cases given.symm.trans found
    exact Except.ok.inj (sourceReached.symm.trans reached)
  · obtain ⟨-, ⟨target, found, targetReached⟩, -⟩ := ofRecord_ok_iff.mp converted
    cases given.symm.trans found
    exact Except.ok.inj (targetReached.symm.trans reached)
  · rcases sides with ⟨source, target⟩ | ⟨source, target⟩
    · exact ⟨⟨address, otherAddress, _⟩, ofRecord_ok_iff.mpr
        ⟨⟨record, source, reached⟩, ⟨other, target, otherReached⟩, shown, rfl⟩⟩
    · exact ⟨⟨otherAddress, address, _⟩, ofRecord_ok_iff.mpr
        ⟨⟨other, source, otherReached⟩, ⟨record, target, reached⟩, shown, rfl⟩⟩

end Edge

namespace Entity

/-- No record is refused for its path token. The entity of each record that is accepted has parts
that tell the same place, and an edge that has the record as an end leads to the address of the
entity. -/
theorem ofRecord_isCoherent (vocabulary : Vocabulary) (record : Value) :
    (∀ token, ofRecord vocabulary record ≠ refuse (.pathToken token)) ∧
    ∀ entity, ofRecord vocabulary record = .ok entity →
      ∃ fields, record = .object fields ∧ entity.IsCoherent fields ∧
        Edge.EndsAt vocabulary record entity.address := by
  refine ⟨fun token refused => ?_, fun entity converted => ?_⟩
  · have comes := ofRecord_spares vocabulary record (.refused (.pathToken token)) refused
    exact comes.permits
  · obtain ⟨fields, isObject, converted⟩ := Outcome.bind_ok converted
    obtain rfl := Value.toFields_ok isObject
    have reached : Edge.endpoint vocabulary (.object fields) = .ok entity.address :=
      Outcome.map_ok_iff.mpr ⟨entity, converted, rfl⟩
    exact ⟨fields, rfl, ofFields_isCoherent converted, Edge.endsAt_of_endpoint reached⟩

/-- The fields of a function whose path has a detour and whose lines are texts. -/
def crookedFields : List (String × Value) := [
  ("language", .text "py"), ("entity_type", .text "fn"), ("name", .text "load"),
  ("file_path", .text " .\\src//x:y.py"), ("start_line", .text " 3 "), ("end_line", .text "4")]

/-- The fields of a module outside the source tree with an empty range. -/
def outerFields : List (String × Value) := [
  ("language", .text "py"), ("entity_type", .text "module"), ("name", .text "os"),
  ("file_path", .text "unknown"), ("line_range", .list [.int 0, .bool false])]

/-- The function is inside the source tree, and the module is outside. An edge that joins the two
leads from the one address to the other. -/
theorem ofRecord_isCoherent_crooked : ∃ inner outer edge,
    ofRecord Vocabulary.initial (.object crookedFields) = .ok inner ∧
    ofRecord Vocabulary.initial (.object outerFields) = .ok outer ∧
    Edge.ofRecord Vocabulary.initial (.object
      [("source", .object crookedFields), ("target", .object outerFields)]) = .ok edge ∧
    inner.key = "python:function:load:src_x_y.py:3-4" ∧ inner.filePath = .text "src/x:y.py" ∧
    inner.IsCoherent crookedFields ∧ outer.isExternal = true ∧ outer.IsCoherent outerFields ∧
    edge.source = inner.address ∧ edge.target = outer.address := by
  obtain ⟨inner, innerMade, checked⟩ := @Outcome.exists_of_any _
    (ofRecord Vocabulary.initial (.object crookedFields))
    (fun entity => entity.key == "python:function:load:src_x_y.py:3-4" &&
      entity.filePath.shown == "src/x:y.py") (by decide +kernel)
  obtain ⟨outer, outerMade, outside⟩ := @Outcome.exists_of_any _
    (ofRecord Vocabulary.initial (.object outerFields)) Entity.isExternal (by decide +kernel)
  rw [Bool.and_eq_true, beq_iff_eq, beq_iff_eq] at checked
  obtain ⟨innerKey, pathShown⟩ := checked
  have innerPath : inner.filePath = .text "src/x:y.py" := by
    obtain ⟨path, isText⟩ := (ofRecord_ok innerMade).1
    rw [isText] at pathShown ⊢
    exact congrArg Value.text pathShown
  obtain ⟨_, same, innerCoherent, innerEnds⟩ :=
    (ofRecord_isCoherent Vocabulary.initial (.object crookedFields)).2 inner innerMade
  cases same
  obtain ⟨_, same, outerCoherent, outerEnds⟩ :=
    (ofRecord_isCoherent Vocabulary.initial (.object outerFields)).2 outer outerMade
  cases same
  obtain ⟨edge, joined⟩ := innerEnds.accepted
    [("source", .object crookedFields), ("target", .object outerFields)] _ _ outerEnds.reached
    ⟨rfl⟩ (.inl ⟨rfl, rfl⟩)
  exact ⟨inner, outer, edge, innerMade, outerMade, joined, innerKey, innerPath, innerCoherent,
    outside, outerCoherent, innerEnds.source _ edge rfl joined, outerEnds.target _ edge rfl joined⟩

end Entity

end CodeGraph

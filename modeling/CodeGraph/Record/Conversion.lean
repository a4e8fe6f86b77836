import CodeGraph.Edge
import CodeGraph.Entity

/-!
This file turns the records of an extractor into entities, edges and change sets.
-/

namespace CodeGraph

namespace RecordKind

/-- A field without which a record means nothing. -/
def require (kind : RecordKind) (fields : List (String × Value)) (name : String) :
    Outcome Value :=
  match Value.lookup name fields with
  | some value => .ok value
  | none => refuse (.missingField kind name)

end RecordKind

/-- A field that may be missing. -/
def optionalField (fields : List (String × Value)) (name : String) : Value :=
  (Value.lookup name fields).getD .null

/-- A line range as a record gives it, and as a message quotes it. -/
structure GivenRange where
  bounds : Value
  quoted : String

namespace GivenRange

/-- A range is given as a whole or by its first and last line. A missing last line is the first
one. -/
def ofRecord? (fields : List (String × Value)) : Option GivenRange :=
  match optionalField fields "line_range" with
  | .null =>
      (Value.lookup "start_line" fields).bind fun first =>
        let last := (Value.lookup "end_line" fields).getD first
        some ⟨.list [first, last], "(" ++ first.quoted ++ ", " ++ last.quoted ++ ")"⟩
  | range => some ⟨range, range.quoted⟩

/-- One number more than needed is looked at, since it could be what fails. -/
def numbers (range : GivenRange) : Outcome (List Int) :=
  range.bounds.items.bind fun items => (items.take 3).mapM Value.toInteger

/-- The message shows the name and the range. -/
def refuseFor (range : GivenRange) (name : Value) : Outcome (Int × Int) :=
  name.whenShown (range.bounds.whenShown (refuse (.lineRange name.shown range.quoted)))

/-- The two line numbers. Whatever is not two numbers is refused, and only a number without bounds
is a defect. -/
def resolve (range : GivenRange) (name : Value) : Outcome (Int × Int) :=
  match range.numbers with
  | .ok [first, last] => .ok (first, last)
  | .error (.defect cause) =>
      if cause.defectClass = .overflow then crash cause else range.refuseFor name
  | _ => range.refuseFor name

end GivenRange

namespace Entity

/-- The entity that a record with these fields describes. -/
def ofFields (vocabulary : Vocabulary) (fields : List (String × Value)) : Outcome Entity := do
  let language ← RecordKind.entity.require fields "language"
  let kind ← RecordKind.entity.require fields "entity_type"
  let name ← RecordKind.entity.require fields "name"
  let lineRange ←
    match GivenRange.ofRecord? fields with
    | none => pure .null
    | some range => (range.resolve name).map fun lines => .list [.int lines.1, .int lines.2]
  create vocabulary language kind name (optionalField fields "file_path") lineRange
    (optionalField fields "metadata")

/-- The entity that a record describes. -/
def ofRecord (vocabulary : Vocabulary) (record : Value) : Outcome Entity :=
  record.toFields.bind (ofFields vocabulary)

end Entity

namespace Edge

/-- An end of an edge is given by its key or by the record of the entity. -/
def endpoint (vocabulary : Vocabulary) : Value → Outcome Address
  | .object fields => (Entity.ofFields vocabulary fields).map Entity.address
  | value => Address.parse vocabulary value

/-- The edge that a record describes. -/
def ofRecord (vocabulary : Vocabulary) (record : Value) : Outcome Edge := do
  let fields ← record.toFields
  let source ← endpoint vocabulary (← RecordKind.edge.require fields "source")
  let target ← endpoint vocabulary (← RecordKind.edge.require fields "target")
  let relation := optionalField fields "relation"
  relation.whenShown <|
    .ok ⟨source, target, .text (if relation.isTruthy then relation.shown else defaultRelation)⟩

end Edge

namespace ChangeSet

/-- The change set that a record describes. -/
def ofRecord (record : Value) : Outcome ChangeSet := do
  let fields ← record.toFields
  let id ← RecordKind.changeSet.require fields "id"
  let files := optionalField fields "files"
  create id (if files.isTruthy then files else .list [])

end ChangeSet

end CodeGraph

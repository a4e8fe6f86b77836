import CodeGraph.Snapshot.Builder

/-!
This file rebuilds snapshots from stored data. The data pass through a builder, so what a commit
guarantees is checked again, and the identifier must be the one that was stored.
-/

namespace CodeGraph

namespace Fault

/-- A value that is refused or has the wrong shape makes the stored data malformed. Faults of the
staged data as a whole, and numbers without bounds, are reported as they are. -/
def inStoredData : Fault → Fault
  | .refused refusal => .storage (.malformedSnapshot (.refused refusal))
  | .defect cause =>
      if cause.defectClass = .wrongType ∨ cause.defectClass = .wrongValue then
        .storage (.malformedSnapshot (.defect cause))
      else .defect cause
  | fault => fault

end Fault

namespace Snapshot

/-- A field without which a stored item means nothing. -/
def storedField (fields : List (String × Value)) (name : String) : Outcome Value :=
  match Value.lookup name fields with
  | some value => .ok value
  | none => .error (.storage (.malformedSnapshot (.missingField name)))

/-- A field that stands for something when it is missing. -/
def storedFieldOr (fields : List (String × Value)) (name : String) (absent : Value) : Value :=
  (Value.lookup name fields).getD absent

/-- The entity that a stored item describes. Its path is taken over as it is. -/
def storedEntity (vocabulary : Vocabulary) (item : Value) : Outcome Entity := do
  let fields ← item.toFields
  let address ← Address.parse vocabulary (← storedField fields "key")
  let filePath ← storedField fields "file_path"
  let metadata ← Metadata.ofOptional (storedFieldOr fields "metadata" .null)
  return ⟨address, filePath, metadata⟩

/-- The edge that a stored item describes. Its relation is taken over as it is. -/
def storedEdge (vocabulary : Vocabulary) (item : Value) : Outcome Edge := do
  let fields ← item.toFields
  let source ← Address.parse vocabulary (← storedField fields "source")
  let target ← Address.parse vocabulary (← storedField fields "target")
  let relation := storedFieldOr fields "relation" (.text Edge.defaultRelation)
  if relation.isTruthy then
    return ⟨source, target, ← relation.toAtom⟩
  else refuse (.noRelation source.text target.text)

/-- The change set that a stored item describes. -/
def storedChange (item : Value) : Outcome ChangeSet := do
  let fields ← item.toFields
  let id ← storedField fields "id"
  ChangeSet.create id (storedFieldOr fields "files" (.list []))

/-- Each item is converted and staged before the next one is looked at. -/
def stageStored {α : Type} (convert : Value → Outcome α) (stage : Builder → α → Outcome Builder)
    (builder : Builder) : List Value → Outcome Builder
  | [] => .ok builder
  | item :: rest =>
      match (convert item).bind (stage builder) with
      | .error fault => .error fault
      | .ok next => stageStored convert stage next rest

/-- The items of a field, which may be missing. -/
def storedItems (fields : List (String × Value)) (name : String) : Outcome (List Value) :=
  (storedFieldOr fields name (.list [])).items

/-- The builder with all stored data. -/
def stageFields (vocabulary : Vocabulary) (fields : List (String × Value)) : Outcome Builder := do
  let generation ← (storedFieldOr fields "generation" (.int 0)).toInteger
  let builder := Builder.create generation false
  let builder ← stageStored (storedEntity vocabulary) Builder.stageEntity builder
    (← storedItems fields "entities")
  let builder ← stageStored (storedEdge vocabulary) Builder.stageEdge builder
    (← storedItems fields "edges")
  stageStored storedChange (fun builder change => .ok (builder.stageChange change)) builder
    (← storedItems fields "change_sets")

/-- The snapshot of the stored data before its identifier is compared. -/
def rebuild (vocabulary : Vocabulary) (now : String) (fields : List (String × Value)) :
    Outcome Snapshot := do
  let builder ← stageFields vocabulary fields
  (builder.commit now (storedFieldOr fields "created_at" .null)).1

/-- An identifier that is stored must be the one of the content. -/
def checkIdentifier (snapshot : Snapshot) (stored : Value) : Outcome Snapshot :=
  if stored.isTruthy && !stored.agrees (.text snapshot.id) then
    stored.whenShown (.error (.storage (.checksumMismatch stored.shown snapshot.id)))
  else .ok snapshot

/-- The snapshot that stored fields describe. -/
def ofFields (vocabulary : Vocabulary) (now : String) (fields : List (String × Value)) :
    Outcome Snapshot :=
  match rebuild vocabulary now fields with
  | .error fault => .error fault.inStoredData
  | .ok snapshot => snapshot.checkIdentifier (storedFieldOr fields "snapshot_id" .null)

/-- The snapshot that a stored value describes; only an object can be looked into. -/
def ofValue (vocabulary : Vocabulary) (now : String) (data : Value) : Outcome Snapshot :=
  match data with
  | .object fields => ofFields vocabulary now fields
  | other => crash (.noAttribute other.typeName "get")

end Snapshot

end CodeGraph

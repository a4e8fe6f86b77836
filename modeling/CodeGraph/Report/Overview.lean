import CodeGraph.NameOrder
import CodeGraph.Snapshot.Basic

/-!
This file sums a snapshot up: its sizes, and how its entities and edges are spread over kinds,
languages and relations.
-/

namespace CodeGraph

/-- The numbers of a snapshot. The numbers by name stand in the order of the names. -/
structure Overview where
  snapshotId : String
  generation : Int
  createdAt : Value
  entities : Nat
  edges : Nat
  files : Nat
  externalEntities : Nat
  changeSets : Nat
  byKind : List (String × Nat)
  byLanguage : List (String × Nat)
  byRelation : List (Atom × Nat)

namespace Overview

/-- The names in order, each with the number of its appearances. -/
def tally (names : List String) : List (String × Nat) :=
  (Table.ofList names : TextSet).rows.map fun name => (name, names.count name)

/-- The first atoms of those that agree. -/
def firstAtoms : List Atom → List Atom
  | [] => []
  | first :: rest => first :: (firstAtoms rest).filter fun other => !first.agrees other

/-- The relations in order, each with the number of its appearances. -/
def tallyRelations (relations : List Atom) : Outcome (List (Atom × Nat)) :=
  NameOrder.sort ((firstAtoms relations).map fun name =>
    (name, relations.countP fun relation => name.agrees relation))

def measure (snapshot : Snapshot) : Outcome Overview := do
  let files ← snapshot.files
  let byRelation ← tallyRelations (snapshot.edges.map Edge.relation)
  let rows := snapshot.entities.rows
  return {
    snapshotId := snapshot.id
    generation := snapshot.generation
    createdAt := snapshot.createdAt
    entities := snapshot.entityCount
    edges := snapshot.edgeCount
    files := files.length
    externalEntities := rows.countP Entity.isExternal
    changeSets := snapshot.changeSets.size
    byKind := tally (rows.map fun entity => entity.address.kind.name)
    byLanguage := tally (rows.map fun entity => entity.address.language.name)
    byRelation := byRelation }

def tallyValue (tally : List (String × Nat)) : Value :=
  .object (tally.map fun entry => (entry.1, .int entry.2))

def fields (overview : Overview) : List (String × Value) := [
  ("snapshot_id", .text overview.snapshotId),
  ("generation", .int overview.generation),
  ("created_at", overview.createdAt),
  ("entity_count", .int overview.entities),
  ("edge_count", .int overview.edges),
  ("file_count", .int overview.files),
  ("external_entity_count", .int overview.externalEntities),
  ("change_set_count", .int overview.changeSets),
  ("entities_by_type", tallyValue overview.byKind),
  ("entities_by_language", tallyValue overview.byLanguage),
  ("edges_by_relation",
    tallyValue (overview.byRelation.map fun entry => (entry.1.fieldName, entry.2)))]

def toValue (overview : Overview) : Value := .object overview.fields

end Overview

end CodeGraph

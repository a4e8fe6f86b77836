import CodeGraph.Snapshot.Basic

/-!
This file lists the entities on both sides of an entity together with the relations to them.
-/

namespace CodeGraph

/-- An entity next to another one. -/
structure Relative where
  entity : Entity
  relation : Atom

namespace Relative

def ofNeighbor (snapshot : Snapshot) (neighbor : Neighbor) : Outcome Relative :=
  (snapshot.entityAt neighbor.address).map fun entity => ⟨entity, neighbor.relation⟩

/-- The entities that depend on the entity of a key. -/
def callers (vocabulary : Vocabulary) (snapshot : Snapshot) (key : Value) :
    Outcome (List Relative) := do
  let address ← snapshot.resolve vocabulary key
  (snapshot.callers address).mapM (ofNeighbor snapshot)

/-- The entities on which the entity of a key depends. -/
def callees (vocabulary : Vocabulary) (snapshot : Snapshot) (key : Value) :
    Outcome (List Relative) := do
  let address ← snapshot.resolve vocabulary key
  (snapshot.callees address).mapM (ofNeighbor snapshot)

def toValue (relative : Relative) : Value := .object [
  ("entity", relative.entity.toValue),
  ("relation", relative.relation.toValue)]

end Relative

end CodeGraph

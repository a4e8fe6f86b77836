import CodeGraph.Request.Argument
import CodeGraph.Snapshot.Basic

/-!
This file ranks the entities by the number of edges that end at them. External entities take part,
since a change of a library concerns all that rely on it.
-/

namespace CodeGraph

/-- An entity with its rank and the numbers of edges at both of its sides. -/
structure Hotspot where
  rank : Nat
  entity : Entity
  inbound : Nat
  outbound : Nat

namespace Hotspot

/-- More inbound edges come first, and of equal numbers the smaller key. -/
def precedes (snapshot : Snapshot) (first second : Entity) : Bool :=
  let left := snapshot.inDegree first.address
  let right := snapshot.inDegree second.address
  decide (right < left) || (left == right && decide (first.key < second.key))

/-- All entities of a snapshot in the order of their ranks. -/
def ranked (snapshot : Snapshot) : List Entity :=
  Order.sort (precedes snapshot) snapshot.entities.rows

/-- The ranks are given from the first one on. -/
def number (snapshot : Snapshot) (rank : Nat) : List Entity → List Hotspot
  | [] => []
  | entity :: rest =>
      ⟨rank, entity, snapshot.inDegree entity.address, snapshot.outDegree entity.address⟩ ::
        number snapshot (rank + 1) rest

/-- The entities with the highest ranks. -/
def measure (snapshot : Snapshot) (top : Nat) : List Hotspot :=
  number snapshot 1 ((ranked snapshot).take top)

/-- Without a wish of the caller so many entities are ranked. -/
def defaultTop : Nat := 10

def ofRequest (snapshot : Snapshot) (top : Value) : Outcome (List Hotspot) :=
  match Argument.positive? top with
  | some top => .ok (measure snapshot top)
  | none => top.whenShown (refuse (.top top.quoted))

def toValue (hotspot : Hotspot) : Value := .object [
  ("rank", .int hotspot.rank),
  ("entity", .text hotspot.entity.key),
  ("name", .text hotspot.entity.address.name),
  ("entity_type", .text hotspot.entity.address.kind.name),
  ("file_path", hotspot.entity.filePath),
  ("inbound_count", .int hotspot.inbound),
  ("outbound_count", .int hotspot.outbound),
  ("is_external", .bool hotspot.entity.isExternal)]

end Hotspot

end CodeGraph

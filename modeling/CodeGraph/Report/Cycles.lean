import CodeGraph.Snapshot.Basic
import CodeGraph.Walk

/-!
This file finds the cycles of dependencies. Two entities are on one cycle when each of them leads to
the other, and an entity with an edge to itself is a cycle of its own.
-/

namespace CodeGraph

/-- The members of each cycle in the order of their keys. The larger cycles come first. -/
structure CycleReport where
  cycles : List (List Address)

namespace CycleReport

/-- The entities that lie ahead of an entity, apart from itself. -/
def ahead (snapshot : Snapshot) (address : Address) : List Address :=
  (Walk.layers snapshot.calleeAddresses snapshot.entityCount address).flatten

/-- Each entity with the entities ahead of it. -/
def horizons (snapshot : Snapshot) : List (Address × List Address) :=
  snapshot.addresses.map fun address => (address, ahead snapshot address)

/-- Two entities are the same, or each of them lies ahead of the other. -/
def areMutual (first second : Address × List Address) : Bool :=
  decide (first.1 = second.1) || (first.2.contains second.1 && second.2.contains first.1)

/-- The entities that lie ahead of an entity and also lead back to it, and the entity itself, in the
order of the horizons. -/
def component (horizons : List (Address × List Address))
    (horizon : Address × List Address) : List Address :=
  (horizons.filter (areMutual horizon)).map Prod.fst

/-- A component is a cycle if it has several members or if its only member leads to itself. -/
def isCycle (snapshot : Snapshot) (members : List Address) : Bool :=
  1 < members.length || members.any fun member => snapshot.selfLoops.contains member

/-- Each component once, in the order of the first members. -/
def components (snapshot : Snapshot) : List (List Address) :=
  let horizons := horizons snapshot
  Order.distinct (horizons.map (component horizons))

/-- The larger cycle comes first, and of equal ones the one with the smaller first key. -/
def precedes (first second : List Address) : Bool :=
  decide (second.length < first.length) ||
    (first.length == second.length &&
      match first, second with
      | left :: _, right :: _ => left.precedes right
      | _, _ => false)

def measure (snapshot : Snapshot) : CycleReport :=
  ⟨Order.sort precedes ((components snapshot).filter (isCycle snapshot))⟩

def toValue (report : CycleReport) : Value := .object [
  ("has_cycles", .bool !report.cycles.isEmpty),
  ("cycle_count", .int report.cycles.length),
  ("cycles", .list (report.cycles.map fun members =>
    .list (members.map fun address => .text address.text)))]

end CycleReport

end CodeGraph

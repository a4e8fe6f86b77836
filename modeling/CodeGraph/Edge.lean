import CodeGraph.Address
import CodeGraph.Order
import CodeGraph.Table

/-!
This file holds the edges between entities and the recorded changes of files.
-/

namespace CodeGraph

/-- Records name a relation by a text; stored data may hold any atom. -/
structure Edge where
  source : Address
  target : Address
  relation : Atom
  deriving DecidableEq

namespace Edge

/-- The relation of an edge that names none. -/
def defaultRelation : String := "calls"

def isSelfLoop (edge : Edge) : Bool := decide (edge.source = edge.target)

/-- Edges agree when they join the same addresses by relations that agree. -/
def agrees (first second : Edge) : Bool :=
  decide (first.source = second.source) && decide (first.target = second.target) &&
    first.relation.agrees second.relation

/-- Edges stand in the order of their sources, then of their targets, then of their relations. -/
def precedes (first second : Edge) : Bool :=
  if first.source = second.source then
    if first.target = second.target then
      !first.relation.agrees second.relation && first.relation.lt second.relation
    else first.target.precedes second.target
  else first.source.precedes second.source

/-- Edges between the same addresses can be ordered only if their relations can. -/
def comparable (first second : Edge) : Bool :=
  !(decide (first.source = second.source) && decide (first.target = second.target)) ||
    first.relation.comparable second.relation

def toValue (edge : Edge) : Value := .object [
  ("source", .text edge.source.text),
  ("target", .text edge.target.text),
  ("relation", edge.relation.toValue)]

/-- The first edge that cannot be ordered, with the edge that stands in its way. -/
def incomparable? : List Edge → Option (Edge × Edge)
  | [] => none
  | first :: rest =>
      match rest.find? fun edge => !edge.comparable first with
      | some edge => some (edge, first)
      | none => incomparable? rest

/-- The edges in order. -/
def sort (edges : List Edge) : Outcome (List Edge) :=
  match incomparable? edges with
  | some (edge, other) =>
      crash (.incomparable "<" edge.relation.typeName other.relation.typeName)
  | none => .ok (Order.sort precedes edges)

theorem mem_of_mem_sort {edges sorted : List Edge} (sorting : sort edges = .ok sorted)
    {member : Edge} (sortedMember : member ∈ sorted) : member ∈ edges := by
  unfold sort at sorting
  split at sorting
  · simp [crash] at sorting
  · simp only [Except.ok.injEq] at sorting
    exact Order.mem_sort.mp (sorting ▸ sortedMember)

end Edge

/-- The files that one recorded change touched. -/
structure ChangeSet where
  id : String
  files : TextSet

namespace ChangeSet

/-- The paths are brought into normal form, and a path that is named twice counts once. -/
def create (id files : Value) : Outcome ChangeSet :=
  id.whenShown do
    let items ← files.items
    let paths ← items.mapM FilePath.normalize
    return ⟨id.shown, Table.ofList paths⟩

def touches (change : ChangeSet) (path : String) : Bool := change.files.rows.contains path

def toValue (change : ChangeSet) : Value := .object [
  ("id", .text change.id),
  ("files", .list (change.files.rows.map .text))]

end ChangeSet

end CodeGraph

import CodeGraph.Request.Argument
import CodeGraph.Snapshot.Basic
import CodeGraph.Walk

/-!
This file tells what a change of one entity may affect: the entities that depend on it directly, the
ones that depend on those, and so on. The walk can also follow the dependencies themselves.
-/

namespace CodeGraph

/-- The direction in which edges are followed. -/
inductive Direction where
  /-- From an entity to the entities that depend on it. -/
  | reverse
  /-- From an entity to the entities on which it depends. -/
  | forward
  deriving DecidableEq, Repr

namespace Direction

def word : Direction → String
  | .reverse => "reverse"
  | .forward => "forward"

def ofValue? : Value → Option Direction
  | .text value => [Direction.reverse, Direction.forward].find? fun direction =>
      direction.word == value
  | _ => none

/-- The entities that one step leads to, in the order of their keys. -/
def step (snapshot : Snapshot) : Direction → Address → List Address
  | .reverse => snapshot.callerAddresses
  | .forward => snapshot.calleeAddresses

end Direction

/-- How many entities of each hop are shown. -/
inductive Cap where
  | all
  | atMost (count : Nat)
  /-- So many entities at the end are left out. -/
  | allBut (count : Nat)
  deriving DecidableEq, Repr

namespace Cap

/-- A negative number counts from the end. -/
def ofInt (value : Int) : Cap := if value < 0 then .allBut value.natAbs else .atMost value.toNat

def ofValue? : Value → Option Cap
  | .null => some .all
  | .bool value => some (ofInt (Value.boolInt value))
  | .int value => some (ofInt value)
  | _ => none

def apply {α : Type} (cap : Cap) (elements : List α) : List α :=
  match cap with
  | .all => elements
  | .atMost count => elements.take count
  | .allBut count => elements.take (elements.length - count)

end Cap

/-- The entities that are reached by a number of hops and by no smaller one. -/
structure Hop where
  number : Nat
  count : Nat
  shown : List Address

def Hop.toValue (hop : Hop) : Value := .object [
  ("hop", .int hop.number),
  ("count", .int hop.count),
  ("entities", .list (hop.shown.map fun address => .text address.text))]

/-- What is reached from an entity within a number of hops. -/
structure BlastRadius where
  source : Address
  hops : Nat
  direction : Direction
  byHop : List Hop

namespace BlastRadius

/-- The layers around the source in the order of their keys. -/
def layers (snapshot : Snapshot) (source : Address) (hops : Nat) (direction : Direction) :
    List (List Address) :=
  (Walk.layers (direction.step snapshot) hops source).map Snapshot.orderAddresses

/-- The hops are numbered from the given one on. -/
def number (cap : Cap) (first : Nat) : List (List Address) → List Hop
  | [] => []
  | layer :: rest => ⟨first, layer.length, cap.apply layer⟩ :: number cap (first + 1) rest

def measure (snapshot : Snapshot) (source : Address) (hops : Nat) (direction : Direction)
    (cap : Cap) : BlastRadius :=
  ⟨source, hops, direction, number cap 1 (layers snapshot source hops direction)⟩

/-- The number of all entities that are reached, whether they are shown or not. -/
def total (radius : BlastRadius) : Nat :=
  radius.byHop.foldr (fun hop rest => hop.count + rest) 0

/-- A number of hops, which may be zero. -/
def hops? : Value → Option Nat
  | .int value => if 0 ≤ value then some value.toNat else none
  | _ => none

/-- A missing direction and a missing cap have these values. -/
def defaultDirection : Value := .text Direction.reverse.word

def defaultCap : Value := .null

/-- The blast radius that a request asks for. A cap that is no whole number is a defect once it is
applied. -/
def ofRequest (vocabulary : Vocabulary) (snapshot : Snapshot)
    (key hops direction cap : Value) : Outcome BlastRadius :=
  match hops? hops with
  | none => hops.whenShown (refuse (.hops hops.quoted))
  | some hops =>
      match Direction.ofValue? direction with
      | none => direction.whenShown (refuse (.direction direction.quoted))
      | some direction => do
          let source ← snapshot.resolve vocabulary key
          match Cap.ofValue? cap with
          | some cap => return measure snapshot source hops direction cap
          | none =>
              if (layers snapshot source hops direction).isEmpty then
                return measure snapshot source hops direction .all
              else crash .badSlice

def toValue (radius : BlastRadius) : Value := .object [
  ("source", .text radius.source.text),
  ("hops", .int radius.hops),
  ("direction", .text radius.direction.word),
  ("total_affected", .int radius.total),
  ("by_hop", .list (radius.byHop.map Hop.toValue))]

end BlastRadius

end CodeGraph

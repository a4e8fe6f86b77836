import CodeGraph.Edge
import CodeGraph.Entity

/-!
This file holds the snapshots of a code base and the look-ups in them. Every edge of a snapshot
joins two of its entities.
-/

namespace CodeGraph

/-- One committed state of the graph. -/
structure Snapshot where
  entities : Table Entity Entity.key
  edges : List Edge
  changeSets : Table ChangeSet ChangeSet.id
  id : String
  createdAt : Value
  generation : Int
  endpointsPresent : ∀ edge ∈ edges,
    entities.contains edge.source.text = true ∧ entities.contains edge.target.text = true

/-- The entity on the other end of an edge, and the relation of the edge. -/
structure Neighbor where
  address : Address
  relation : Atom
  deriving DecidableEq

namespace Snapshot

def entityCount (snapshot : Snapshot) : Nat := snapshot.entities.size

def edgeCount (snapshot : Snapshot) : Nat := snapshot.edges.length

/-- The addresses of all entities in the order of their keys. -/
def addresses (snapshot : Snapshot) : List Address := snapshot.entities.rows.map Entity.address

def entity? (snapshot : Snapshot) (address : Address) : Option Entity :=
  snapshot.entities.find? address.text

/-- The entity at an address. -/
def entityAt (snapshot : Snapshot) (address : Address) : Outcome Entity :=
  match snapshot.entity? address with
  | some entity => .ok entity
  | none => .error (.entityNotFound address.text)

/-- The address that a key denotes, if the snapshot has an entity there. -/
def resolve (vocabulary : Vocabulary) (snapshot : Snapshot) (key : Value) : Outcome Address := do
  let address ← Address.parse vocabulary key
  let _ ← snapshot.entityAt address
  return address

/-- The entity of a key. -/
def get (vocabulary : Vocabulary) (snapshot : Snapshot) (key : Value) : Outcome Entity := do
  snapshot.entityAt (← Address.parse vocabulary key)

def has (vocabulary : Vocabulary) (snapshot : Snapshot) (key : Value) : Bool :=
  (snapshot.resolve vocabulary key).toOption.isSome

/-- The entities of a kind and a language; without either, all entities pass. -/
def entitiesOf (snapshot : Snapshot) (kind : Option EntityKind) (language : Option Language) :
    List Entity :=
  snapshot.entities.rows.filter fun entity =>
    (kind.isNone || kind == some entity.address.kind) &&
      (language.isNone || language == some entity.address.language)

/-- The entities that pass two filters. A filter that counts as false is left out. -/
def listEntities (vocabulary : Vocabulary) (snapshot : Snapshot) (kind language : Value) :
    Outcome (List Entity) := do
  let language ← if language.isTruthy then (Language.normalize language).map some else pure none
  let kind ←
    if kind.isTruthy then (vocabulary.normalizeKind language kind).map some else pure none
  return snapshot.entitiesOf kind language

/-- The ends of the edges that start at an address. -/
def callees (snapshot : Snapshot) (address : Address) : List Neighbor :=
  (snapshot.edges.filter fun edge => decide (edge.source = address)).map fun edge =>
    ⟨edge.target, edge.relation⟩

/-- The starts of the edges that end at an address. -/
def callers (snapshot : Snapshot) (address : Address) : List Neighbor :=
  (snapshot.edges.filter fun edge => decide (edge.target = address)).map fun edge =>
    ⟨edge.source, edge.relation⟩

def inDegree (snapshot : Snapshot) (address : Address) : Nat := (snapshot.callers address).length

def outDegree (snapshot : Snapshot) (address : Address) : Nat := (snapshot.callees address).length

/-- The entities that depend on an entity, in the order of their keys. -/
def callerAddresses (snapshot : Snapshot) (address : Address) : List Address :=
  Order.distinct ((snapshot.callers address).map Neighbor.address)

/-- The entities on which an entity depends, in the order of their keys. -/
def calleeAddresses (snapshot : Snapshot) (address : Address) : List Address :=
  Order.distinct ((snapshot.callees address).map Neighbor.address)

/-- Addresses in the order of their keys, each one once. -/
def orderAddresses (addresses : List Address) : List Address :=
  (Table.ofList addresses : Table Address Address.text).rows

/-- The entities next to an entity in either direction, in the order of their keys. -/
def neighborAddresses (snapshot : Snapshot) (address : Address) : List Address :=
  orderAddresses (snapshot.callerAddresses address ++ snapshot.calleeAddresses address)

/-- The entities with an edge to themselves. -/
def selfLoops (snapshot : Snapshot) : List Address :=
  Order.distinct ((snapshot.edges.filter Edge.isSelfLoop).map Edge.source)

/-- The ordered pairs of entities that at least one edge joins. -/
def arcs (snapshot : Snapshot) : List (Address × Address) :=
  Order.distinct (snapshot.edges.map fun edge => (edge.source, edge.target))

/-- The address joins the group of its path; a new path opens a group at the end. -/
def addToFile (path : Atom) (address : Address) :
    List (Atom × List Address) → List (Atom × List Address)
  | [] => [(path, [address])]
  | (other, addresses) :: rest =>
      if other.agrees path then (other, addresses ++ [address]) :: rest
      else (other, addresses) :: addToFile path address rest

/-- The entities in the source tree grouped by their files. -/
def groupFiles (groups : List (Atom × List Address)) :
    List Entity → Outcome (List (Atom × List Address))
  | [] => .ok groups
  | entity :: rest =>
      if entity.isExternal then groupFiles groups rest
      else
        match entity.filePath.toAtom with
        | .error fault => .error fault
        | .ok path => groupFiles (addToFile path entity.address groups) rest

/-- The files of the source tree with the addresses of their entities. -/
def files (snapshot : Snapshot) : Outcome (List (Atom × List Address)) :=
  groupFiles [] snapshot.entities.rows

/-- The entities of a file; an unknown file has none. -/
def entitiesOfFile (groups : List (Atom × List Address)) (path : Atom) : List Address :=
  match groups.find? fun group => group.1.agrees path with
  | some group => group.2
  | none => []

/-- A short description for people. -/
def summary (snapshot : Snapshot) : String :=
  "Snapshot(id=" ++ snapshot.id ++ ", generation=" ++ Decimal.integerText snapshot.generation ++
    ", entities=" ++ Decimal.naturalText snapshot.entityCount ++
    ", edges=" ++ Decimal.naturalText snapshot.edgeCount ++ ")"

/-- The snapshot as an object of a document. -/
def toValue (snapshot : Snapshot) : Value := .object [
  ("snapshot_id", .text snapshot.id),
  ("created_at", snapshot.createdAt),
  ("generation", .int snapshot.generation),
  ("entities", .list (snapshot.entities.rows.map Entity.toValue)),
  ("edges", .list (snapshot.edges.map Edge.toValue)),
  ("change_sets", .list (snapshot.changeSets.rows.map ChangeSet.toValue))]

end Snapshot

end CodeGraph

import CodeGraph.Record.Batch
import CodeGraph.Snapshot.Content

/-!
This file holds the staging of entities, edges and change sets, and the commit that turns the
staged data into a snapshot. A commit that fails leaves the staged data as they are.
-/

namespace CodeGraph

/-- The staged data. A builder that is committed takes no more data. -/
structure Builder where
  generation : Int
  materializeExternal : Bool
  entities : Table Entity Entity.key
  edges : List Edge
  changeSets : Table ChangeSet ChangeSet.id
  committed : Bool

/-- An item that is put into a builder, or something else that is put in its place. -/
inductive Offer (α : Type) where
  | item (value : α)
  | foreign (typeName : String)

/-- What an operation on a builder gives, and the builder after it. What was staged before a fault
stays staged. -/
abbrev Staging (α : Type) : Type := Outcome α × Builder

/-- The records that are staged, by kind, and the batches in which they came. -/
structure StagedCounts where
  entities : Nat
  edges : Nat
  changeSets : Nat
  batches : Nat
  deriving DecidableEq, Repr

namespace Builder

def create (generation : Int) (materializeExternal : Bool) : Builder :=
  ⟨generation, materializeExternal, Table.empty, [], Table.empty, false⟩

/-- An operation on a builder that is still open. -/
def whenOpen {α : Type} (builder : Builder) (operation : Staging α) : Staging α :=
  if builder.committed then (.error (.storage .builderCommitted), builder) else operation

/-- An entity may be staged again under its key only if it agrees with the staged one. -/
def stageEntity (builder : Builder) (entity : Entity) : Outcome Builder :=
  match builder.entities.find? entity.key with
  | some staged =>
      if staged.agrees entity then
        .ok { builder with entities := builder.entities.insert entity }
      else .error (.integrity (.conflictingEntities entity.key))
  | none => .ok { builder with entities := builder.entities.insert entity }

/-- An edge needs a relation, and an edge that is staged already is not staged again. -/
def stageEdge (builder : Builder) (edge : Edge) : Outcome Builder :=
  if edge.relation.toValue.isTruthy then
    if builder.edges.any edge.agrees then .ok builder
    else .ok { builder with edges := builder.edges ++ [edge] }
  else refuse (.noRelation edge.source.text edge.target.text)

/-- The latest change set of an identifier counts. -/
def stageChange (builder : Builder) (change : ChangeSet) : Builder :=
  { builder with changeSets := builder.changeSets.insert change }

/-- This stages the items one after the other; `count` items are staged already. -/
def stageAll {α : Type} (stage : Builder → α → Outcome Builder) (builder : Builder)
    (count : Nat) : List α → Staging Nat
  | [] => (.ok count, builder)
  | item :: rest =>
      match stage builder item with
      | .error fault => (.error fault, builder)
      | .ok next => stageAll stage next (count + 1) rest

def offerEntity (builder : Builder) : Offer Entity → Outcome Builder
  | .item entity => builder.stageEntity entity
  | .foreign typeName => refuse (.foreignEntity typeName)

def offerEdge (builder : Builder) : Offer Edge → Outcome Builder
  | .item edge => builder.stageEdge edge
  | .foreign typeName => refuse (.foreignEdge typeName)

/-- The kind of a change set is not checked. -/
def offerChange (builder : Builder) : Offer ChangeSet → Outcome Builder
  | .item change => .ok (builder.stageChange change)
  | .foreign typeName => crash (.noAttribute typeName "change_id")

def putEntities (builder : Builder) (batch : List (Offer Entity)) : Staging Nat :=
  builder.whenOpen (stageAll offerEntity builder 0 batch)

def putEdges (builder : Builder) (batch : List (Offer Edge)) : Staging Nat :=
  builder.whenOpen (stageAll offerEdge builder 0 batch)

def putChangeSets (builder : Builder) (batch : List (Offer ChangeSet)) : Staging Nat :=
  builder.whenOpen (stageAll offerChange builder 0 batch)

/-- An operation goes on with what the one before it gives. -/
def andThen {α β : Type} (first : Staging α) (next : α → Builder → Staging β) : Staging β :=
  match first with
  | (.error fault, builder) => (.error fault, builder)
  | (.ok value, builder) => next value builder

/-- One batch is staged kind by kind. -/
def putBatch (builder : Builder) (counts : StagedCounts) (batch : Batch) : Staging StagedCounts :=
  andThen (builder.putEntities (batch.entities.map .item)) fun entities builder =>
    andThen (builder.putEdges (batch.edges.map .item)) fun edges builder =>
      andThen (builder.putChangeSets (batch.changeSets.map .item)) fun changes builder =>
        (.ok ⟨counts.entities + entities, counts.edges + edges, counts.changeSets + changes,
          counts.batches + 1⟩, builder)

/-- The batches are staged as they come, and the fault of the run is met behind the last one. -/
def putBatches (builder : Builder) (counts : StagedCounts) (ending : Option Fault) :
    List Batch → Staging StagedCounts
  | [] =>
      match ending with
      | some fault => (.error fault, builder)
      | none => (.ok counts, builder)
  | batch :: rest =>
      andThen (builder.putBatch counts batch) fun counts builder =>
        putBatches builder counts ending rest

/-- The records of a feed are staged in batches. -/
def stageFeed (vocabulary : Vocabulary) (builder : Builder) (size : Int) (feed : Feed) :
    Staging StagedCounts :=
  let run := BatchRun.ofFeed vocabulary size feed
  builder.putBatches ⟨0, 0, 0, 0⟩ run.fault run.batches

/-- The ends of all staged edges. -/
def endpoints (edges : List Edge) : List Address :=
  edges.flatMap fun edge => [edge.source, edge.target]

/-- The staged entities together with the sentinels of external ends. -/
def materialized (builder : Builder) : Table Entity Entity.key :=
  (endpoints builder.edges).foldl (fun entities address =>
    if builder.materializeExternal && address.isExternal && !entities.contains address.text then
      entities.insert (Entity.sentinel address)
    else entities) builder.entities

/-- The ends of staged edges without an entity. -/
def missing (builder : Builder) : List Address :=
  (endpoints builder.edges).filter fun address => !builder.materialized.contains address.text

/-- A message quotes this many missing keys. -/
def quotedKeys : Nat := 5

def missingFault (addresses : List Address) : Fault :=
  let keys := (Snapshot.orderAddresses addresses).map Address.text
  .integrity (.missingEndpoints keys.length (keys.take quotedKeys))

theorem contains_of_missing_nil {builder : Builder} (none : builder.missing = [])
    {edge : Edge} (staged : edge ∈ builder.edges) :
    builder.materialized.contains edge.source.text = true ∧
      builder.materialized.contains edge.target.text = true := by
  have present : ∀ address ∈ endpoints builder.edges,
      builder.materialized.contains address.text = true := by
    intro address member
    have kept := List.filter_eq_nil_iff.mp none address member
    simpa using kept
  exact ⟨present _ (List.mem_flatMap.mpr ⟨edge, staged, by simp⟩),
    present _ (List.mem_flatMap.mpr ⟨edge, staged, by simp⟩)⟩

/-- The snapshot of the staged data. A creation time that counts as false is replaced by `now`. -/
def snapshot (builder : Builder) (now : String) (createdAt : Value) : Outcome Snapshot :=
  if none : builder.missing = [] then
    match sorting : Edge.sort builder.edges with
    | .error fault => .error fault
    | .ok edges =>
        (Content.identifier builder.materialized.rows edges builder.changeSets.rows).map fun id => {
          entities := builder.materialized
          edges := edges
          changeSets := builder.changeSets
          id := id
          createdAt := if createdAt.isTruthy then createdAt else .text now
          generation := builder.generation
          endpointsPresent := fun _ member =>
            contains_of_missing_nil none (Edge.mem_of_mem_sort sorting member) }
  else .error (missingFault builder.missing)

/-- The builder after its commit. -/
def closed (builder : Builder) : Builder :=
  { builder with
    entities := Table.empty, edges := [], changeSets := Table.empty, committed := true }

/-- A commit gives the snapshot of the staged data and closes the builder. A snapshot is announced
by its generation, so a generation that cannot be written is a defect. -/
def commit (builder : Builder) (now : String) (createdAt : Value) : Staging Snapshot :=
  builder.whenOpen <|
    match builder.snapshot now createdAt with
    | .error fault => (.error fault, builder)
    | .ok snapshot =>
        if Decimal.isWritable snapshot.generation then (.ok snapshot, builder.closed)
        else (crash .tooManyDigits, builder.closed)

end Builder

end CodeGraph

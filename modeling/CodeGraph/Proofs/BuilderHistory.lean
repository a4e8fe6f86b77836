import CodeGraph.Proofs.Closure
import CodeGraph.Proofs.Digits
import CodeGraph.Proofs.Staging

/-!
This file follows a builder through its calls. Beside the builder stands a record of all items that
it accepted, and a commit is judged by this record alone. The texts in the items are those that
UTF-8 can encode: with any other the identifier of the content could not be computed.
-/

namespace CodeGraph

/-- What a builder is asked to do. -/
inductive BuilderCall where
  | putEntities (batch : List (Offer Entity))
  | putEdges (batch : List (Offer Edge))
  | putChangeSets (batch : List (Offer ChangeSet))
  | commit (now : String) (createdAt : Value)

/-- What a builder answers: how many items it staged, or the snapshot that it made. -/
inductive BuilderAnswer where
  | staged (count : Nat)
  | committed (snapshot : Snapshot)

/-- Entities are serialisable, and edges have texts for relations. -/
def BuilderCall.IsWellFormed : BuilderCall → Prop
  | .putEntities batch => ∀ entity, .item entity ∈ batch → entity.IsSerialisable
  | .putEdges batch => ∀ edge, .item edge ∈ batch → edge.IsNamed
  | .putChangeSets _ => True
  | .commit _ _ => True

/-- The item that is offered, if it is of the right kind. -/
def Offer.item? {α : Type} : Offer α → Option α
  | .item value => some value
  | .foreign _ => none

namespace Builder

def perform (builder : Builder) : BuilderCall → Staging BuilderAnswer
  | .putEntities batch =>
      ((builder.putEntities batch).1.map .staged, (builder.putEntities batch).2)
  | .putEdges batch => ((builder.putEdges batch).1.map .staged, (builder.putEdges batch).2)
  | .putChangeSets batch =>
      ((builder.putChangeSets batch).1.map .staged, (builder.putChangeSets batch).2)
  | .commit now createdAt =>
      ((builder.commit now createdAt).1.map .committed, (builder.commit now createdAt).2)

/-- The items of a batch before the first one that is refused. -/
def acceptedItems {α : Type} (stage : Builder → Offer α → Outcome Builder) (builder : Builder) :
    List (Offer α) → List α
  | [] => []
  | offer :: rest =>
      match stage builder offer with
      | .error _ => []
      | .ok next => offer.item?.toList ++ acceptedItems stage next rest

/-- What a builder accepts of a batch. A closed builder accepts nothing. -/
def accepted {α : Type} (stage : Builder → Offer α → Outcome Builder) (builder : Builder)
    (batch : List (Offer α)) : List α :=
  if builder.committed then [] else acceptedItems stage builder batch

end Builder

/-- A builder together with all items that it has accepted, the latest last. -/
structure BuilderHistory where
  builder : Builder
  entities : List Entity
  edges : List Edge
  changeSets : List ChangeSet

namespace BuilderHistory

/-- A builder that was just made. -/
def start (generation : Int) (external : Bool) : BuilderHistory :=
  ⟨Builder.create generation external, [], [], []⟩

def next (history : BuilderHistory) (call : BuilderCall) : BuilderHistory :=
  let builder := history.builder
  let after := (builder.perform call).2
  match call with
  | .putEntities batch =>
      { history with
        builder := after
        entities := history.entities ++ builder.accepted Builder.offerEntity batch }
  | .putEdges batch =>
      { history with
        builder := after
        edges := history.edges ++ builder.accepted Builder.offerEdge batch }
  | .putChangeSets batch =>
      { history with
        builder := after
        changeSets := history.changeSets ++ builder.accepted Builder.offerChange batch }
  | .commit _ _ => { history with builder := after }

def run (history : BuilderHistory) (calls : List BuilderCall) : BuilderHistory :=
  calls.foldl next history

/-- An open builder holds the latest of the accepted items: entities by key, change sets by
identifier, and every edge once. -/
structure IsRecorded (history : BuilderHistory) : Prop where
  opened : history.builder.committed = false
  entities : ∀ name,
    history.builder.entities.find? name = Table.latest? Entity.key name history.entities
  edges : ∀ edge, edge ∈ history.builder.edges ↔ edge ∈ history.edges
  distinct : history.builder.edges.Nodup
  changeSets : ∀ id,
    history.builder.changeSets.find? id = Table.latest? ChangeSet.id id history.changeSets
  serialisable : ∀ entity ∈ history.entities, entity.IsSerialisable
  named : ∀ edge ∈ history.edges, edge.IsNamed

end BuilderHistory

end CodeGraph

import CodeGraph.Record.File
import CodeGraph.Storage.Basic

/-!
This file holds the manager of the served snapshot. A new snapshot is built off to the side and
saved, and only then it is served. Whatever fails leaves the served snapshot as it was.
-/

namespace CodeGraph

/-- What a manager works with: the words and the time of its surroundings, and the size of the
batches in which it stages records. -/
structure Setting where
  vocabulary : Vocabulary
  now : String
  batchSize : Int

/-- Without a wish of the caller batches have this size. -/
def Setting.defaultBatchSize : Int := 1000

/-- The served snapshot, and the greatest generation that was served. -/
structure Manager where
  served : Option Snapshot
  generation : Int

/-- A manager together with the state of its storage. -/
structure Managed (σ : Type) where
  manager : Manager
  state : σ

namespace Manager

/-- A manager that serves nothing yet. -/
def initial : Manager := ⟨none, 0⟩

def hasSnapshot (manager : Manager) : Bool := manager.served.isSome

/-- The served snapshot. -/
def current (manager : Manager) : Outcome Snapshot :=
  match manager.served with
  | some snapshot => .ok snapshot
  | none => .error .noSnapshot

/-- A snapshot is served from now on. -/
def serve (manager : Manager) (snapshot : Snapshot) : Manager :=
  ⟨some snapshot, max manager.generation snapshot.generation⟩

/-- The generation of the next snapshot. -/
def nextGeneration (manager : Manager) : Int := manager.generation + 1

/-- The snapshot of a feed of records. -/
def build (setting : Setting) (feed : Feed) (manager : Manager) : Outcome Snapshot :=
  let staged := (Builder.create manager.nextGeneration true).stageFeed setting.vocabulary
    setting.batchSize feed
  (Builder.andThen staged fun _ builder => builder.commit setting.now .null).1

/-- The state of the manager in figures. -/
def statusFields (storageName : String) (manager : Manager) : List (String × Value) := [
  ("storage", .text storageName),
  ("snapshot_loaded", .bool manager.hasSnapshot),
  ("snapshot_id",
    match manager.served with
    | some snapshot => .text snapshot.id
    | none => .null),
  ("generation", .int manager.generation),
  ("entity_count", .int ((manager.served.map Snapshot.entityCount).getD 0)),
  ("edge_count", .int ((manager.served.map Snapshot.edgeCount).getD 0))]

end Manager

namespace Managed

variable {σ : Type}

/-- The stored snapshot is served. An empty storage changes nothing. -/
def load (storage : Storage σ) (managed : Managed σ) : Outcome (Option Snapshot) × Managed σ :=
  match storage.load managed.state with
  | (.ok (some snapshot), state) => (.ok (some snapshot), ⟨managed.manager.serve snapshot, state⟩)
  | (.ok none, state) => (.ok none, ⟨managed.manager, state⟩)
  | (.error fault, state) => (.error fault, ⟨managed.manager, state⟩)

/-- The snapshot of a feed is saved and then served. -/
def index (setting : Setting) (storage : Storage σ) (feed : Feed) (managed : Managed σ) :
    Outcome Snapshot × Managed σ :=
  match managed.manager.build setting feed with
  | .error fault => (.error fault, managed)
  | .ok snapshot =>
      match storage.save snapshot managed.state with
      | (.ok (), state) => (.ok snapshot, ⟨managed.manager.serve snapshot, state⟩)
      | (.error fault, state) => (.error fault, ⟨managed.manager, state⟩)

end Managed

end CodeGraph

import CodeGraph.Storage.SnapshotFile

/-!
This file holds the places where the latest snapshot is kept: in memory or in a file.
-/

namespace CodeGraph

/-- The operations of a place with states of some type. An operation that fails still leaves a
state behind. -/
structure Storage (σ : Type) where
  /-- The name of the place for people. -/
  name : String
  load : σ → Outcome (Option Snapshot) × σ
  save : Snapshot → σ → Outcome Unit × σ

namespace Storage

/-- The name of the memory. -/
def memoryName : String := "memory"

/-- The latest snapshot is kept as it is. -/
def memory : Storage (Option Snapshot) where
  name := memoryName
  load := fun held => (.ok held, held)
  save := fun snapshot _ => (.ok (), some snapshot)

/-- The latest snapshot is kept in a file of the disk. -/
def file (vocabulary : Vocabulary) (now : String) (target : SnapshotFile) : Storage Disk where
  name := target.path
  load := target.load vocabulary now
  save := fun snapshot disk => target.save snapshot disk

/-- A storage that uses the first part of a state. -/
def onFirst {σ τ : Type} (storage : Storage σ) : Storage (σ × τ) where
  name := storage.name
  load := fun state => ((storage.load state.1).1, ((storage.load state.1).2, state.2))
  save := fun snapshot state =>
    ((storage.save snapshot state.1).1, ((storage.save snapshot state.1).2, state.2))

/-- A storage that uses the second part of a state. -/
def onSecond {σ τ : Type} (storage : Storage τ) : Storage (σ × τ) where
  name := storage.name
  load := fun state => ((storage.load state.2).1, (state.1, (storage.load state.2).2))
  save := fun snapshot state =>
    ((storage.save snapshot state.2).1, (state.1, (storage.save snapshot state.2).2))

end Storage

end CodeGraph

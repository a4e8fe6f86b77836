import CodeGraph.Record.Feed

/-!
This file holds the batches in which the records of a feed are converted.
-/

namespace CodeGraph

/-- The converted records of one batch, each kind in the order of the feed. -/
structure Batch where
  entities : List Entity
  edges : List Edge
  changeSets : List ChangeSet

namespace Batch

def empty : Batch := ⟨[], [], []⟩

/-- The number of records in a batch. -/
def size (batch : Batch) : Nat :=
  batch.entities.length + batch.edges.length + batch.changeSets.length

/-- The kind of a delivery; a value with parts is not even looked up. -/
def kindOf (kind : Value) : Outcome RecordKind := do
  let atom ← kind.toAtom
  match atom with
  | .text word =>
      match RecordKind.ofWord? word with
      | some kind => return kind
      | none => refuse (.recordKind (Value.text word).quoted)
  | _ => kind.whenShown (refuse (.recordKind kind.quoted))

/-- The delivered record is converted and joins the batch. -/
def add (vocabulary : Vocabulary) (batch : Batch) (delivery : Delivery) : Outcome Batch := do
  match ← kindOf delivery.kind with
  | .entity =>
      let entity ← Entity.ofRecord vocabulary delivery.record
      return { batch with entities := batch.entities ++ [entity] }
  | .edge =>
      let edge ← Edge.ofRecord vocabulary delivery.record
      return { batch with edges := batch.edges ++ [edge] }
  | .changeSet =>
      let change ← ChangeSet.ofRecord delivery.record
      return { batch with changeSets := batch.changeSets ++ [change] }

end Batch

/-- The batches of a feed, and the fault that ends them early. -/
structure BatchRun where
  batches : List Batch
  fault : Option Fault

namespace BatchRun

def failing (fault : Fault) : BatchRun := ⟨[], some fault⟩

def cons (batch : Batch) (run : BatchRun) : BatchRun := ⟨batch :: run.batches, run.fault⟩

/-- The batches of a run that meets no fault. -/
def complete (run : BatchRun) : Outcome (List Batch) :=
  match run.fault with
  | some fault => .error fault
  | none => .ok run.batches

/-- `pending` is the batch that is being filled. A batch is handed out as soon as it is full, and
the last one at the end of the feed unless it is empty. A fault drops the pending batch. -/
def collect (vocabulary : Vocabulary) (limit : Nat) (pending : Batch) (ending : Option Fault) :
    List Delivery → BatchRun
  | [] =>
      match ending with
      | some fault => failing fault
      | none => ⟨if pending.size = 0 then [] else [pending], none⟩
  | delivery :: rest =>
      match pending.add vocabulary delivery with
      | .error fault => failing fault
      | .ok filled =>
          if limit ≤ filled.size then
            (collect vocabulary limit Batch.empty ending rest).cons filled
          else collect vocabulary limit filled ending rest

/-- The batches of a feed in the given size. -/
def ofFeed (vocabulary : Vocabulary) (size : Int) (feed : Feed) : BatchRun :=
  if size ≤ 0 then
    failing (if Decimal.isWritable size then .refused (.batchSize size)
      else .defect .tooManyDigits)
  else collect vocabulary size.toNat Batch.empty feed.fault feed.deliveries

end BatchRun

end CodeGraph

import CodeGraph.Json.Reader
import CodeGraph.Record.Conversion

/-!
This file holds the feeds of records. A feed is read record by record, so the records in front of
a fault are delivered before the fault is met.
-/

namespace CodeGraph

/-- A record together with the kind under which it is delivered. -/
structure Delivery where
  kind : Value
  record : Value

/-- The records of a feed, and the fault that ends it early. -/
structure Feed where
  deliveries : List Delivery
  fault : Option Fault

namespace Feed

def empty : Feed := ⟨[], none⟩

def failing (fault : Fault) : Feed := ⟨[], some fault⟩

/-- The second feed begins where the first one ends. -/
def append (first second : Feed) : Feed :=
  match first.fault with
  | some fault => ⟨first.deliveries, some fault⟩
  | none => ⟨first.deliveries ++ second.deliveries, second.fault⟩

/-- One record goes in front of a feed. -/
def cons (delivery : Delivery) (feed : Feed) : Feed :=
  ⟨delivery :: feed.deliveries, feed.fault⟩

/-- The records of a feed that meets no fault. -/
def complete (feed : Feed) : Outcome (List Delivery) :=
  match feed.fault with
  | some fault => .error fault
  | none => .ok feed.deliveries

/-- The field of a document under which the records of a kind stand. -/
def documentField : RecordKind → String
  | .entity => "entities"
  | .edge => "edges"
  | .changeSet => "change_sets"

/-- The records of one kind in a document. -/
def ofKind (fields : List (String × Value)) (kind : RecordKind) : Feed :=
  match ((Value.lookup (documentField kind) fields).getD (.list [])).items with
  | .ok records => ⟨records.map fun record => ⟨.text kind.word, record⟩, none⟩
  | .error fault => failing fault

/-- The records of a document: entities first, then edges, then change sets. -/
def ofDocument (document : Value) : Feed :=
  match document with
  | .object fields =>
      (ofKind fields .entity).append ((ofKind fields .edge).append (ofKind fields .changeSet))
  | _ => failing (.refused .documentNotObject)

/-- The delivery of one line that is not blank. -/
def ofLine (number : Nat) (line : List Char) : Outcome Delivery :=
  match Json.readDocument (.refused (.lineNotJson number)) line with
  | .error fault => .error fault
  | .ok record =>
      match record.field? "record" with
      | some (.text word) =>
          match RecordKind.ofWord? word with
          | some kind => .ok ⟨.text kind.word, record⟩
          | none => refuse (.lineKind number)
      | _ => refuse (.lineKind number)

/-- The records of lines, the first of which has the given number. Blank lines are passed over. -/
def ofLinesFrom (number : Nat) : List (List Char) → Feed
  | [] => empty
  | line :: rest =>
      let stripped := Text.strip line
      if stripped.isEmpty then ofLinesFrom (number + 1) rest
      else
        match ofLine number stripped with
        | .ok delivery => (ofLinesFrom (number + 1) rest).cons delivery
        | .error fault => failing fault

def ofLines (lines : List (List Char)) : Feed := ofLinesFrom 1 lines

end Feed

end CodeGraph

import CodeGraph.Snapshot.Basic

/-!
This file finds the files that change together with the file of an entity. A coupling is hidden when
no edge between the two files explains it.
-/

namespace CodeGraph

/-- A file that changes together with another one. -/
structure CoupledFile where
  path : String
  coChanges : Nat
  /-- The share of the changes of the other file that touch this one too. -/
  strength : Binary64
  hidden : Bool
  indexed : Bool
  entities : List Address

namespace CoupledFile

/-- Strengths are shown with this many decimal places. -/
def strengthPlaces : Nat := 4

def shownStrength (file : CoupledFile) : Binary64 := file.strength.roundPlaces strengthPlaces

/-- The stronger coupling comes first, then the one with more changes, then the smaller path. -/
def precedes (first second : CoupledFile) : Bool :=
  if second.shownStrength.lt first.shownStrength then true
  else if first.shownStrength.lt second.shownStrength then false
  else if first.coChanges = second.coChanges then decide (first.path < second.path)
  else decide (second.coChanges < first.coChanges)

def toValue (file : CoupledFile) : Value := .object [
  ("file_path", .text file.path),
  ("co_changes", .int file.coChanges),
  ("strength", .float file.shownStrength),
  ("hidden", .bool file.hidden),
  ("indexed", .bool file.indexed),
  ("entities", .list (file.entities.map fun address => .text address.text))]

end CoupledFile

/-- The files that are coupled to the file of an entity. -/
structure CouplingReport where
  entity : Address
  filePath : Value
  historyAvailable : Bool
  changeCount : Nat
  coupled : List CoupledFile

namespace CouplingReport

/-- Weaker couplings are left out unless the caller asks for them. -/
def defaultMinStrength : Value := .float (Binary64.ofQuotient false 3 10)

/-- Fewer common changes do not make a coupling unless the caller asks for them. -/
def defaultMinCoChanges : Value := .int 2

/-- So many entities of a coupled file are listed. -/
def listedEntities : Nat := 10

/-- The number of changes that touch a file. -/
def touching (changes : List ChangeSet) (path : String) : Nat :=
  changes.countP fun change => change.touches path

/-- The changes that touch the file of an entity. Only a text is the path of a changed file. -/
def relevant (snapshot : Snapshot) : Atom → List ChangeSet
  | .text path => snapshot.changeSets.rows.filter fun change => change.touches path
  | _ => []

/-- The files that some change touches, in order, apart from one file. -/
def otherFiles (changes : List ChangeSet) (own : Atom) : List String :=
  (Table.ofList (changes.flatMap fun change => change.files.rows) : TextSet).rows.filter
    fun path => !own.agrees (.text path)

/-- The number is below a bound of the caller, which must be a number too. -/
def isBelow (number bound : Value) : Outcome Bool :=
  (Value.compareNumbers "<" number bound).map fun order => order == some .lt

/-- The strength of a coupling. -/
def strengthOf (coChanges changeCount : Nat) : Binary64 :=
  Binary64.ofQuotient false coChanges changeCount

/-- The coupling is neither too rare nor too weak. -/
def qualifies (minStrength minCoChanges : Value) (coChanges changeCount : Nat) : Outcome Bool := do
  if ← isBelow (.int coChanges) minCoChanges then return false
  return !(← isBelow (.float (strengthOf coChanges changeCount)) minStrength)

/-- Some edge joins an entity of the first list and one of the second. -/
def isLinked (snapshot : Snapshot) (own other : List Address) : Bool :=
  own.any fun address =>
    (snapshot.calleeAddresses address).any other.contains ||
      (snapshot.callerAddresses address).any other.contains

/-- The coupling of a file with another one. -/
def couple (snapshot : Snapshot) (files : List (Atom × List Address)) (own : Atom)
    (path : String) (coChanges changeCount : Nat) : CoupledFile :=
  let entities := Snapshot.entitiesOfFile files (.text path)
  { path := path
    coChanges := coChanges
    strength := strengthOf coChanges changeCount
    hidden := !isLinked snapshot (Snapshot.entitiesOfFile files own) entities
    indexed := !entities.isEmpty
    entities := entities.take listedEntities }

/-- The couplings of a file with those of the given files that qualify. -/
def collect (snapshot : Snapshot) (own : Atom) (changes : List ChangeSet)
    (minStrength minCoChanges : Value) : List String → Outcome (List CoupledFile)
  | [] => .ok []
  | path :: rest => do
      let coChanges := touching changes path
      let wanted ← qualifies minStrength minCoChanges coChanges changes.length
      if wanted then
        let files ← snapshot.files
        let coupled ← collect snapshot own changes minStrength minCoChanges rest
        return couple snapshot files own path coChanges changes.length :: coupled
      else collect snapshot own changes minStrength minCoChanges rest

/-- The couplings of the file of an entity; without recorded changes there are none. -/
def measure (snapshot : Snapshot) (entity : Entity) (minStrength minCoChanges : Value) :
    Outcome CouplingReport :=
  let historyAvailable := !snapshot.changeSets.rows.isEmpty
  if entity.isExternal || !historyAvailable then
    .ok ⟨entity.address, entity.filePath, historyAvailable, 0, []⟩
  else do
    let own ← entity.filePath.toAtom
    let changes := relevant snapshot own
    let coupled ← collect snapshot own changes minStrength minCoChanges (otherFiles changes own)
    return ⟨entity.address, entity.filePath, true, changes.length,
      Order.sort CoupledFile.precedes coupled⟩

/-- The couplings that a request asks for. -/
def ofRequest (vocabulary : Vocabulary) (snapshot : Snapshot)
    (key minStrength minCoChanges : Value) : Outcome CouplingReport := do
  let entity ← snapshot.get vocabulary key
  measure snapshot entity minStrength minCoChanges

def toValue (report : CouplingReport) : Value := .object [
  ("entity", .text report.entity.text),
  ("file_path", report.filePath),
  ("history_available", .bool report.historyAvailable),
  ("change_count", .int report.changeCount),
  ("coupled_files", .list (report.coupled.map CoupledFile.toValue))]

end CouplingReport

end CodeGraph

import CodeGraph.Report.Clusters
import CodeGraph.Report.ContextSelection
import CodeGraph.Report.Search

/-!
This file holds the settings of a service and reads them from the environment.
-/

namespace CodeGraph

/-- The settings of a service. A path, a host or a port is missing if a flag was given without a
value. The numbers are kept as they were given, since they are checked where they are used. -/
structure Config where
  storagePath : Option String
  inMemory : Bool
  host : Option String
  port : Option Int
  contextMaxDepth : Value
  clusterThreshold : Value
  searchLimit : Value
  blastSample : Value

namespace Config

/-- The settings that hold where none are given. -/
def default : Config where
  storagePath := some ".depgraph/snapshot.json"
  inMemory := false
  host := some "127.0.0.1"
  port := some 8000
  contextMaxDepth := .int ContextSelection.defaultMaxDepth
  clusterThreshold := Threshold.defaultValue
  searchLimit := .int SearchPage.defaultLimit
  blastSample := .int 50

/-- The variables of an environment with their values. -/
abbrev Environment : Type := List (String × String)

/-- The variables that are looked at. -/
def variableNames : List String := [
  "DEPGRAPH_STORAGE_PATH", "DEPGRAPH_IN_MEMORY", "DEPGRAPH_HOST", "DEPGRAPH_PORT",
  "DEPGRAPH_CONTEXT_MAX_DEPTH", "DEPGRAPH_CLUSTER_THRESHOLD", "DEPGRAPH_SEARCH_LIMIT",
  "DEPGRAPH_BLAST_SAMPLE"]

/-- The words that switch a setting on. -/
def affirmations : List String := ["1", "true", "yes", "on"]

/-- A missing variable leaves a switch as it is. -/
def readSwitch (environment : Environment) (name : String) (absent : Bool) : Bool :=
  match environment.lookup name with
  | none => absent
  | some value => affirmations.contains (foldedWord value)

/-- A missing or blank variable leaves a number as it is. -/
def readNumber {α : Type} (environment : Environment) (name : String) (absent : α)
    (read : List Char → Option α) : Outcome α :=
  match environment.lookup name with
  | none => .ok absent
  | some value =>
      if Text.isBlank value.toList then .ok absent
      else
        match read value.toList with
        | some number => .ok number
        | none => refuse (.environment name value)

def readText (environment : Environment) (name : String) (absent : Option String) :
    Option String :=
  (environment.lookup name).or absent

/-- A whole number among the settings. -/
def integer? (text : List Char) : Option Value := (Numeral.integer? text).map .int

/-- A number among the settings. -/
def number? (text : List Char) : Option Value := (Numeral.number? text).map .float

/-- The settings of an environment. -/
def ofEnvironment (environment : Environment) : Outcome Config := do
  let port ← readNumber environment "DEPGRAPH_PORT" default.port fun text =>
    (Numeral.integer? text).map some
  let contextMaxDepth ←
    readNumber environment "DEPGRAPH_CONTEXT_MAX_DEPTH" default.contextMaxDepth integer?
  let clusterThreshold ←
    readNumber environment "DEPGRAPH_CLUSTER_THRESHOLD" default.clusterThreshold number?
  let searchLimit ← readNumber environment "DEPGRAPH_SEARCH_LIMIT" default.searchLimit integer?
  let blastSample ← readNumber environment "DEPGRAPH_BLAST_SAMPLE" default.blastSample integer?
  return {
    storagePath := readText environment "DEPGRAPH_STORAGE_PATH" default.storagePath
    inMemory := readSwitch environment "DEPGRAPH_IN_MEMORY" default.inMemory
    host := readText environment "DEPGRAPH_HOST" default.host
    port := port
    contextMaxDepth := contextMaxDepth
    clusterThreshold := clusterThreshold
    searchLimit := searchLimit
    blastSample := blastSample }

end Config

end CodeGraph

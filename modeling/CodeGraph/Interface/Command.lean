import CodeGraph.Interface.Flags
import CodeGraph.Service

/-!
This file holds the commands: one indexes a file of records, and two prepare a service. Whatever a
command makes on the disk stays there, also when it fails later.
-/

namespace CodeGraph

/-- What a command finds when it begins. -/
structure Surroundings where
  environment : Config.Environment
  vocabulary : Vocabulary
  now : String
  /-- The name under which the command claims locks. -/
  claimant : String

/-- How a command ends: its exit code, what it prints, and the service that it prepared. -/
structure CommandResult where
  exit : Nat
  output : Option Value
  service : Option Service

namespace CommandResult

def failed : CommandResult := ⟨1, none, none⟩

/-- A command that stops early prints no result. -/
def ofStop : EarlyStop → CommandResult
  | .helpWanted => ⟨0, none, none⟩
  | .misuse => ⟨2, none, none⟩

def printing (output : Value) : CommandResult := ⟨0, some output, none⟩

def serving (service : Service) : CommandResult := ⟨0, none, some service⟩

/-- Only a defect ends a command without an exit code. -/
def ofOutcome (outcome : Outcome CommandResult) : Outcome CommandResult :=
  match outcome with
  | .ok result => .ok result
  | .error (.defect cause) => crash cause
  | .error _ => .ok failed

end CommandResult

/-- The settings of a configuration that flags replace. -/
def Config.override (config : Config) (flags : Flags) : Config :=
  { config with
    storagePath := flags.storage.getD config.storagePath
    host := flags.host.getD config.host
    port := flags.port.getD config.port
    inMemory := flags.inMemory || config.inMemory }

/-- The memory of a command and the disk. -/
abbrev Shelf : Type := Option Snapshot × Disk

namespace Surroundings

def setting (surroundings : Surroundings) : Setting :=
  ⟨surroundings.vocabulary, surroundings.now, Setting.defaultBatchSize⟩

/-- A lost value is a list without members, which is no path. -/
def noPath : Defect := .notPath (Value.list []).typeName

/-- The storage in a file. -/
def fileStorage (surroundings : Surroundings) (path : String) : Storage Shelf :=
  (Storage.file surroundings.vocabulary surroundings.now
    ⟨path, surroundings.claimant⟩).onSecond

/-- The configuration of the environment with the given flags. -/
def config (surroundings : Surroundings) (flags : Flags) : Outcome Config :=
  (Config.ofEnvironment surroundings.environment).map fun config => config.override flags

/-- The directory in front of a path is made. One that cannot be made is a defect. -/
def makeDirectory (path : String) (disk : Disk) : Outcome Unit × Disk :=
  let directory := String.ofList (FilePath.directory path.toList)
  if directory == "" then (.ok (), disk)
  else
    match disk.makeDirectories directory with
    | (.ok (), made) => (.ok (), made)
    | (.error fault, left) => (crash (.disk fault), left)

/-- The storage that a configuration asks for. The directory of a file is made first. -/
def openStorage (surroundings : Surroundings) (config : Config) (disk : Disk) :
    Outcome (Storage Shelf) × Disk :=
  if config.inMemory then (.ok Storage.memory.onFirst, disk)
  else
    match config.storagePath with
    | none => (crash noPath, disk)
    | some path =>
        match makeDirectory path disk with
        | (.error fault, left) => (.error fault, left)
        | (.ok (), made) => (.ok (surroundings.fileStorage path), made)

/-- A command before it loads anything. -/
structure Start where
  config : Config
  storage : Storage Shelf
  managed : Managed Shelf

/-- What follows on the start of a command. -/
def afterStart (surroundings : Surroundings) (flags : Flags) (disk : Disk)
    (next : Start → Outcome CommandResult × Disk) : Outcome CommandResult × Disk :=
  match surroundings.config flags with
  | .error fault => (CommandResult.ofOutcome (.error fault), disk)
  | .ok config =>
      match surroundings.openStorage config disk with
      | (.error fault, left) => (CommandResult.ofOutcome (.error fault), left)
      | (.ok storage, ready) =>
          let finished := next ⟨config, storage, ⟨Manager.initial, (none, ready)⟩⟩
          (CommandResult.ofOutcome finished.1, finished.2)

/-- The records of the file that a flag names. -/
def feedOf (path : Option String) (disk : Disk) : Feed :=
  match path with
  | some path => Feed.ofFile disk path
  | none => Feed.failing (.defect noPath)

/-- The records of a file are indexed. -/
def indexFile (surroundings : Surroundings) (start : Start) (path : Option String)
    (managed : Managed Shelf) : Outcome Snapshot × Managed Shelf :=
  managed.index surroundings.setting start.storage (feedOf path managed.state.2)

/-- The figures of a new snapshot and the place where it is kept. -/
def summary (storageName : String) (snapshot : Snapshot) : Outcome CommandResult :=
  (Overview.measure snapshot).map fun overview =>
    CommandResult.printing (.object (overview.fields ++ [("storage", .text storageName)]))

/-- A stored snapshot that cannot be read does not keep a file from being indexed. -/
def indexInto (surroundings : Surroundings) (path : Option String) (start : Start) :
    Outcome CommandResult × Disk :=
  let loaded := start.managed.load start.storage
  match loaded.1 with
  | .error fault => if fault.isStorage then finish loaded.2 else (.error fault, loaded.2.state.2)
  | .ok _ => finish loaded.2
where
  finish (managed : Managed Shelf) : Outcome CommandResult × Disk :=
    let indexed := surroundings.indexFile start path managed
    (indexed.1.bind (summary start.storage.name), indexed.2.state.2)

/-- The flags of the command that indexes a file. -/
def indexFlags : List Flag := [.input, .storage, .inMemory, .verbose]

/-- This indexes the file that is named by a flag. -/
def runIndex (surroundings : Surroundings) (arguments : List String) (disk : Disk) :
    Outcome CommandResult × Disk :=
  match Flags.parse indexFlags arguments with
  | .error stop => (.ok (CommandResult.ofStop stop), disk)
  | .ok flags =>
      match flags.input with
      | none => (.ok (CommandResult.ofStop .misuse), disk)
      | some path => surroundings.afterStart flags disk (surroundings.indexInto path)

/-- The path of a flag, unless it is empty or lost. -/
def pathOf? (input : Option (Option String)) : Option String :=
  match input with
  | some (some path) => if path = "" then none else some path
  | _ => none

/-- The stored snapshot is served, or the one of a file if one is named. -/
def serveFrom (surroundings : Surroundings) (input : Option String) (start : Start) :
    Outcome CommandResult × Disk :=
  let loaded := start.managed.load start.storage
  match loaded.1 with
  | .error fault => (.error fault, loaded.2.state.2)
  | .ok _ =>
      match input with
      | none => (.ok (serve loaded.2), loaded.2.state.2)
      | some path =>
          let indexed := surroundings.indexFile start (some path) loaded.2
          (indexed.1.map fun _ => serve indexed.2, indexed.2.state.2)
where
  serve (managed : Managed Shelf) : CommandResult :=
    CommandResult.serving
      ⟨surroundings.vocabulary, start.config, start.storage.name, managed.manager⟩

/-- The flags of the command that serves over addresses. -/
def serverFlags : List Flag := [
  .host, .port, .storage, .inMemory, .input, .disableCors, .verbose]

/-- This prepares the service of a server. -/
def runServer (surroundings : Surroundings) (arguments : List String) (disk : Disk) :
    Outcome CommandResult × Disk :=
  match Flags.parse serverFlags arguments with
  | .error stop => (.ok (CommandResult.ofStop stop), disk)
  | .ok flags =>
      surroundings.afterStart flags disk (surroundings.serveFrom (pathOf? flags.input))

/-- The flags of the command that serves tools. -/
def toolFlags : List Flag := [.storage, .verbose]

/-- This prepares the service of the tools. -/
def runTools (surroundings : Surroundings) (arguments : List String) (disk : Disk) :
    Outcome CommandResult × Disk :=
  match Flags.parse toolFlags arguments with
  | .error stop => (.ok (CommandResult.ofStop stop), disk)
  | .ok flags => surroundings.afterStart flags disk (surroundings.serveFrom none)

end Surroundings

end CodeGraph

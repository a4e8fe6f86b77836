import CodeGraph.Interface.Command
import CodeGraph.Interface.Http
import CodeGraph.Interface.Tool
import Std.Time.Format

/-!
This file is the program. A command works on a copy of the files that it may touch, and what it
changed is written back. A prepared service answers requests from standard input, one on each line.
-/

namespace CodeGraph.Console

/-- The time as snapshots note it. -/
def timestamp : IO String := do
  let now ← Std.Time.Timestamp.now
  let time := Std.Time.DateTime.ofTimestamp now Std.Time.TimeZone.ZoneRules.UTC
  return time.format "uuuu-MM-dd'T'HH:mm:ss.SSSSSS" ++ "+00:00"

def environment : IO Config.Environment := do
  let values ← Config.variableNames.mapM fun name => return (name, ← IO.getEnv name)
  return values.filterMap fun entry => entry.2.map fun value => (entry.1, value)

/-- What stands at a place of the real disk. -/
def nodeAt (place : List String) : IO (Option DiskNode) := do
  let path := (← IO.currentDir) / Disk.label place
  if !(← path.pathExists) then return none
  let now := (← Std.Time.Timestamp.now).toSecondsSinceUnixEpoch.val
  let age := now - (← path.metadata).modified.sec
  if ← path.isDir then return some (.directory age)
  return some (.file (← IO.FS.readBinFile path) age)

/-- The place that a component leads on to. -/
def nextPlace (place : List String) (component : String) : List String :=
  if Disk.staysInside component then place
  else if component == Disk.stepUp then Disk.above place
  else place ++ [component]

/-- The places along the components of a path. -/
def placesAlong (place : List String) : List String → List (List String)
  | [] => []
  | component :: rest =>
      let next := nextPlace place component
      next :: placesAlong next rest

/-- The places of a path and of all directories in front of it. -/
def placesOf (path : String) : List (List String) :=
  match Disk.checkPath path with
  | .ok () => placesAlong (Disk.origin path) (Disk.components path)
  | .error _ => []

/-- The places that a command with these settings may touch. -/
def relevantPlaces (config : Config) (flags : Flags) : List (List String) :=
  let storage := config.storagePath.getD ""
  let input := (flags.input.bind id).getD ""
  Order.distinct ([storage, storage ++ ".lock", storage ++ ".tmp", input].flatMap placesOf)

/-- A copy of some places of the real disk. -/
def copyOf (places : List (List String)) : IO Disk := do
  let distance := (← IO.currentDir).toString.utf8ByteSize + 1
  let entries ← places.mapM fun place => return (Disk.label place, ← nodeAt place)
  return ⟨entries.filterMap fun entry => entry.2.map fun node => (entry.1, node), distance⟩

/-- A file is written beside its place first. -/
def writeNode (path : String) : DiskNode → IO Unit
  | .directory _ => IO.FS.createDirAll path
  | .file content _ => do
      IO.FS.writeBinFile (path ++ ".new") content
      IO.FS.rename (path ++ ".new") path

/-- The shorter paths come first, so that a directory is made before what stands in it. -/
def nearerFirst (first second : String × DiskNode) : Bool :=
  decide (first.1.length < second.1.length)

/-- What differs from the copy is written back. -/
def writeBack (before after : Disk) : IO Unit := do
  for entry in Order.sort nearerFirst after.nodes do
    unless (before.filed? entry.1).any entry.2.holdsSame do writeNode entry.1 entry.2
  for entry in before.nodes do
    if (after.filed? entry.1).isNone then IO.FS.removeFile entry.1

/-- The answer to a request that names a path and parameters. -/
def answerAddress (service : Service) (request : Value) : Value :=
  let path := ((request.field? "path").getD .null).shown
  let parameters :=
    match request.field? "params" with
    | some (.object fields) => fields.map fun field => (field.1, field.2.shown)
    | _ => []
  match Http.respond? service path parameters with
  | some response => .object [
      ("status", .int response.status), ("body", response.body.getD .null)]
  | none => .object [("status", .int 404), ("body", .null)]

/-- The answer to a request that names a tool and arguments. -/
def answerTool (service : Service) (request : Value) : Value :=
  let name := ((request.field? "name").getD .null).shown
  let arguments :=
    match request.field? "arguments" with
    | some (.object fields) => fields
    | _ => []
  let result := ToolResult.ofName service name arguments
  .object [("isError", .bool result.isError), ("text", .text (String.ofList result.text))]

/-- Requests are answered until the input ends. -/
partial def serve (answer : Value → Value) : IO Unit := do
  let line ← (← IO.getStdin).getLine
  if line.isEmpty then return ()
  match Json.read line.toList with
  | .ok request => IO.println (String.ofList (answer request).lineText)
  | .error _ => IO.eprintln "The request is not a document"
  serve answer

/-- A way to run a command on a disk. -/
abbrev Runner : Type :=
  Surroundings → List String → Disk → Outcome CommandResult × Disk

/-- The places that the arguments of a command lead to. -/
def placesFor (surroundings : Surroundings) (known : List Flag) (arguments : List String) :
    List (List String) :=
  match Flags.parse known arguments with
  | .error _ => []
  | .ok flags =>
      match surroundings.config flags with
      | .error _ => []
      | .ok config => (relevantPlaces config flags).filter fun place => !Disk.isStanding place

/-- A command is run, and its service answers requests if it has one. -/
def runCommand (runner : Runner) (known : List Flag) (answer : Service → Value → Value)
    (arguments : List String) : IO UInt32 := do
  let surroundings : Surroundings :=
    ⟨← environment, Vocabulary.initial, ← timestamp, "claim"⟩
  let before ← copyOf (placesFor surroundings known arguments)
  let finished := runner surroundings arguments before
  writeBack before finished.2
  match finished.1 with
  | .error fault =>
      IO.eprintln fault.message
      return 1
  | .ok result =>
      match result.output with
      | some output => IO.println (String.ofList output.indentedText)
      | none => pure ()
      match result.service with
      | some service => serve (answer service)
      | none => pure ()
      return result.exit.toUInt32

/-- The first argument names the command. -/
def run : List String → IO UInt32
  | "index" :: arguments =>
      runCommand Surroundings.runIndex Surroundings.indexFlags (fun _ request => request) arguments
  | "server" :: arguments =>
      runCommand Surroundings.runServer Surroundings.serverFlags answerAddress arguments
  | "tools" :: arguments =>
      runCommand Surroundings.runTools Surroundings.toolFlags answerTool arguments
  | _ => do
      IO.eprintln "The first argument must be index, server or tools"
      return 2

end CodeGraph.Console

def main (arguments : List String) : IO UInt32 := CodeGraph.Console.run arguments

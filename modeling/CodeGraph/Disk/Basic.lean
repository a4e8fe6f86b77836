import CodeGraph.Fault
import CodeGraph.FilePath
import CodeGraph.Order
import CodeGraph.Text.Split

/-!
This file holds the files and directories that a program sees. A path leads from the working
directory, or from the root, through directories only, and a step up leads back to the directory
before.
-/

namespace CodeGraph

/-- What stands at a path, and how many seconds ago it was changed. -/
inductive DiskNode where
  | directory (age : Int)
  | file (content : ByteArray) (age : Int)

namespace DiskNode

def age : DiskNode → Int
  | .directory age => age
  | .file _ age => age

def isDirectory : DiskNode → Bool
  | .directory _ => true
  | .file _ _ => false

/-- Two nodes hold the same, whatever their ages are. -/
def holdsSame : DiskNode → DiskNode → Bool
  | .directory _, .directory _ => true
  | .file first _, .file second _ => decide (first.toList = second.toList)
  | _, _ => false

end DiskNode

/-- Each place has at most one node, which is filed under the label of the place. A place is given
by its components. Outside of the working directory it begins with steps up or with the root. -/
structure Disk where
  nodes : List (String × DiskNode)
  /-- The number of bytes in front of a path from the working directory once it is written from the
  root on. -/
  distance : Nat

namespace Disk

/-- A disk without files, with the working directory so far from the root. -/
def empty (distance : Nat) : Disk := ⟨[], distance⟩

instance : Inhabited Disk := ⟨empty 0⟩

/-- The component that stands for the root. -/
def root : String := "/"

/-- The component that stands for a step up. -/
def stepUp : String := ".."

/-- The working directory and those above it are always there, and so is the root. -/
def isStanding (place : List String) : Bool :=
  place.all (· == stepUp) || place == [root]

/-- The label of a place: its components with slashes between them. -/
def label (place : List String) : String := "/".intercalate place

/-- The node that is filed under a label. -/
def filed? (disk : Disk) (label : String) : Option DiskNode :=
  (disk.nodes.find? fun entry => decide (entry.1 = label)).map Prod.snd

/-- The nodes that are not filed under a label. -/
def others (disk : Disk) (label : String) : List (String × DiskNode) :=
  disk.nodes.filter fun entry => !decide (entry.1 = label)

/-- The node at a place. -/
def node? (disk : Disk) (place : List String) : Option DiskNode :=
  if isStanding place then some (.directory 0) else disk.filed? (label place)

def erase (disk : Disk) (place : List String) : Disk :=
  { disk with nodes := disk.others (label place) }

def set (disk : Disk) (place : List String) (node : DiskNode) : Disk :=
  { disk with nodes := (label place, node) :: disk.others (label place) }

def isDirectory (disk : Disk) (place : List String) : Bool :=
  match disk.node? place with
  | some node => node.isDirectory
  | none => false

/-- The directory in which a directory stands. Nothing stands above the root. -/
def above (place : List String) : List String :=
  if place.all (· == stepUp) then place ++ [stepUp]
  else if place == [root] then place
  else place.dropLast

/-- A name has at most so many bytes. -/
def nameLimit : Nat := 255

/-- A path has at most so many bytes. -/
def pathLimit : Nat := 4095

/-- The place of a name in a directory. -/
def named (place : List String) (name : String) : Except DiskFault (List String) :=
  if nameLimit < name.utf8ByteSize then .error .nameTooLong else .ok (place ++ [name])

/-- The component leads on from a directory but names nothing in it. -/
def staysInside (component : String) : Bool := component == "" || component == "."

/-- One component leads on from a directory. -/
def enter (disk : Disk) (place : List String) (component : String) :
    Except DiskFault (List String) :=
  match disk.node? place with
  | none => .error .missing
  | some (.file _ _) => .error .notDirectory
  | some (.directory _) =>
      if staysInside component then .ok place
      else if component == stepUp then .ok (above place)
      else named place component

/-- The components lead on from a place. -/
def follow (disk : Disk) (place : List String) : List String → Except DiskFault (List String)
  | [] => .ok place
  | component :: rest => (disk.enter place component).bind fun next => disk.follow next rest

/-- The components of a path. -/
def components (path : String) : List String :=
  (Text.split '/' path.toList).map String.ofList

/-- The place at which a path begins. -/
def origin (path : String) : List String :=
  if FilePath.startsAtRoot path.toList then [root] else []

/-- A text that can be looked up as a path. -/
def checkPath (path : String) : Except DiskFault Unit :=
  if path.toList.contains '\x00' then .error .nullCharacter
  else if path == "" then .error .missing
  else if pathLimit < path.utf8ByteSize then .error .nameTooLong
  else .ok ()

/-- The place to which a path leads, whether something stands there or not. -/
def resolve (disk : Disk) (path : String) : Except DiskFault (List String) :=
  (checkPath path).bind fun _ => disk.follow (origin path) (components path)

def find? (disk : Disk) (path : String) : Option DiskNode :=
  match disk.resolve path with
  | .ok place => disk.node? place
  | .error _ => none

def contains (disk : Disk) (path : String) : Bool := (disk.find? path).isSome

/-- The bytes of a file. -/
def read (disk : Disk) (path : String) : Except DiskFault ByteArray := do
  let place ← disk.resolve path
  match disk.node? place with
  | some (.file content _) => .ok content
  | some (.directory _) => .error .isDirectory
  | none => .error .missing

/-- A file is made or gets a new content. Its age begins at zero. -/
def write (disk : Disk) (path : String) (content : ByteArray) : Except DiskFault Disk := do
  let place ← disk.resolve path
  if disk.isDirectory place then .error .isDirectory
  else .ok (disk.set place (.file content 0))

/-- A node gets another age. -/
def setAge (disk : Disk) (path : String) (age : Int) : Disk :=
  match disk.resolve path with
  | .error _ => disk
  | .ok place =>
      match disk.node? place with
      | some (.file content _) => disk.set place (.file content age)
      | some (.directory _) => disk.set place (.directory age)
      | none => disk

/-- Only a file can be removed. -/
def remove (disk : Disk) (path : String) : Except DiskFault Disk := do
  let place ← disk.resolve path
  match disk.node? place with
  | some (.file _ _) => .ok (disk.erase place)
  | some (.directory _) => .error .isDirectory
  | none => .error .missing

/-- The disk without a file; what cannot be removed stays. -/
def discard (disk : Disk) (path : String) : Disk :=
  match disk.remove path with
  | .ok rest => rest
  | .error _ => disk

/-- A second name for a file, which nothing may bear yet. -/
def link (disk : Disk) (path name : String) : Except DiskFault Disk := do
  let origin ← disk.resolve path
  let place ← disk.resolve name
  match disk.node? origin with
  | some (.file content age) =>
      if (disk.node? place).isSome then .error .occupied
      else .ok (disk.set place (.file content age))
  | some (.directory _) => .error .isDirectory
  | none => .error .missing

/-- A file takes the place of whatever file bears a name. -/
def replace (disk : Disk) (path name : String) : Except DiskFault Disk := do
  let origin ← disk.resolve path
  let place ← disk.resolve name
  match disk.node? origin with
  | some (.file content age) =>
      if disk.isDirectory place then .error .isDirectory
      else .ok ((disk.erase origin).set place (.file content age))
  | some (.directory _) => .error .isDirectory
  | none => .error .missing

/-- What comes of making directories: it may fail, and even then the directories that were made stay
on the disk. -/
abbrev Making : Type := Except DiskFault Unit × Disk

/-- The directories along the components are made unless they are there; `made` tells whether one
was made already. A file at the end is in the way, and no other file can be entered. Behind a
directory that was just made a file was not to be seen, so a dot at the end is taken for a
directory. -/
def makeAlong (disk : Disk) (made : Bool) (place : List String) : List String → Making
  | [] => (.ok (), disk)
  | component :: rest =>
      match disk.enter place component with
      | .error fault => (.error fault, disk)
      | .ok next =>
          match disk.node? next with
          | some (.directory _) => disk.makeAlong made next rest
          | some (.file _ _) =>
              if rest.all (· == "") then (.error .occupied, disk)
              else if made && rest.all staysInside then (.ok (), disk)
              else (.error .notDirectory, disk)
          | none => (disk.set next (.directory 0)).makeAlong true next rest

/-- The reason why a path cannot be looked up once a component joins it, if there is one; `size` is
the number of bytes in front of the component. -/
def componentFault? (size : Nat) (component : String) : Option DiskFault :=
  if component.toList.contains '\x00' then some .nullCharacter
  else if pathLimit < size + component.utf8ByteSize then some .nameTooLong
  else none

/-- The components of a path up to the first one that makes it unfit to be looked up, and the reason
why it does. -/
def fitStart (size : Nat) : List String → List String × Option DiskFault
  | [] => ([], none)
  | component :: rest =>
      match componentFault? size component with
      | some fault => ([], some fault)
      | none =>
          let start := fitStart (size + component.utf8ByteSize + 1) rest
          (component :: start.1, start.2)

/-- The components of a path from the first one on at which nothing stands. -/
def missingFrom (disk : Disk) (place : List String) : List String → List String
  | [] => []
  | component :: rest =>
      match disk.enter place component with
      | .error _ => component :: rest
      | .ok next =>
          if (disk.node? next).isSome then disk.missingFrom next rest else component :: rest

/-- At most so many directories in a row are made. -/
def makingLimit : Nat := 985

/-- More directories in a row are missing than can be made. -/
def isTooDeep (disk : Disk) (path : String) : Bool :=
  let missing := disk.missingFrom (origin path) (components path)
  makingLimit < (missing.filter fun component => component != "").length

/-- A directory is made together with those in front of it. What makes the path unfit is met only
once those are made. So many bytes stand in front of the path. -/
def makeBehind (disk : Disk) (size : Nat) (path : String) : Making :=
  if path == "" then (.error .missing, disk)
  else if disk.isTooDeep path then (.error .tooDeep, disk)
  else
    let start := fitStart size (components path)
    match disk.makeAlong false (origin path) start.1, start.2 with
    | making, none => making
    | (.ok (), left), some fault => (.error fault, left)
    | (.error .occupied, left), some fault => (.error fault, left)
    | failed, some _ => failed

/-- A directory is made with its path as it stands. -/
def makeDirectories (disk : Disk) (path : String) : Making := disk.makeBehind 0 path

/-- The directory of a path in which detours are left out, whatever stands on the disk. -/
def foldedDirectory (path : String) : String :=
  let folded := (FilePath.foldComponents (Text.split '/' path.toList)).dropLast
  let joined (components : List (List Char)) : String := String.ofList (Text.join ['/'] components)
  if FilePath.startsAtRoot path.toList then
    root ++ joined (folded.dropWhile (· == stepUp.toList))
  else if folded.isEmpty then "."
  else joined folded

/-- The directory of a path is made, with the path written from the root on and without detours. -/
def makeFoldedDirectory (disk : Disk) (path : String) : Making :=
  let size := if FilePath.startsAtRoot path.toList then 0 else disk.distance
  disk.makeBehind size (foldedDirectory path)

/-- The label is that of a place in the working directory. -/
def isInside (label : String) : Bool :=
  match components label with
  | [] => true
  | first :: _ => first != stepUp && first != ""

/-- The paths of all files of the working directory in order. -/
def files (disk : Disk) : List String :=
  Order.sort (fun first second => decide (first < second))
    ((disk.nodes.filter fun entry => isInside entry.1 && !entry.2.isDirectory).map Prod.fst)

end Disk

end CodeGraph

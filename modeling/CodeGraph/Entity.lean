import CodeGraph.Address
import CodeGraph.Metadata

/-!
This file holds the entities: the constructs of source code that a snapshot describes.
-/

namespace CodeGraph

/-- Records give an entity a path in normal form. Stored data are taken over as they are, so the
path may be any value. -/
structure Entity where
  address : Address
  filePath : Value
  metadata : Metadata

namespace Entity

/-- The key of an entity. -/
def key (entity : Entity) : String := entity.address.text

def isExternal (entity : Entity) : Bool := entity.address.isExternal

def firstLine (entity : Entity) : Nat := entity.address.location.firstLine

def lastLine (entity : Entity) : Nat := entity.address.location.lastLine

/-- An external entity has no lines. -/
def lineCount (entity : Entity) : Nat :=
  if entity.isExternal then 0 else entity.lastLine - entity.firstLine + 1

/-- An entity outside the source tree. -/
def createExternal (vocabulary : Vocabulary) (language kind name metadata : Value) :
    Outcome Entity := do
  let address ← Address.forExternal vocabulary language kind name
  let metadata ← Metadata.ofOptional metadata
  return ⟨address, .text FilePath.unknown, metadata⟩

/-- An empty entity for an address outside the source tree. -/
def sentinel (address : Address) : Entity := ⟨address, .text FilePath.unknown, Metadata.empty⟩

/-- Only an external address has a sentinel. -/
def sentinelFor (address : Address) : Outcome Entity :=
  if address.isExternal then .ok (sentinel address) else refuse (.notExternal address.text)

/-- A missing path and the reserved one mean a place outside the source tree. -/
def meansExternal : Value → Bool
  | .null => true
  | .text path => path == FilePath.unknown
  | _ => false

/-- The range of an external entity is empty. -/
def isEmptyRange (bounds : List Value) : Bool := Value.itemsAgree bounds [.int 0, .int 0]

/-- The two bounds of a range. -/
def bounds (lineRange : Value) : Outcome (Value × Value) := do
  match ← lineRange.items with
  | [first, last] => return (first, last)
  | _ => crash (.wrongCount 2)

/-- An entity from the values that an extractor gives. A missing line range counts as lines zero
to zero. -/
def create (vocabulary : Vocabulary) (language kind name filePath lineRange metadata : Value) :
    Outcome Entity := do
  if meansExternal filePath then
    match lineRange with
    | .null => createExternal vocabulary language kind name metadata
    | range =>
        if isEmptyRange (← range.items) then
          createExternal vocabulary language kind name metadata
        else name.whenShown (refuse (.externalRange name.shown))
  else
    let (first, last) ←
      match lineRange with
      | .null => pure (.int 0, .int 0)
      | range => bounds range
    let address ← Address.forSource vocabulary language kind name filePath first last
    let path ← FilePath.normalize filePath
    let metadata ← Metadata.ofOptional metadata
    return ⟨address, .text path, metadata⟩

/-- Two entities of one key agree when their paths and their metadata do. -/
def agrees (first second : Entity) : Bool :=
  decide (first.address = second.address) && first.filePath.agrees second.filePath &&
    first.metadata.agrees second.metadata

/-- The tokens of one line. -/
def tokensPerLine : Nat := 10

/-- The tokens that each entry takes beside its content. -/
def entryOverhead : Nat := 2

/-- The tokens that the lines of an entity take. -/
def lineTokens (entity : Entity) : Nat := max 1 entity.lineCount * tokensPerLine

/-- A finite number that is not negative is an estimate; its fraction is dropped. -/
def estimateOf? : Value → Option Nat
  | .int value => if 0 ≤ value then some value.toNat else none
  | .float (.finite negative units) =>
      if negative && units != 0 then none else some (units / Binary64.unitsPerOne)
  | _ => none

/-- The tokens that an entity takes in a context. The estimate of the extractor wins over the
number of lines. -/
def cost (entity : Entity) : Nat :=
  (((entity.metadata.find? "token_estimate").bind estimateOf?).getD entity.lineTokens) +
    entryOverhead

/-- The entity as an object of a document. -/
def fields (entity : Entity) : List (String × Value) := [
  ("key", .text entity.key),
  ("language", .text entity.address.language.name),
  ("entity_type", .text entity.address.kind.name),
  ("name", .text entity.address.name),
  ("file_path", entity.filePath),
  ("line_range", .list [.int entity.firstLine, .int entity.lastLine]),
  ("is_external", .bool entity.isExternal),
  ("metadata", entity.metadata.toValue)]

def toValue (entity : Entity) : Value := .object entity.fields

end Entity

end CodeGraph

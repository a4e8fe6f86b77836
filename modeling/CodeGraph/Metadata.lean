import CodeGraph.Coercion
import CodeGraph.Json.Canonical
import CodeGraph.NameOrder

/-!
This file holds what an extractor adds to an entity. The names of the entries are atoms, since
entries may also be given as pairs.
-/

namespace CodeGraph

/-- The entries stand in the order of their first appearance, and no two names agree. -/
structure Metadata where
  entries : List (Atom × Value)
  deriving Inhabited

namespace Metadata

def empty : Metadata := ⟨[]⟩

/-- The value of the entry whose name agrees. -/
def lookupEntry (name : Atom) : List (Atom × Value) → Option Value
  | [] => none
  | (other, value) :: rest => if other.agrees name then some value else lookupEntry name rest

/-- The value of an entry with a text for its name. -/
def find? (metadata : Metadata) (name : String) : Option Value :=
  lookupEntry (.text name) metadata.entries

/-- A later value takes the place of the earlier one, and the earlier name stays. -/
def setEntry (name : Atom) (value : Value) : List (Atom × Value) → List (Atom × Value)
  | [] => [(name, value)]
  | (other, old) :: rest =>
      if other.agrees name then (other, value) :: rest
      else (other, old) :: setEntry name value rest

/-- The entry that the item at a position gives. -/
def pairOf (position : Nat) (item : Value) : Outcome (Atom × Value) :=
  match item.items? with
  | none => crash (.notPair position)
  | some [name, value] => name.toAtom.map fun atom => (atom, value)
  | some parts => crash (.badPair position parts.length)

/-- The entries that the items from a position on give. -/
def ofItems (position : Nat) (entries : List (Atom × Value)) :
    List Value → Outcome (List (Atom × Value))
  | [] => .ok entries
  | item :: rest =>
      match pairOf position item with
      | .error fault => .error fault
      | .ok (name, value) => ofItems (position + 1) (setEntry name value entries) rest

/-- The fields of an object, or the pairs that another value holds. -/
def ofValue (value : Value) : Outcome Metadata :=
  match value with
  | .object fields => .ok ⟨fields.map fun field => (.text field.1, field.2)⟩
  | other => other.items.bind fun items => (ofItems 0 [] items).map Metadata.mk

/-- A value that counts as false stands for no entries. -/
def ofOptional (value : Value) : Outcome Metadata :=
  if value.isTruthy then ofValue value else .ok empty

/-- Each entry of the first has an agreeing entry in the second. -/
def entriesAgree (first second : List (Atom × Value)) : Bool :=
  first.all fun entry =>
    match lookupEntry entry.1 second with
    | some value => entry.2.agrees value
    | none => false

/-- Metadata agree when they have the same number of entries and the entries agree. -/
def agrees (first second : Metadata) : Bool :=
  first.entries.length == second.entries.length && entriesAgree first.entries second.entries

/-- The metadata as an object of a document. -/
def toValue (metadata : Metadata) : Value :=
  .object (metadata.entries.map fun entry => (entry.1.fieldName, entry.2))

/-- The names of the entries. -/
def names (metadata : Metadata) : List Atom := metadata.entries.map Prod.fst

/-- The metadata of a commit nest at most so deep. The limit is the one of calls within calls, less
those that lead to the text of the metadata. It has nothing to do with what is read later on. -/
def nestingLimit : Nat := 991

/-- The reason why the metadata have no text, if there is one. -/
def writeDefect? (metadata : Metadata) : Option Defect :=
  (metadata.names.findSome? fun name => name.toValue.writeDefect? 0).or
    (metadata.toValue.writeDefect? nestingLimit)

/-- The text of the metadata that identifies their content. -/
def canonicalText (metadata : Metadata) : Outcome (List Char) :=
  (NameOrder.sort metadata.entries).bind fun entries =>
    match metadata.writeDefect? with
    | some cause => crash cause
    | none =>
        .ok (Value.object (entries.map fun entry => (entry.1.fieldName, entry.2.sorted))).lineText

end Metadata

end CodeGraph

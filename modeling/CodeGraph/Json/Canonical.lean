import CodeGraph.Json.Writer
import CodeGraph.Order

/-!
This file holds the canonical text of documents, in which the fields of every object stand in the
order of their names.
-/

namespace CodeGraph.Value

/-- The first field has the smaller name. -/
def fieldPrecedes (first second : String × Value) : Bool := decide (first.1 < second.1)

mutual

/-- The value with the fields of each object in the order of their names. -/
def sorted : Value → Value
  | .list items => .list (sortedItems items)
  | .object fields => .object (sortedFields fields)
  | .null => .null
  | .bool value => .bool value
  | .int value => .int value
  | .float value => .float value
  | .text value => .text value
termination_by structural value => value

def sortedItems : List Value → List Value
  | [] => []
  | value :: rest => value.sorted :: sortedItems rest
termination_by structural items => items

def sortedFields : List (String × Value) → List (String × Value)
  | [] => []
  | (name, value) :: rest => Order.insert fieldPrecedes (name, value.sorted) (sortedFields rest)
termination_by structural fields => fields

end

/-- The text of a value with all fields in order. -/
def canonicalText (value : Value) : List Char := value.sorted.lineText

end CodeGraph.Value

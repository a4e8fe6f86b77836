import CodeGraph.Number.Decimal

/-!
This file holds the values of documents. Extractors may put any of them into a field, so the
library looks at a value only where it needs its content. All texts are texts that UTF-8 can encode;
a half of a surrogate pair is no character of them.
-/

namespace CodeGraph

/-- An object keeps its fields in the order of their first appearance, and names are distinct. -/
inductive Value where
  | null
  | bool (value : Bool)
  | int (value : Int)
  | float (value : Binary64)
  | text (value : String)
  | list (items : List Value)
  | object (fields : List (String × Value))
  deriving Inhabited

namespace Value

/-- The field of a name in a list of fields. -/
def lookup (name : String) : List (String × Value) → Option Value
  | [] => none
  | (other, value) :: rest => if other = name then some value else lookup name rest

/-- A later field of the same name takes the place of the earlier one. -/
def setField (name : String) (value : Value) : List (String × Value) → List (String × Value)
  | [] => [(name, value)]
  | (other, old) :: rest =>
      if other = name then (other, value) :: rest else (other, old) :: setField name value rest

/-- The field of an object; other values have no fields. -/
def field? (value : Value) (name : String) : Option Value :=
  match value with
  | .object fields => lookup name fields
  | _ => none

/-- Nothing, zero and whatever is empty count as false. -/
def isTruthy : Value → Bool
  | .null => false
  | .bool value => value
  | .int value => value != 0
  | .float value => !value.isZero
  | .text value => value != ""
  | .list items => !items.isEmpty
  | .object fields => !fields.isEmpty

/-- The name of the type of a value as messages give it. -/
def typeName : Value → String
  | .null => "NoneType"
  | .bool _ => "bool"
  | .int _ => "int"
  | .float _ => "float"
  | .text _ => "str"
  | .list _ => "list"
  | .object _ => "dict"

/-- Truth values count as the numbers one and zero. -/
def boolInt (value : Bool) : Int := if value then 1 else 0

mutual

/-- No number in the value is infinite or not a number. -/
def isFinite : Value → Bool
  | .float value => value.isFinite
  | .list items => itemsFinite items
  | .object fields => fieldsFinite fields
  | _ => true
termination_by structural value => value

def itemsFinite : List Value → Bool
  | [] => true
  | value :: rest => value.isFinite && itemsFinite rest
termination_by structural items => items

def fieldsFinite : List (String × Value) → Bool
  | [] => true
  | (_, value) :: rest => value.isFinite && fieldsFinite rest
termination_by structural fields => fields

end

end Value

/-- A value that may stand for itself as a name: it has no parts. -/
inductive Atom where
  | null
  | bool (value : Bool)
  | int (value : Int)
  | float (value : Binary64)
  | text (value : String)
  deriving DecidableEq, Inhabited

namespace Atom

def toValue : Atom → Value
  | .null => .null
  | .bool value => .bool value
  | .int value => .int value
  | .float value => .float value
  | .text value => .text value

/-- Lists and objects have parts. -/
def ofValue? : Value → Option Atom
  | .null => some .null
  | .bool value => some (.bool value)
  | .int value => some (.int value)
  | .float value => some (.float value)
  | .text value => some (.text value)
  | .list _ => none
  | .object _ => none

/-- Truth values count as numbers. -/
def isNumber : Atom → Bool
  | .bool _ | .int _ | .float _ => true
  | _ => false

/-- The numerical order of two numbers; a NaN has none. -/
def compareNumbers? : Atom → Atom → Option Ordering
  | .bool first, .bool second => some (compare (Value.boolInt first) (Value.boolInt second))
  | .bool first, .int second => some (compare (Value.boolInt first) second)
  | .bool first, .float second => (second.compareInt? (Value.boolInt first)).map Ordering.swap
  | .int first, .bool second => some (compare first (Value.boolInt second))
  | .int first, .int second => some (compare first second)
  | .int first, .float second => (second.compareInt? first).map Ordering.swap
  | .float first, .bool second => first.compareInt? (Value.boolInt second)
  | .float first, .int second => first.compareInt? second
  | .float first, .float second => first.compare? second
  | _, _ => none

/-- Numbers agree when they are numerically equal, whatever their type, and a NaN agrees with the
NaN of the same payload. -/
def agrees : Atom → Atom → Bool
  | .null, .null => true
  | .text first, .text second => first == second
  | .float (.nan first), .float (.nan second) => first == second
  | first, second => first.compareNumbers? second == some .eq

/-- Texts compare with texts and numbers with numbers. -/
def comparable : Atom → Atom → Bool
  | .text _, .text _ => true
  | .text _, _ => false
  | _, .text _ => false
  | .null, _ => false
  | _, .null => false
  | _, _ => true

/-- This order is meant for comparable atoms. -/
def lt : Atom → Atom → Bool
  | .text first, .text second => decide (first < second)
  | first, second => first.compareNumbers? second == some .lt

/-- The name of an object's field that an atom is written as. -/
def fieldName : Atom → String
  | .null => "null"
  | .bool value => if value then "true" else "false"
  | .int value => String.ofList (Decimal.integerDigits value)
  | .float value => String.ofList (NumberLayout.document.text value)
  | .text value => value

def typeName (atom : Atom) : String := atom.toValue.typeName

def isFinite (atom : Atom) : Bool := atom.toValue.isFinite

end Atom

namespace Value

/-- Two atoms of values agree as atoms do, and a value with parts agrees with no atom. -/
def atomsAgree (first second : Value) : Bool :=
  match Atom.ofValue? first, Atom.ofValue? second with
  | some left, some right => left.agrees right
  | _, _ => false

mutual

/-- Values agree when their parts do, in the order of a list and by name in an object. The depth of
the comparison has no limit. -/
def agrees : Value → Value → Bool
  | .list first, .list second => itemsAgree first second
  | .object first, .object second => first.length == second.length && fieldsAgree first second
  | first, second => atomsAgree first second
termination_by structural first => first

def itemsAgree : List Value → List Value → Bool
  | [], [] => true
  | first :: left, second :: right => first.agrees second && itemsAgree left right
  | _, _ => false
termination_by structural first => first

def fieldsAgree : List (String × Value) → List (String × Value) → Bool
  | [], _ => true
  | (name, value) :: rest, fields =>
      (match lookup name fields with
      | some other => value.agrees other
      | none => false) && fieldsAgree rest fields
termination_by structural first => first

end

end Value

end CodeGraph

import CodeGraph.Fault
import CodeGraph.Json.Shown
import CodeGraph.Number.Numeral

/-!
This file holds what a value gives where a whole number, a list of items, a field or a name is
needed. A value that cannot give it is a defect.
-/

namespace CodeGraph.Value

/-- The items over which a value can be walked: those of a list, the characters of a text and the
names of an object. -/
def items? : Value → Option (List Value)
  | .list items => some items
  | .text value => some (value.toList.map fun c => .text (String.ofList [c]))
  | .object fields => some (fields.map fun field => .text field.1)
  | _ => none

def items (value : Value) : Outcome (List Value) :=
  match value.items? with
  | some items => .ok items
  | none => crash (.notIterable value.typeName)

/-- A value with parts cannot stand for a name. -/
def toAtom (value : Value) : Outcome Atom :=
  match Atom.ofValue? value with
  | some atom => .ok atom
  | none => crash (.unhashable value.typeName)

/-- The fields of an object. -/
def toFields (value : Value) : Outcome (List (String × Value)) :=
  match value with
  | .object fields => .ok fields
  | other => crash (.fieldOfNonObject other.typeName)

/-- A whole number is taken from a number, dropping its fraction, or from a numeral. -/
def toInteger : Value → Outcome Int
  | .bool value => .ok (boolInt value)
  | .int value => .ok value
  | .float (.nan _) => crash .nanToInteger
  | .float (.infinite _) => crash .infinityToInteger
  | .float (.finite negative units) =>
      .ok (Binary64.signedUnits negative (units / Binary64.unitsPerOne))
  | .text value =>
      match Numeral.integer? value.toList with
      | some number => .ok number
      | none => crash (.badInteger (Value.text value).quoted)
  | other => crash (.notInteger other.typeName)

/-- The number that is nearest to a whole number must not be infinite. -/
def checkNearest : Binary64 → Outcome Binary64
  | .infinite _ => crash .integerTooLarge
  | number => .ok number

/-- A whole number of the range of double precision becomes the nearest number. -/
def intToBinary64 (value : Int) : Outcome Binary64 := checkNearest (Binary64.ofInt value)

/-- A number is taken as it is, or from a numeral. -/
def toBinary64 : Value → Outcome Binary64
  | .bool value => intToBinary64 (boolInt value)
  | .int value => intToBinary64 value
  | .float value => .ok value
  | .text value =>
      match Numeral.number? value.toList with
      | some number => .ok number
      | none => crash (.badNumber (Value.text value).quoted)
  | other => crash (.notNumber other.typeName)

/-- Numbers and truth values have a numerical order; a NaN is in no order to any number. -/
def compareNumbers (operator : String) (first second : Value) : Outcome (Option Ordering) :=
  match Atom.ofValue? first, Atom.ofValue? second with
  | some left, some right =>
      if left.isNumber && right.isNumber then .ok (left.compareNumbers? right)
      else crash (.incomparable operator first.typeName second.typeName)
  | _, _ => crash (.incomparable operator first.typeName second.typeName)

end CodeGraph.Value

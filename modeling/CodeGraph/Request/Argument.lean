import CodeGraph.Coercion
import CodeGraph.Text.Split

/-!
This file reads the arguments of requests. They come as values of documents or as texts of an
address line, so numbers may also be given by numerals.
-/

namespace CodeGraph.Argument

/-- A whole number above zero. -/
def positive? : Value → Option Nat
  | .int value => if 0 < value then some value.toNat else none
  | _ => none

/-- A text that is not blank, without the blanks around it. -/
def text? : Value → Option String
  | .text value =>
      let stripped := Text.strip value.toList
      if stripped.isEmpty then none else some (String.ofList stripped)
  | _ => none

/-- A numeral has at most this many digits. -/
def longestNumeral : Nat := 18

/-- The value of an ASCII numeral. -/
def numeral? (text : List Char) : Option Int :=
  let signed := Numeral.sign text
  if signed.2.all Numeral.isAsciiDigit ∧ signed.2 ≠ [] ∧ signed.2.length ≤ longestNumeral then
    some (Binary64.signedUnits signed.1 (Numeral.digitsValue signed.2))
  else none

/-- The whole number must be above zero. -/
def checkPositive (value : Int) (name : String) : Outcome Nat :=
  if 0 < value then .ok value.toNat
  else (Value.int value).whenShown (refuse (.positiveInteger name (Decimal.integerText value)))

/-- A whole number above zero, or its numeral. -/
def positive (value : Value) (name : String) : Outcome Nat :=
  match value with
  | .int value => checkPositive value name
  | .text value =>
      match numeral? (Text.strip value.toList) with
      | some number => checkPositive number name
      | none => refuse (.positiveInteger name ("'" ++ value ++ "'"))
  | other => other.whenShown (refuse (.positiveInteger name other.quoted))

/-- A number, or its numeral. Only a whole number that is too large is a defect. -/
def number (value : Value) (name : String) : Outcome Binary64 :=
  match value with
  | .bool _ => refuse (.number name value.quoted)
  | _ =>
      match value.toBinary64 with
      | .ok number => if number.isNaN then refuse (.number name value.quoted) else .ok number
      | .error (.defect .integerTooLarge) => crash .integerTooLarge
      | .error _ => value.whenShown (refuse (.number name value.quoted))

/-- A text that is not blank. -/
def text (value : Value) (name : String) : Outcome String :=
  match text? value with
  | some text => .ok text
  | none => refuse (.required name)

end CodeGraph.Argument

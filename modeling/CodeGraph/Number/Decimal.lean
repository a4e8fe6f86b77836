import CodeGraph.Number.Binary64

/-!
This file ties decimal numerals to numbers: a decimal is read by one rounding, and a number is
written with the fewest digits that read back as the same number.
-/

namespace CodeGraph

/-- The value is `digits * 10 ^ exponent`. -/
structure Decimal where
  digits : Nat
  exponent : Int
  deriving DecidableEq, Inhabited, Repr

namespace Decimal

/-- The digit of a value below ten. -/
def digitChar (value : Nat) : Char := Char.ofNat (48 + value)

/-- The digits of a whole number, the least significant one first. -/
def reversedDigits (n : Nat) : List Char :=
  if n < 10 then [digitChar n] else digitChar (n % 10) :: reversedDigits (n / 10)

/-- The shortest numeral of a whole number. -/
def naturalDigits (n : Nat) : List Char := (reversedDigits n).reverse

def digitCount (n : Nat) : Nat := (reversedDigits n).length

/-- A whole number of more digits than this is neither read nor written. -/
def digitLimit : Nat := 4300

/-- The numeral of a whole number keeps to the limit. -/
def isWritable (n : Int) : Bool := decide (n.natAbs < Nat.pow 10 digitLimit)

/-- The numeral of a whole number with a minus in front of a negative one. -/
def integerDigits (n : Int) : List Char :=
  if n < 0 then '-' :: naturalDigits n.natAbs else naturalDigits n.natAbs

def naturalText (n : Nat) : String := String.ofList (naturalDigits n)

def integerText (n : Int) : String := String.ofList (integerDigits n)

/-- A magnitude of at least `10 ^ largestPlace` is past every number. -/
def largestPlace : Int := 310

/-- A magnitude below `10 ^ smallestPlace` rounds to zero. -/
def smallestPlace : Int := -330

/-- A whole number of at least one is not below ten to this power. -/
def fewestPlaces (n : Nat) : Nat := 3 * (Binary64.bitLength n - 1) / 10

/-- A whole number is below ten to this power. -/
def mostPlaces (n : Nat) : Nat := Binary64.bitLength n / 3 + 1

/-- The decimal is rounded once. Far too large and far too small exponents are settled by bounds on
the number of places alone. -/
def toBinary64 (negative : Bool) (decimal : Decimal) : Binary64 :=
  if decimal.digits = 0 then .finite negative 0
  else if largestPlace < (fewestPlaces decimal.digits : Int) + decimal.exponent then
    .infinite negative
  else if (mostPlaces decimal.digits : Int) + decimal.exponent < smallestPlace then
    .finite negative 0
  else if 0 ≤ decimal.exponent then
    Binary64.ofQuotient negative (decimal.digits * Nat.pow 10 decimal.exponent.toNat) 1
  else
    Binary64.ofQuotient negative decimal.digits (Nat.pow 10 (-decimal.exponent).toNat)

/-- This many decimal places make every positive number a whole number above one. -/
def probePlaces : Nat := 400

/-- The least `place` such that the magnitude is below `10 ^ place`. -/
def placeOf (units : Nat) : Int :=
  (digitCount (units * Nat.pow 10 probePlaces / Binary64.unitsPerOne) : Int) - probePlaces

/-- The two neighbours of a magnitude among the decimals of the given exponent, the nearer one
first and the even one first where both are as near. -/
def neighbours (units : Nat) (exponent : Int) : List Decimal :=
  let numerator := units * Nat.pow 10 (-exponent).toNat
  let denominator := Binary64.unitsPerOne * Nat.pow 10 exponent.toNat
  let nearest := Binary64.roundQuotient numerator denominator
  let below := numerator / denominator
  [⟨nearest, exponent⟩, ⟨if nearest = below then below + 1 else below, exponent⟩]

/-- The magnitude is read back from the decimal. -/
def denotes (units : Nat) (decimal : Decimal) : Bool :=
  decimal.toBinary64 false == .finite false units

/-- Seventeen digits are always enough. -/
def enoughDigits : Nat := 17

/-- The nearest decimal of the given exponent that reads back as the magnitude. -/
def readBack? (units : Nat) (exponent : Int) : Option Decimal :=
  (neighbours units exponent).find? (denotes units)

/-- This removes the zeros at the end of the digits. -/
def trimZeros (digits : List Char) : List Char :=
  (digits.reverse.dropWhile (· == '0')).reverse

/-- The fewest digits that read back as the magnitude, the nearest of those. One digit is tried
first, then two digits and so on. -/
def shortest (units : Nat) : Decimal :=
  let place := placeOf units
  ((List.range enoughDigits).findSome? fun count =>
    readBack? units (place - (count + 1 : Nat))).getD ⟨0, 0⟩

end Decimal

/-- How the digits of a number are set out. -/
structure NumberLayout where
  /-- The decimal point stands at most this many places to the right of the first digit. -/
  longestWhole : Int
  /-- The decimal point stands at most this many places to the left of the first digit. -/
  longestLeadingZeros : Int
  /-- An exponent has at least this many digits. -/
  exponentWidth : Nat
  notANumber : String
  infinity : String

/-- Numbers from `0.0001` up to `10 ^ 16` are written without an exponent. -/
def NumberLayout.plain : NumberLayout where
  longestWhole := 16
  longestLeadingZeros := 3
  exponentWidth := 2
  notANumber := "nan"
  infinity := "inf"

/-- Documents name the numbers that have no digits in full. -/
def NumberLayout.document : NumberLayout :=
  { NumberLayout.plain with notANumber := "NaN", infinity := "Infinity" }

namespace NumberLayout

/-- Zeros fill the text up to the width. -/
def padded (width : Nat) (digits : List Char) : List Char :=
  List.replicate (width - digits.length) '0' ++ digits

/-- The exponent always has a sign. -/
def exponentText (layout : NumberLayout) (exponent : Int) : List Char :=
  (if exponent < 0 then '-' else '+') ::
    padded layout.exponentWidth (Decimal.naturalDigits exponent.natAbs)

/-- `place` counts the digits in front of the decimal point. -/
def digitsText (layout : NumberLayout) (digits : List Char) (place : Int) : List Char :=
  if place < -layout.longestLeadingZeros ∨ layout.longestWhole < place then
    let fraction := digits.drop 1
    digits.take 1 ++ (if fraction.isEmpty then [] else '.' :: fraction) ++
      'e' :: layout.exponentText (place - 1)
  else if place ≤ 0 then
    '0' :: '.' :: (List.replicate (-place).toNat '0' ++ digits)
  else
    let whole := digits.take place.toNat
    let fraction := digits.drop place.toNat
    whole ++ List.replicate (place.toNat - whole.length) '0' ++
      '.' :: (if fraction.isEmpty then ['0'] else fraction)

/-- The text of a magnitude. -/
def magnitudeText (layout : NumberLayout) (units : Nat) : List Char :=
  if units = 0 then ['0', '.', '0']
  else
    let decimal := Decimal.shortest units
    let digits := Decimal.naturalDigits decimal.digits
    layout.digitsText (Decimal.trimZeros digits) (digits.length + decimal.exponent)

/-- The text of a number. -/
def text (layout : NumberLayout) : Binary64 → List Char
  | .nan _ => layout.notANumber.toList
  | .infinite negative => (if negative then ['-'] else []) ++ layout.infinity.toList
  | .finite negative units => (if negative then ['-'] else []) ++ layout.magnitudeText units

end NumberLayout

end CodeGraph

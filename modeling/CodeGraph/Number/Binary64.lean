/-!
This file holds the numbers of double precision. Every finite one is a whole number of units of
`2 ^ (-1074)`, so each operation is exact integer arithmetic followed by one rounding.
-/

namespace CodeGraph

/-- The payload tells two numbers that are "not a number" apart when both are handed in by a
caller; a text always denotes payload zero. -/
inductive Binary64 where
  | nan (payload : Nat)
  | infinite (negative : Bool)
  | finite (negative : Bool) (units : Nat)
  deriving DecidableEq, Inhabited, Repr

namespace Binary64

/-- One unit is `1 / unitsPerOne`. -/
def unitsPerOne : Nat := Nat.pow 2 1074

/-- The first count of units that is past the largest finite number. -/
def overflowUnits : Nat := Nat.pow 2 2098

/-- A significand has this many binary digits. -/
def precision : Nat := 53

/-- The quotient goes to the nearest whole number, and a tie goes to the even one. -/
def roundQuotient (numerator denominator : Nat) : Nat :=
  let quotient := numerator / denominator
  let doubled := 2 * (numerator % denominator)
  if doubled < denominator then quotient
  else if denominator < doubled then quotient + 1
  else if quotient % 2 = 0 then quotient
  else quotient + 1

/-- The number of binary digits of a whole number. -/
def bitLength (n : Nat) : Nat := if n = 0 then 0 else n.log2 + 1

/-- This rounds `numerator / denominator` units to the nearest number, a tie to the even one. -/
def ofUnitsQuotient (negative : Bool) (numerator denominator : Nat) : Binary64 :=
  let excess := bitLength (numerator / denominator) - precision
  let units := roundQuotient numerator (denominator <<< excess) <<< excess
  if overflowUnits ≤ units then .infinite negative else .finite negative units

/-- This rounds `numerator / denominator` to the nearest number, a tie to the even one. -/
def ofQuotient (negative : Bool) (numerator denominator : Nat) : Binary64 :=
  ofUnitsQuotient negative (numerator * unitsPerOne) denominator

/-- The whole number is rounded like any other exact value. -/
def ofInt (value : Int) : Binary64 := ofQuotient (value < 0) value.natAbs 1

def zero : Binary64 := .finite false 0

def isNaN : Binary64 → Bool
  | .nan _ => true
  | _ => false

def isFinite : Binary64 → Bool
  | .finite _ _ => true
  | _ => false

def isZero : Binary64 → Bool
  | .finite _ 0 => true
  | _ => false

def isNegative : Binary64 → Bool
  | .nan _ => false
  | .infinite negative => negative
  | .finite negative _ => negative

def neg : Binary64 → Binary64
  | .nan payload => .nan payload
  | .infinite negative => .infinite !negative
  | .finite negative units => .finite (!negative) units

/-- The exact value of a finite number, counted in units. -/
def signedUnits (negative : Bool) (units : Nat) : Int :=
  if negative then -(units : Int) else (units : Int)

/-- A sum of opposite numbers is the positive zero. -/
def add : Binary64 → Binary64 → Binary64
  | .nan payload, _ => .nan payload
  | _, .nan payload => .nan payload
  | .infinite first, .infinite second => if first = second then .infinite first else .nan 0
  | .infinite first, _ => .infinite first
  | _, .infinite second => .infinite second
  | .finite first left, .finite second right =>
      let sum := signedUnits first left + signedUnits second right
      if sum = 0 then .finite (first && second) 0
      else ofUnitsQuotient (sum < 0) sum.natAbs 1

def sub (first second : Binary64) : Binary64 := first.add second.neg

def mul : Binary64 → Binary64 → Binary64
  | .nan payload, _ => .nan payload
  | _, .nan payload => .nan payload
  | .infinite first, .infinite second => .infinite (first != second)
  | .infinite first, .finite second units =>
      if units = 0 then .nan 0 else .infinite (first != second)
  | .finite first units, .infinite second =>
      if units = 0 then .nan 0 else .infinite (first != second)
  | .finite first left, .finite second right =>
      ofUnitsQuotient (first != second) (left * right) unitsPerOne

/-- The numerical order: both zeros are equal, and nothing compares with a NaN. -/
def compare? : Binary64 → Binary64 → Option Ordering
  | .nan _, _ => none
  | _, .nan _ => none
  | .infinite first, .infinite second =>
      some (if first = second then .eq else if first then .lt else .gt)
  | .infinite first, .finite _ _ => some (if first then .lt else .gt)
  | .finite _ _, .infinite second => some (if second then .gt else .lt)
  | .finite first left, .finite second right =>
      some (compare (signedUnits first left) (signedUnits second right))

/-- A whole number is compared by its exact value, without rounding it first. -/
def compareInt? : Binary64 → Int → Option Ordering
  | .nan _, _ => none
  | .infinite negative, _ => some (if negative then .lt else .gt)
  | .finite negative units, value =>
      some (compare (signedUnits negative units) (value * unitsPerOne))

def lt (first second : Binary64) : Bool := first.compare? second == some .lt

def le (first second : Binary64) : Bool :=
  match first.compare? second with
  | some .lt | some .eq => true
  | _ => false

/-- The fraction is dropped. -/
def truncate? : Binary64 → Option Int
  | .finite negative units => some (signedUnits negative (units / unitsPerOne))
  | _ => none

/-- The exact value goes to the nearest multiple of `10 ^ (-places)`, a tie to the even one, and
that decimal is then rounded to a number. -/
def roundPlaces (places : Nat) : Binary64 → Binary64
  | .finite negative units =>
      let scale := Nat.pow 10 places
      ofQuotient negative (roundQuotient (units * scale) unitsPerOne) scale
  | number => number

end Binary64

end CodeGraph

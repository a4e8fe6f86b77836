import CodeGraph.Number.Decimal
import CodeGraph.Proofs.Digits
import CodeGraph.Proofs.Rounding

/-!
This file says that the shortest decimal of a number denotes it. A decimal denotes its exact value
rounded once, so decimals of one value denote one number, and seventeen digits are close enough to
any number.
-/

namespace CodeGraph

namespace Binary64

/-- Quotients of one value round to one number. -/
theorem ofUnitsQuotient_eq {negative : Bool} {first second left right : Nat}
    (leftPositive : 0 < left) (rightPositive : 0 < right) (same : first * right = second * left) :
    ofUnitsQuotient negative first left = ofUnitsQuotient negative second right := by
  rw [← ofUnitsQuotient_expand negative first left rightPositive, same, Nat.mul_comm left right,
    ofUnitsQuotient_expand negative second right leftPositive]

/-- The rounded quotient is at a distance of at most one half. -/
theorem roundQuotient_distance (numerator : Nat) {denominator : Nat} (positive : 0 < denominator) :
    2 * (roundQuotient numerator denominator * denominator) ≤ 2 * numerator + denominator ∧
      2 * numerator ≤ 2 * (roundQuotient numerator denominator * denominator) + denominator := by
  have division := Nat.div_add_mod numerator denominator
  have remainder := Nat.mod_lt numerator positive
  have upper : (numerator / denominator + 1) * denominator =
      denominator * (numerator / denominator) + denominator := by ring
  have lower : numerator / denominator * denominator =
      denominator * (numerator / denominator) := Nat.mul_comm _ _
  unfold roundQuotient
  dsimp only
  split
  · rw [lower]
    omega
  · split
    · rw [upper]
      omega
    · split
      · rw [lower]
        omega
      · rw [upper]
        omega

/-- The bound of the finite numbers is a power of two. -/
theorem overflowUnits_eq : ∃ places, overflowUnits = 2 ^ places ∧ 52 ≤ places :=
  ⟨2098, by decide +kernel, by decide⟩

/-- A quotient past the largest number is infinite. -/
theorem ofUnitsQuotient_large (negative : Bool) {numerator denominator : Nat}
    (positive : 0 < denominator) (large : overflowUnits * denominator ≤ numerator) :
    ofUnitsQuotient negative numerator denominator = .infinite negative := by
  have floorLarge : overflowUnits ≤ numerator / denominator :=
    (Nat.le_div_iff_mul_le positive).mpr large
  obtain ⟨places, bound, enough⟩ := overflowUnits_eq
  rw [bound] at floorLarge
  have floorPositive : numerator / denominator ≠ 0 := by
    have some : 0 < 2 ^ places := Nat.two_pow_pos places
    omega
  obtain ⟨low, high⟩ := bitLength_bounds floorPositive
  have digits : places < bitLength (numerator / denominator) :=
    (Nat.pow_lt_pow_iff_right (by decide)).mp (Nat.lt_of_le_of_lt floorLarge high)
  unfold ofUnitsQuotient
  dsimp only
  have inner := div_le_roundQuotient numerator
    (denominator <<< (bitLength (numerator / denominator) - precision))
  rw [Nat.shiftLeft_eq, ← Nat.div_div_eq_div_mul] at inner
  rw [Nat.shiftLeft_eq, Nat.shiftLeft_eq]
  generalize numerator / denominator = floor at *
  have precisionValue : precision = 53 := rfl
  have significand : 2 ^ 52 ≤ floor / 2 ^ (bitLength floor - precision) := by
    rw [Nat.le_div_iff_mul_le (Nat.two_pow_pos _), ← Nat.pow_add]
    refine Nat.le_trans (Nat.pow_le_pow_right (by decide) ?_) low
    omega
  have past : overflowUnits ≤ roundQuotient numerator
      (denominator * 2 ^ (bitLength floor - precision)) * 2 ^ (bitLength floor - precision) := by
    calc overflowUnits = 2 ^ places := bound
      _ ≤ 2 ^ (52 + (bitLength floor - precision)) := Nat.pow_le_pow_right (by decide) (by omega)
      _ = 2 ^ 52 * 2 ^ (bitLength floor - precision) := Nat.pow_add _ _ _
      _ ≤ _ := Nat.mul_le_mul_right _ (Nat.le_trans significand inner)
  rw [if_pos past]

/-- A quotient below half a unit is zero. -/
theorem ofUnitsQuotient_small (negative : Bool) {numerator denominator : Nat}
    (small : 2 * numerator < denominator) :
    ofUnitsQuotient negative numerator denominator = .finite negative 0 := by
  have floor : numerator / denominator = 0 := Nat.div_eq_of_lt (by omega)
  have rounded : roundQuotient numerator denominator = 0 :=
    roundQuotient_near (by omega) (by omega)
  obtain ⟨places, bound, -⟩ := overflowUnits_eq
  have bounded : ¬overflowUnits ≤ 0 := by
    rw [bound]
    exact Nat.not_le.mpr (Nat.two_pow_pos places)
  have digits : bitLength 0 - precision = 0 := rfl
  simp only [ofUnitsQuotient, floor, digits, Nat.shiftLeft_zero, rounded, if_neg bounded]

end Binary64

namespace Decimal
open Binary64

theorem ten_pow_fewestPlaces {n : Nat} (positive : n ≠ 0) : 10 ^ fewestPlaces n ≤ n := by
  refine Nat.le_trans ?_ (bitLength_bounds positive).1
  unfold fewestPlaces
  generalize bitLength n - 1 = digits
  apply (Nat.pow_le_pow_iff_left (n := 10) (by decide)).mp
  rw [← Nat.pow_mul, ← Nat.pow_mul]
  calc 10 ^ (3 * digits / 10 * 10) ≤ 10 ^ (3 * digits) :=
        Nat.pow_le_pow_right (by decide) (Nat.div_mul_le_self _ _)
    _ = (10 ^ 3) ^ digits := Nat.pow_mul _ _ _
    _ ≤ (2 ^ 10) ^ digits := Nat.pow_le_pow_left (by decide) digits
    _ = 2 ^ (digits * 10) := by rw [← Nat.pow_mul, Nat.mul_comm]

theorem lt_ten_pow_mostPlaces (n : Nat) : n < 10 ^ mostPlaces n := by
  refine Nat.lt_of_lt_of_le (lt_two_pow_bitLength n) ?_
  unfold mostPlaces
  generalize bitLength n = digits
  calc 2 ^ digits ≤ 2 ^ (3 * (digits / 3 + 1)) := Nat.pow_le_pow_right (by decide) (by omega)
    _ = (2 ^ 3) ^ (digits / 3 + 1) := Nat.pow_mul _ _ _
    _ ≤ 10 ^ (digits / 3 + 1) := Nat.pow_le_pow_left (by decide) _

theorem unitsPerOne_pos : 0 < unitsPerOne := by decide +kernel

theorem overflowUnits_le : ∃ places ≤ 311, overflowUnits ≤ 10 ^ places * unitsPerOne :=
  ⟨311, Nat.le_refl _, by decide +kernel⟩

theorem two_unitsPerOne_lt : ∃ places ≤ 331, 2 * unitsPerOne < 10 ^ places :=
  ⟨331, Nat.le_refl _, by decide +kernel⟩

/-- Digits that stand so far to the left are past the largest number. -/
theorem overflowUnits_le_of_large {digits : Nat} {exponent : Int} (nonzero : digits ≠ 0)
    (large : largestPlace < (fewestPlaces digits : Int) + exponent) :
    overflowUnits * 10 ^ (-exponent).toNat ≤ digits * 10 ^ exponent.toNat * unitsPerOne := by
  unfold largestPlace at large
  obtain ⟨places, placesBound, past⟩ := overflowUnits_le
  calc overflowUnits * 10 ^ (-exponent).toNat
      ≤ 10 ^ places * unitsPerOne * 10 ^ (-exponent).toNat := Nat.mul_le_mul_right _ past
    _ = 10 ^ (places + (-exponent).toNat) * unitsPerOne := by rw [Nat.pow_add]; ring
    _ ≤ 10 ^ (fewestPlaces digits + exponent.toNat) * unitsPerOne :=
        Nat.mul_le_mul_right _ (Nat.pow_le_pow_right (by decide) (by omega))
    _ = 10 ^ fewestPlaces digits * 10 ^ exponent.toNat * unitsPerOne := by rw [Nat.pow_add]
    _ ≤ digits * 10 ^ exponent.toNat * unitsPerOne :=
        Nat.mul_le_mul_right _ (Nat.mul_le_mul_right _ (ten_pow_fewestPlaces nonzero))

/-- Digits that stand so far to the right are below half a unit. -/
theorem lt_half_unit_of_small {digits : Nat} {exponent : Int}
    (small : (mostPlaces digits : Int) + exponent < smallestPlace) :
    2 * (digits * 10 ^ exponent.toNat * unitsPerOne) < 10 ^ (-exponent).toNat := by
  unfold smallestPlace at small
  obtain ⟨places, placesBound, below⟩ := two_unitsPerOne_lt
  calc 2 * (digits * 10 ^ exponent.toNat * unitsPerOne)
      = digits * 10 ^ exponent.toNat * (2 * unitsPerOne) := by ring
    _ ≤ 10 ^ mostPlaces digits * 10 ^ exponent.toNat * (2 * unitsPerOne) :=
        Nat.mul_le_mul_right _
          (Nat.mul_le_mul_right _ (Nat.le_of_lt (lt_ten_pow_mostPlaces digits)))
    _ < 10 ^ mostPlaces digits * 10 ^ exponent.toNat * 10 ^ places :=
        Nat.mul_lt_mul_of_pos_left below
          (Nat.mul_pos (Nat.pow_pos (by decide)) (Nat.pow_pos (by decide)))
    _ = 10 ^ (mostPlaces digits + exponent.toNat + places) := by rw [Nat.pow_add, Nat.pow_add]
    _ ≤ 10 ^ (-exponent).toNat := Nat.pow_le_pow_right (by decide) (by omega)

/-- A decimal denotes its exact value rounded once. -/
theorem toBinary64_eq (negative : Bool) (decimal : Decimal) :
    decimal.toBinary64 negative = ofQuotient negative
      (decimal.digits * 10 ^ decimal.exponent.toNat) (10 ^ (-decimal.exponent).toNat) := by
  obtain ⟨digits, exponent⟩ := decimal
  have positive : 0 < 10 ^ (-exponent).toNat := Nat.pow_pos (by decide)
  unfold toBinary64 ofQuotient
  dsimp only
  by_cases zero : digits = 0
  · rw [if_pos zero, zero, Nat.zero_mul, Nat.zero_mul,
      ofUnitsQuotient_small negative (by omega)]
  rw [if_neg zero]
  by_cases large : largestPlace < (fewestPlaces digits : Int) + exponent
  · rw [if_pos large,
      ofUnitsQuotient_large negative positive (overflowUnits_le_of_large zero large)]
  rw [if_neg large]
  by_cases small : (mostPlaces digits : Int) + exponent < smallestPlace
  · rw [if_pos small, ofUnitsQuotient_small negative (lt_half_unit_of_small small)]
  rw [if_neg small]
  by_cases whole : 0 ≤ exponent
  · have none : (-exponent).toNat = 0 := by omega
    rw [if_pos whole, none]
    rfl
  · have none : exponent.toNat = 0 := by omega
    rw [if_neg whole, none, Nat.pow_zero, Nat.mul_one]
    rfl

/-- Zeros at the end of the digits may be moved into the exponent. -/
theorem toBinary64_shift (negative : Bool) (digits places : Nat) (exponent : Int) :
    toBinary64 negative ⟨digits * 10 ^ places, exponent⟩ =
      toBinary64 negative ⟨digits, exponent + places⟩ := by
  rw [toBinary64_eq, toBinary64_eq]
  unfold ofQuotient
  apply ofUnitsQuotient_eq (Nat.pow_pos (by decide)) (Nat.pow_pos (by decide))
  have exponents : places + exponent.toNat + (-(exponent + places)).toNat =
      (exponent + places).toNat + (-exponent).toNat := by omega
  calc digits * 10 ^ places * 10 ^ exponent.toNat * unitsPerOne * 10 ^ (-(exponent + places)).toNat
      = digits * unitsPerOne *
          10 ^ (places + exponent.toNat + (-(exponent + places)).toNat) := by
        rw [Nat.pow_add, Nat.pow_add]; ring
    _ = digits * 10 ^ (exponent + places).toNat * unitsPerOne * 10 ^ (-exponent).toNat := by
        rw [exponents, Nat.pow_add]; ring

/-- The sign of a finite result is the sign of the numeral. -/
theorem toBinary64_sign {decimal : Decimal} {units : Nat}
    (positive : decimal.toBinary64 false = .finite false units) (negative : Bool) :
    decimal.toBinary64 negative = .finite negative units := by
  rw [toBinary64_eq] at positive ⊢
  unfold ofQuotient ofUnitsQuotient at *
  dsimp only at *
  split at positive
  · cases positive
  · rename_i bounded
    rw [if_neg bounded]
    injection positive with _ same
    rw [same]

/-- The whole digits of a large multiple bound the magnitude from below. -/
theorem ten_pow_place_le {units : Nat} (positive : units ≠ 0) :
    ∃ count, placeOf units = (count + 1 : Nat) - (probePlaces : Int) ∧
      10 ^ count * unitsPerOne ≤ units * Nat.pow 10 probePlaces := by
  have enlarged : unitsPerOne ≤ units * Nat.pow 10 probePlaces := by
    calc unitsPerOne ≤ 1 * Nat.pow 10 probePlaces := by decide +kernel
      _ ≤ units * Nat.pow 10 probePlaces := Nat.mul_le_mul_right _ (by omega)
  have count : digitCount (units * Nat.pow 10 probePlaces / unitsPerOne) =
      (naturalDigits (units * Nat.pow 10 probePlaces / unitsPerOne)).length :=
    (List.length_reverse ..).symm
  have floorPositive : 1 ≤ units * Nat.pow 10 probePlaces / unitsPerOne :=
    (Nat.le_div_iff_mul_le unitsPerOne_pos).mpr (by omega)
  have product : units * Nat.pow 10 probePlaces / unitsPerOne * unitsPerOne ≤
      units * Nat.pow 10 probePlaces := Nat.div_mul_le_self _ _
  unfold placeOf
  rw [count]
  generalize units * Nat.pow 10 probePlaces / unitsPerOne = floor at floorPositive product
  cases digits : (naturalDigits floor).length with
  | zero => exact absurd (List.eq_nil_of_length_eq_zero digits) (naturalDigits_ne_nil floor)
  | succ count =>
      refine ⟨count, rfl, Nat.le_trans (Nat.mul_le_mul_right _ ?_) product⟩
      cases count with
      | zero => exact floorPositive
      | succ shorter =>
          have long : ¬(naturalDigits floor).length ≤ shorter + 1 := by omega
          exact Nat.le_of_not_lt (mt length_naturalDigits_le.mpr long)

/-- On a grid that is finer than the number by sixteen places the nearest decimal denotes it. -/
theorem denotes_nearest {units : Nat} (representable : IsRepresentable units) {exponent : Int}
    (wide : 10 ^ 16 * (unitsPerOne * 10 ^ exponent.toNat) ≤ units * 10 ^ (-exponent).toNat) :
    denotes units ⟨roundQuotient (units * 10 ^ (-exponent).toNat)
      (unitsPerOne * 10 ^ exponent.toNat), exponent⟩ = true := by
  have positive : 0 < unitsPerOne * 10 ^ exponent.toNat :=
    Nat.mul_pos unitsPerOne_pos (Nat.pow_pos (by decide))
  obtain ⟨notAbove, notBelow⟩ := roundQuotient_distance (units * 10 ^ (-exponent).toNat) positive
  unfold denotes
  rw [beq_iff_eq, toBinary64_eq, ofQuotient]
  generalize roundQuotient (units * 10 ^ (-exponent).toNat)
    (unitsPerOne * 10 ^ exponent.toNat) = nearest at notAbove notBelow
  dsimp only
  have product : nearest * 10 ^ exponent.toNat * unitsPerOne =
      nearest * (unitsPerOne * 10 ^ exponent.toNat) := by ring
  rw [product]
  generalize unitsPerOne * 10 ^ exponent.toNat = denominator at *
  refine ofUnitsQuotient_near false representable (Nat.pow_pos (by decide)) ?_ ?_ <;>
    generalize units * 10 ^ (-exponent).toNat = numerator at * <;>
    generalize nearest * denominator = product at * <;>
    omega

/-- The grid with seventeen digits of a number is finer than the number by sixteen places. -/
theorem grid_of_probe {units count probe : Nat} {exponent : Int}
    (same : (count : Int) + 1 - probe - 17 = exponent)
    (large : 10 ^ count * unitsPerOne ≤ units * Nat.pow 10 probe) :
    10 ^ 16 * (unitsPerOne * 10 ^ exponent.toNat) ≤ units * 10 ^ (-exponent).toNat := by
  apply Nat.le_of_mul_le_mul_right (c := 10 ^ probe) _ (Nat.pow_pos (by decide))
  have exponents : 16 + exponent.toNat + probe = count + (-exponent).toNat := by omega
  calc 10 ^ 16 * (unitsPerOne * 10 ^ exponent.toNat) * 10 ^ probe
      = 10 ^ (16 + exponent.toNat + probe) * unitsPerOne := by
        rw [Nat.pow_add, Nat.pow_add]; ring
    _ = 10 ^ count * unitsPerOne * 10 ^ (-exponent).toNat := by
        rw [exponents, Nat.pow_add]; ring
    _ ≤ units * 10 ^ probe * 10 ^ (-exponent).toNat := Nat.mul_le_mul_right _ large
    _ = units * 10 ^ (-exponent).toNat * 10 ^ probe := by ring

/-- A decimal of seventeen digits that is nearest to a number denotes it. -/
theorem readBack?_enoughDigits {units : Nat} (representable : IsRepresentable units)
    (positive : units ≠ 0) :
    (readBack? units (placeOf units - (enoughDigits : Nat))).isSome = true := by
  obtain ⟨count, place, large⟩ := ten_pow_place_le positive
  have wide := grid_of_probe rfl large
  have exponent : (count : Int) + 1 - probePlaces - 17 = placeOf units - (enoughDigits : Nat) := by
    rw [place]
    rfl
  rw [exponent] at wide
  unfold readBack? neighbours
  rw [List.find?_isSome]
  exact ⟨_, List.mem_cons_self, denotes_nearest representable wide⟩

/-- The shortest decimal of a number denotes it. -/
theorem shortest_toBinary64 {units : Nat} (representable : IsRepresentable units)
    (positive : units ≠ 0) : (shortest units).toBinary64 false = .finite false units := by
  have found : ((List.range enoughDigits).findSome? fun count =>
      readBack? units (placeOf units - (count + 1 : Nat))).isSome = true := by
    rw [List.findSome?_isSome_iff]
    exact ⟨16, List.mem_range.mpr (by decide), readBack?_enoughDigits representable positive⟩
  obtain ⟨decimal, first⟩ := Option.isSome_iff_exists.mp found
  obtain ⟨count, -, near⟩ := List.exists_of_findSome?_eq_some first
  have same : shortest units = decimal := by
    unfold shortest
    dsimp only
    rw [first]
    rfl
  have denoted : denotes units decimal = true := List.find?_some near
  rw [same]
  exact beq_iff_eq.mp denoted

end Decimal

end CodeGraph

import CodeGraph.Proofs.Rounding
import Mathlib.Order.Compare

/-!
This file says that rounding keeps the order of numbers. So sums, products with a positive factor
and numbers that are cut to a few decimal places stand in the order of what they are made from.
-/

namespace CodeGraph.Binary64

/-- A larger quotient is not rounded to a smaller whole number. -/
theorem roundQuotient_mono {first second : Nat} (smaller : first ≤ second) (denominator : Nat) :
    roundQuotient first denominator ≤ roundQuotient second denominator := by
  have floors : first / denominator ≤ second / denominator := Nat.div_le_div_right smaller
  have firstParts := Nat.div_add_mod first denominator
  have secondParts := Nat.div_add_mod second denominator
  unfold roundQuotient
  dsimp only
  rcases Nat.lt_or_eq_of_le floors with apart | same
  · split_ifs <;> omega
  · have remainders : first % denominator ≤ second % denominator := by
      rw [same] at firstParts
      omega
    rw [same]
    split_ifs <;> omega

theorem bitLength_mono {first second : Nat} (smaller : first ≤ second) :
    bitLength first ≤ bitLength second := by
  by_contra longer
  have reached := two_pow_le_of_lt_bitLength (Nat.lt_of_not_le longer)
  have bound := lt_two_pow_bitLength second
  omega

/-- The units to which a quotient is rounded, whether they are in the range or not. -/
def roundedUnits (numerator denominator : Nat) : Nat :=
  let excess := bitLength (numerator / denominator) - precision
  roundQuotient numerator (denominator <<< excess) <<< excess

theorem ofUnitsQuotient_eq_ite (negative : Bool) (numerator denominator : Nat) :
    ofUnitsQuotient negative numerator denominator =
      if overflowUnits ≤ roundedUnits numerator denominator then .infinite negative
      else .finite negative (roundedUnits numerator denominator) := rfl

theorem roundedUnits_zero (denominator : Nat) : roundedUnits 0 denominator = 0 := by
  simp [roundedUnits, roundQuotient, bitLength]

/-- A quotient with so many digits that some are dropped keeps a full significand. -/
theorem le_significand (numerator denominator : Nat)
    (long : 0 < bitLength (numerator / denominator) - precision) :
    2 ^ (precision - 1) ≤ roundQuotient numerator
      (denominator <<< (bitLength (numerator / denominator) - precision)) := by
  refine Nat.le_trans ?_ (div_le_roundQuotient _ _)
  rw [Nat.shiftLeft_eq, ← Nat.div_div_eq_div_mul]
  generalize numerator / denominator = floor at long ⊢
  rw [Nat.le_div_iff_mul_le (Nat.two_pow_pos _), ← Nat.pow_add]
  apply two_pow_le_of_lt_bitLength
  have some : 0 < precision := by decide
  omega

/-- A larger quotient is not rounded to a smaller number. -/
theorem roundedUnits_mono {first second : Nat} (smaller : first ≤ second) (denominator : Nat) :
    roundedUnits first denominator ≤ roundedUnits second denominator := by
  have lengths : bitLength (first / denominator) ≤ bitLength (second / denominator) :=
    bitLength_mono (Nat.div_le_div_right smaller)
  have excesses := Nat.sub_le_sub_right lengths precision
  have firstFits := roundQuotient_le_precision first denominator
  have secondFull := le_significand second denominator
  unfold roundedUnits
  dsimp only
  generalize bitLength (first / denominator) - precision = firstExcess at excesses firstFits ⊢
  generalize bitLength (second / denominator) - precision = secondExcess at excesses secondFull ⊢
  simp only [Nat.shiftLeft_eq] at firstFits secondFull ⊢
  rcases Nat.lt_or_eq_of_le excesses with shorter | rfl
  · calc roundQuotient first (denominator * 2 ^ firstExcess) * 2 ^ firstExcess
        ≤ 2 ^ precision * 2 ^ firstExcess := Nat.mul_le_mul_right _ firstFits
      _ = 2 ^ (precision + firstExcess) := (Nat.pow_add _ _ _).symm
      _ ≤ 2 ^ (precision - 1 + secondExcess) := by
          apply Nat.pow_le_pow_right (by decide)
          have some : 0 < precision := by decide
          omega
      _ = 2 ^ (precision - 1) * 2 ^ secondExcess := Nat.pow_add _ _ _
      _ ≤ roundQuotient second (denominator * 2 ^ secondExcess) * 2 ^ secondExcess :=
          Nat.mul_le_mul_right _ (secondFull (by omega))
  · exact Nat.mul_le_mul_right _ (roundQuotient_mono smaller _)

/-- A quotient past the range is rounded to an infinity. -/
theorem ofUnitsQuotient_infinite (negative : Bool) {numerator : Nat}
    (large : overflowUnits ≤ numerator) :
    ofUnitsQuotient negative numerator 1 = .infinite negative := by
  have exact : overflowUnits ≤ roundedUnits overflowUnits 1 := by decide +kernel
  rw [ofUnitsQuotient_eq_ite, if_pos (exact.trans (roundedUnits_mono large 1))]

section Order

variable {first second third : Binary64}

@[simp]
theorem finite_le_finite {first second : Bool} {left right : Nat} :
    (finite first left).le (finite second right) = true ↔
      signedUnits first left ≤ signedUnits second right := by
  unfold le compare?
  rcases lt_trichotomy (signedUnits first left) (signedUnits second right) with less | same | more
  · simp [compare_lt_iff_lt.mpr less, less.le]
  · simp [same]
  · simp [compare_gt_iff_gt.mpr more, more]

@[simp]
theorem finite_le_infinite {first second : Bool} {left : Nat} :
    (finite first left).le (infinite second) = true ↔ second = false := by
  cases second <;> simp [le, compare?]

@[simp]
theorem infinite_le_finite {first second : Bool} {right : Nat} :
    (infinite first).le (finite second right) = true ↔ first = true := by
  cases first <;> simp [le, compare?]

@[simp]
theorem infinite_le_infinite {first second : Bool} :
    (infinite first).le (infinite second) = true ↔ (first = true ∨ second = false) := by
  cases first <;> cases second <;> simp [le, compare?]

@[simp]
theorem nan_le (payload : Nat) : (nan payload).le second = false := rfl

@[simp]
theorem le_nan (payload : Nat) : first.le (nan payload) = false := by
  cases first <;> rfl

theorem le_trans (former : first.le second = true) (latter : second.le third = true) :
    first.le third = true := by
  cases first <;> cases second <;> cases third <;> simp_all <;> grind

theorem le_refl (isNumber : first.isNaN = false) : first.le first = true := by
  cases first with
  | nan => cases isNumber
  | infinite negative => cases negative <;> rfl
  | finite negative units => exact finite_le_finite.mpr (Int.le_refl _)

/-- A number is smaller exactly if it is not as large. -/
theorem lt_iff : first.lt second = true ↔ first.le second = true ∧ second.le first = false := by
  unfold lt
  cases first with
  | nan => simp [compare?]
  | infinite negative =>
      cases second with
      | nan => simp [compare?]
      | infinite other => cases negative <;> cases other <;> decide
      | finite other right => cases negative <;> simp [compare?, ← Bool.not_eq_true]
  | finite negative left =>
      cases second with
      | nan => simp [compare?]
      | infinite other => cases other <;> simp [compare?, ← Bool.not_eq_true]
      | finite other right =>
          simp only [compare?, ← Bool.not_eq_true, finite_le_finite, beq_iff_eq,
            Option.some.injEq, compare_lt_iff_lt]
          omega

/-- What is at least as large as another number is not smaller. -/
theorem lt_eq_false_of_le (smaller : first.le second = true) : second.lt first = false := by
  rw [← Bool.not_eq_true, lt_iff, smaller]
  simp

theorem lt_of_le_of_lt (former : first.le second = true) (latter : second.lt third = true) :
    first.lt third = true := by
  obtain ⟨within, apart⟩ := lt_iff.mp latter
  refine lt_iff.mpr ⟨le_trans former within, ?_⟩
  rw [← Bool.not_eq_true]
  intro back
  rw [le_trans back former] at apart
  cases apart

theorem lt_of_lt_of_le (former : first.lt second = true) (latter : second.le third = true) :
    first.lt third = true := by
  obtain ⟨within, apart⟩ := lt_iff.mp former
  refine lt_iff.mpr ⟨le_trans within latter, ?_⟩
  rw [← Bool.not_eq_true]
  intro back
  rw [le_trans latter back] at apart
  cases apart

/-- Of two numbers one is at least as large as the other. -/
theorem le_of_lt_eq_false (firstNumber : first.isNaN = false) (secondNumber : second.isNaN = false)
    (notLess : first.lt second = false) : second.le first = true := by
  cases first with
  | nan => cases firstNumber
  | infinite negative =>
      cases second with
      | nan => cases secondNumber
      | infinite other => cases negative <;> cases other <;> first | rfl | cases notLess
      | finite other right => cases negative <;> first | rfl | cases notLess
  | finite negative left =>
      cases second with
      | nan => cases secondNumber
      | infinite other => cases other <;> first | rfl | cases notLess
      | finite other right =>
          rw [← Bool.not_eq_true, lt_iff, ← Bool.not_eq_true] at notLess
          simp only [finite_le_finite] at notLess ⊢
          omega

/-- What is compared at all is a number. -/
theorem isNaN_of_le (smaller : first.le second = true) :
    first.isNaN = false ∧ second.isNaN = false := by
  cases first <;> cases second <;> simp_all [isNaN]

/-- Numbers that are raised to a common bottom keep their order. -/
theorem raise_le {bottom : Binary64} (bottomNumber : bottom.isNaN = false)
    (smaller : first.le second = true) :
    (if first.lt bottom then bottom else first).le (if second.lt bottom then bottom else second) =
      true := by
  obtain ⟨firstNumber, secondNumber⟩ := isNaN_of_le smaller
  have above {number : Binary64} (isNumber : number.isNaN = false)
      (notBelow : ¬number.lt bottom = true) : bottom.le number = true :=
    le_of_lt_eq_false isNumber bottomNumber (Bool.eq_false_iff.mpr notBelow)
  split_ifs with firstBelow secondBelow secondBelow
  · exact le_refl bottomNumber
  · exact above secondNumber secondBelow
  · rw [lt_eq_false_of_le (le_trans (above firstNumber firstBelow) smaller)] at secondBelow
    cases secondBelow
  · exact smaller

end Order

section Operations

variable {first second : Binary64}

theorem signedUnits_natAbs (value : Int) : signedUnits (value < 0) value.natAbs = value := by
  unfold signedUnits
  split_ifs with negative <;> simp at negative <;> omega

theorem signedUnits_mul (negative : Bool) (units factor : Nat) :
    signedUnits negative (units * factor) = signedUnits negative units * factor := by
  cases negative <;> simp [signedUnits]

theorem signedUnits_not (negative : Bool) (units : Nat) :
    signedUnits (!negative) units = -signedUnits negative units := by
  cases negative <;> simp [signedUnits]

/-- What keeps the order of magnitudes and their zero keeps the order of signed values. -/
theorem signedUnits_map_le (change : Nat → Nat) (mono : Monotone change) (zero : change 0 = 0)
    {first second : Bool} {left right : Nat}
    (smaller : signedUnits first left ≤ signedUnits second right) :
    signedUnits first (change left) ≤ signedUnits second (change right) := by
  unfold signedUnits at smaller ⊢
  cases first with
  | false =>
      cases second with
      | false => exact Int.ofNat_le.mpr (mono (Int.ofNat_le.mp smaller))
      | true =>
          simp only [if_true, Bool.false_eq_true, if_false] at smaller ⊢
          have none : left = 0 ∧ right = 0 := by omega
          rw [none.1, none.2, zero]
          simp
  | true =>
      cases second with
      | false =>
          simp only [if_true, Bool.false_eq_true, if_false]
          omega
      | true =>
          simp only [if_true] at smaller ⊢
          have magnitudes := mono (show right ≤ left by omega)
          omega

/-- Exact values that are rounded at one place keep their order. -/
theorem ofUnitsQuotient_le {first second : Bool} {left right : Nat} (denominator : Nat)
    (smaller : signedUnits first left ≤ signedUnits second right) :
    (ofUnitsQuotient first left denominator).le (ofUnitsQuotient second right denominator) =
      true := by
  have rounded := signedUnits_map_le (fun units => roundedUnits units denominator)
    (fun _ _ less => roundedUnits_mono less denominator) (roundedUnits_zero denominator) smaller
  rw [ofUnitsQuotient_eq_ite, ofUnitsQuotient_eq_ite]
  have positive : 0 < overflowUnits := isRepresentable_zero.bounded
  split_ifs
  · cases first <;> cases second <;> simp [signedUnits] at rounded ⊢
    -- What is left is a positive number in front of a negative one.
    omega
  · cases first <;> cases second <;> simp [signedUnits] at rounded ⊢ <;> omega
  · cases first <;> cases second <;> simp [signedUnits] at rounded ⊢ <;> omega
  · exact finite_le_finite.mpr rounded

theorem ofUnitsQuotient_le_infinite (negative : Bool) (numerator denominator : Nat) :
    (ofUnitsQuotient negative numerator denominator).le (infinite false) = true := by
  rw [ofUnitsQuotient_eq_ite]
  split_ifs <;> simp

theorem infinite_le_ofUnitsQuotient (negative : Bool) (numerator denominator : Nat) :
    (infinite true).le (ofUnitsQuotient negative numerator denominator) = true := by
  rw [ofUnitsQuotient_eq_ite]
  split_ifs <;> simp

/-- Whole numbers keep their order. -/
theorem ofInt_le {first second : Int} (smaller : first ≤ second) :
    (ofInt first).le (ofInt second) = true := by
  unfold ofInt ofQuotient
  apply ofUnitsQuotient_le
  rw [signedUnits_mul, signedUnits_mul, signedUnits_natAbs, signedUnits_natAbs]
  exact Int.mul_le_mul_of_nonneg_right smaller (Int.natCast_nonneg _)

theorem zero_le_ofQuotient (numerator denominator : Nat) :
    zero.le (ofQuotient false numerator denominator) = true := by
  have rounded : zero = ofUnitsQuotient false 0 denominator := by
    rw [ofUnitsQuotient_eq_ite, roundedUnits_zero,
      if_neg (Nat.not_le.mpr isRepresentable_zero.bounded)]
    rfl
  rw [rounded, ofQuotient]
  apply ofUnitsQuotient_le
  exact Int.ofNat_le.mpr (Nat.zero_le _)

/-- A part of a whole is a share of at most one. -/
theorem ofQuotient_le_one {numerator denominator : Nat}
    (notAbove : numerator ≤ denominator) (positive : 0 < denominator) :
    (ofQuotient false numerator denominator).le (ofInt 1) = true := by
  have one : ofInt 1 = ofUnitsQuotient false (denominator * unitsPerOne) denominator := by
    have expanded := ofUnitsQuotient_expand false unitsPerOne 1 positive
    rw [Nat.one_mul, Nat.mul_comm] at expanded
    rw [expanded, ofInt, ofQuotient, Int.natAbs_one, Nat.one_mul]
    rfl
  rw [one, ofQuotient]
  apply ofUnitsQuotient_le
  exact Int.ofNat_le.mpr (Nat.mul_le_mul_right unitsPerOne notAbove)

/-- A positive number is so many units. -/
theorem exists_units (number : Binary64)
    (positive : (number.isFinite && !number.isNegative && !number.isZero) = true) :
    ∃ units, units ≠ 0 ∧ number = .finite false units := by
  cases number with
  | nan => cases positive
  | infinite => cases positive
  | finite negative units =>
      cases units with
      | zero => simp [isZero] at positive
      | succ units =>
          refine ⟨units + 1, Nat.succ_ne_zero units, ?_⟩
          simp [isNegative, isFinite, isZero] at positive
          rw [positive]

/-- The order of two factors that are numbers does not matter. -/
theorem mul_comm_of_isNaN (firstNumber : first.isNaN = false)
    (secondNumber : second.isNaN = false) : first.mul second = second.mul first := by
  cases first with
  | nan => cases firstNumber
  | infinite negative =>
      cases second with
      | nan => cases secondNumber
      | infinite other => simp [mul, bne_comm]
      | finite other right => simp [mul, bne_comm]
  | finite negative left =>
      cases second with
      | nan => cases secondNumber
      | infinite other => simp [mul, bne_comm]
      | finite other right => simp [mul, bne_comm, Nat.mul_comm]

/-- Products with a positive factor keep the order. -/
theorem mul_le_mul {factor : Nat} (positive : factor ≠ 0) (smaller : first.le second = true) :
    ((finite false factor).mul first).le ((finite false factor).mul second) = true := by
  have scaled (negative : Bool) (units : Nat) :
      signedUnits negative (factor * units) = signedUnits negative units * factor := by
    rw [Nat.mul_comm, signedUnits_mul]
  cases first with
  | nan => cases smaller
  | infinite negative =>
      cases second with
      | nan => simp at smaller
      | infinite other => simpa [mul, positive] using smaller
      | finite other right =>
          simp only [infinite_le_finite] at smaller
          simpa [mul, positive, smaller] using infinite_le_ofUnitsQuotient _ _ _
  | finite negative left =>
      cases second with
      | nan => simp at smaller
      | infinite other =>
          simp only [finite_le_infinite] at smaller
          simpa [mul, positive, smaller] using ofUnitsQuotient_le_infinite _ _ _
      | finite other right =>
          simp only [finite_le_finite] at smaller
          simp only [mul, Bool.false_bne]
          apply ofUnitsQuotient_le
          rw [scaled, scaled]
          exact Int.mul_le_mul_of_nonneg_right smaller (Int.natCast_nonneg _)

/-- A sum of finite numbers is rounded like any other exact value, whatever the sign of a zero. -/
theorem exists_add (first second : Bool) (left right : Nat) : ∃ negative units,
    signedUnits negative units = signedUnits first left + signedUnits second right ∧
      (finite first left).add (finite second right) = ofUnitsQuotient negative units 1 := by
  by_cases zero : signedUnits first left + signedUnits second right = 0
  · refine ⟨first && second, 0, ?_, ?_⟩
    · rw [zero]
      simp [signedUnits]
    · simp only [add]
      rw [if_pos zero, ofUnitsQuotient_eq_ite, roundedUnits_zero,
        if_neg (Nat.not_le.mpr isRepresentable_zero.bounded)]
  · refine ⟨_, _, signedUnits_natAbs _, ?_⟩
    simp only [add]
    rw [if_neg zero]

/-- Sums with a finite number keep the order. -/
theorem add_le_add_left (sign : Bool) (units : Nat) (smaller : first.le second = true) :
    ((finite sign units).add first).le ((finite sign units).add second) = true := by
  cases first with
  | nan => cases smaller
  | infinite negative =>
      cases second with
      | nan => simp at smaller
      | infinite other => simpa [add] using smaller
      | finite other right =>
          obtain ⟨_, _, -, sum⟩ := exists_add sign other units right
          simp only [infinite_le_finite] at smaller
          rw [sum, smaller]
          exact infinite_le_ofUnitsQuotient _ _ _
  | finite negative left =>
      obtain ⟨_, _, firstExact, firstSum⟩ := exists_add sign negative units left
      cases second with
      | nan => simp at smaller
      | infinite other =>
          simp only [finite_le_infinite] at smaller
          rw [firstSum, smaller]
          exact ofUnitsQuotient_le_infinite _ _ _
      | finite other right =>
          obtain ⟨_, _, secondExact, secondSum⟩ := exists_add sign other units right
          simp only [finite_le_finite] at smaller
          rw [firstSum, secondSum]
          apply ofUnitsQuotient_le
          rw [firstExact, secondExact]
          exact Int.add_le_add_left smaller _

/-- Opposite numbers stand in the opposite order. -/
theorem neg_le_neg (smaller : first.le second = true) : second.neg.le first.neg = true := by
  cases first with
  | nan => cases smaller
  | infinite negative => cases second <;> simp_all [neg, or_comm]
  | finite negative left =>
      cases second with
      | nan => simp at smaller
      | infinite other => simpa [neg] using smaller
      | finite other right =>
          simp only [neg, finite_le_finite, signedUnits_not] at smaller ⊢
          omega

/-- The more is taken from a finite number, the less is left. -/
theorem sub_le_sub_left (sign : Bool) (units : Nat) (smaller : first.le second = true) :
    ((finite sign units).sub second).le ((finite sign units).sub first) = true :=
  add_le_add_left sign units (neg_le_neg smaller)

/-- The whole number of decimal places next to a magnitude, counted in units. -/
def decimalUnits (places units : Nat) : Nat :=
  roundQuotient (units * Nat.pow 10 places) unitsPerOne * unitsPerOne

theorem decimalUnits_mono (places : Nat) : Monotone (decimalUnits places) := fun _ _ smaller =>
  Nat.mul_le_mul_right _ (roundQuotient_mono (Nat.mul_le_mul_right _ smaller) unitsPerOne)

theorem decimalUnits_zero (places : Nat) : decimalUnits places 0 = 0 := by
  simp [decimalUnits, roundQuotient]

theorem roundPlaces_finite (places : Nat) (negative : Bool) (units : Nat) :
    (finite negative units).roundPlaces places =
      ofUnitsQuotient negative (decimalUnits places units) (Nat.pow 10 places) := rfl

theorem roundPlaces_infinite (places : Nat) (negative : Bool) :
    (infinite negative).roundPlaces places = infinite negative := rfl

/-- Numbers that are cut to the same number of decimal places keep their order. -/
theorem roundPlaces_le (places : Nat) (smaller : first.le second = true) :
    (first.roundPlaces places).le (second.roundPlaces places) = true := by
  cases first with
  | nan => cases smaller
  | infinite negative =>
      cases second with
      | nan => simp at smaller
      | infinite other => exact smaller
      | finite other right =>
          rw [roundPlaces_infinite, roundPlaces_finite, infinite_le_finite.mp smaller]
          exact infinite_le_ofUnitsQuotient _ _ _
  | finite negative left =>
      cases second with
      | nan => simp at smaller
      | infinite other =>
          rw [roundPlaces_infinite, roundPlaces_finite, finite_le_infinite.mp smaller]
          exact ofUnitsQuotient_le_infinite _ _ _
      | finite other right =>
          rw [roundPlaces_finite, roundPlaces_finite]
          apply ofUnitsQuotient_le
          exact signedUnits_map_le _ (decimalUnits_mono places) (decimalUnits_zero places)
            (finite_le_finite.mp smaller)

end Operations

end CodeGraph.Binary64

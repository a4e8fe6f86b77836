import CodeGraph.Number.Binary64
import Mathlib.Tactic.Linarith
import Mathlib.Tactic.Ring

/-!
This file says which quotients round to a number. A quotient may be expanded, and every quotient
whose relative distance to a number is below `2 ^ (-54)` goes to this number. Whatever a quotient is
rounded to is of double precision, and it is finite unless the quotient is too large.
-/

namespace CodeGraph.Binary64

/-- The rounded quotient is the whole number at a distance below one half. -/
theorem roundQuotient_near {numerator denominator quotient : Nat}
    (notAbove : 2 * numerator < (2 * quotient + 1) * denominator)
    (notBelow : 2 * quotient * denominator < 2 * numerator + denominator) :
    roundQuotient numerator denominator = quotient := by
  have positive : 0 < denominator := by
    rcases Nat.eq_zero_or_pos denominator with zero | positive
    · rw [zero] at notAbove
      omega
    · exact positive
  have division := Nat.div_add_mod numerator denominator
  have remainder := Nat.mod_lt numerator positive
  unfold roundQuotient
  dsimp only
  generalize numerator / denominator = floor at division
  generalize numerator % denominator = rest at division remainder
  have floorLow : floor ≤ quotient := by
    by_contra above
    have product : denominator * (quotient + 1) ≤ denominator * floor :=
      Nat.mul_le_mul_left denominator (by omega)
    nlinarith
  have floorHigh : quotient ≤ floor + 1 := by
    by_contra below
    have product : denominator * (floor + 2) ≤ denominator * quotient :=
      Nat.mul_le_mul_left denominator (by omega)
    nlinarith
  rcases Nat.lt_or_ge floor quotient with less | equal
  · have same : quotient = floor + 1 := by omega
    subst same
    have large : denominator < 2 * rest := by nlinarith
    rw [if_neg (by omega), if_pos large]
  · have same : quotient = floor := by omega
    subst same
    have small : 2 * rest < denominator := by nlinarith
    rw [if_pos small]

/-- An expanded quotient is rounded alike. -/
theorem roundQuotient_expand (numerator denominator : Nat) {factor : Nat} (positive : 0 < factor) :
    roundQuotient (numerator * factor) (denominator * factor) =
      roundQuotient numerator denominator := by
  have smaller : 2 * (numerator % denominator * factor) < denominator * factor ↔
      2 * (numerator % denominator) < denominator := by
    rw [← Nat.mul_assoc]
    exact Nat.mul_lt_mul_right positive
  have larger : denominator * factor < 2 * (numerator % denominator * factor) ↔
      denominator < 2 * (numerator % denominator) := by
    rw [← Nat.mul_assoc]
    exact Nat.mul_lt_mul_right positive
  simp only [roundQuotient, Nat.mul_div_mul_right _ _ positive, Nat.mul_mod_mul_right, smaller,
    larger]

/-- An expanded quotient of units is rounded alike. -/
theorem ofUnitsQuotient_expand (negative : Bool) (numerator denominator : Nat) {factor : Nat}
    (positive : 0 < factor) :
    ofUnitsQuotient negative (numerator * factor) (denominator * factor) =
      ofUnitsQuotient negative numerator denominator := by
  have shifted (shift : Nat) :
      (denominator * factor) <<< shift = (denominator <<< shift) * factor := by
    simp only [Nat.shiftLeft_eq]
    ring
  simp only [ofUnitsQuotient, Nat.mul_div_mul_right _ _ positive, shifted,
    roundQuotient_expand _ _ positive]

/-- The binary digits of a positive number enclose it. -/
theorem bitLength_bounds {n : Nat} (positive : n ≠ 0) :
    2 ^ (bitLength n - 1) ≤ n ∧ n < 2 ^ bitLength n := by
  unfold bitLength
  rw [if_neg positive]
  exact ⟨Nat.log2_self_le positive, Nat.lt_log2_self⟩

theorem lt_two_pow_bitLength (n : Nat) : n < 2 ^ bitLength n := by
  rcases Nat.eq_zero_or_pos n with rfl | positive
  · decide
  · exact (bitLength_bounds (by omega)).2

theorem two_pow_le_of_lt_bitLength {n digits : Nat} (long : digits < bitLength n) :
    2 ^ digits ≤ n := by
  rcases Nat.eq_zero_or_pos n with rfl | positive
  · exact absurd long (by simp [bitLength])
  · exact Nat.le_trans (Nat.pow_le_pow_right (by decide) (by omega))
      (bitLength_bounds (Nat.pos_iff_ne_zero.mp positive)).1

/-- A number of double precision has this form and is not too large. -/
structure IsRepresentable (units : Nat) : Prop where
  form : ∃ significand shift, units = significand * 2 ^ shift ∧ significand < 2 ^ precision
  bounded : units < overflowUnits

/-- A number close to a quotient stays below the next power of two, up to the allowed distance. -/
theorem lt_of_near {units numerator denominator : Nat} (positive : 0 < denominator)
    (notBelow : (2 ^ 54 - 1) * (units * denominator) < 2 ^ 54 * numerator) :
    (2 ^ 54 - 1) * units < 2 ^ 107 * 2 ^ (bitLength (numerator / denominator) - precision) := by
  have floorHigh : numerator < (numerator / denominator + 1) * denominator := by
    rw [Nat.mul_comm]
    exact Nat.lt_mul_div_succ numerator positive
  generalize numerator / denominator = floor at floorHigh ⊢
  have floorBound : floor + 1 ≤ 2 ^ 53 * 2 ^ (bitLength floor - precision) := by
    have precisionValue : precision = 53 := rfl
    rw [← Nat.pow_add]
    exact Nat.lt_of_lt_of_le (lt_two_pow_bitLength floor)
      (Nat.pow_le_pow_right (by decide) (by omega))
  generalize bitLength floor - precision = excess at floorBound ⊢
  have numeratorBound : numerator < 2 ^ 53 * 2 ^ excess * denominator :=
    Nat.lt_of_lt_of_le floorHigh (Nat.mul_le_mul_right denominator floorBound)
  apply Nat.lt_of_mul_lt_mul_right (a := denominator)
  calc (2 ^ 54 - 1) * units * denominator
      = (2 ^ 54 - 1) * (units * denominator) := Nat.mul_assoc _ _ _
    _ < 2 ^ 54 * numerator := notBelow
    _ ≤ 2 ^ 54 * (2 ^ 53 * 2 ^ excess * denominator) :=
        Nat.mul_le_mul_left _ (Nat.le_of_lt numeratorBound)
    _ = 2 ^ 107 * 2 ^ excess * denominator := by ring

/-- A number close to a quotient of too many binary digits reaches the power of two below, up to the
allowed distance. -/
theorem gt_of_near {units numerator denominator : Nat}
    (long : precision < bitLength (numerator / denominator))
    (notAbove : 2 ^ 54 * numerator < (2 ^ 54 + 1) * (units * denominator)) :
    2 ^ 106 * 2 ^ (bitLength (numerator / denominator) - precision) < (2 ^ 54 + 1) * units := by
  have floorLow : numerator / denominator * denominator ≤ numerator :=
    Nat.div_mul_le_self numerator denominator
  generalize numerator / denominator = floor at floorLow long ⊢
  have floorLarge : 2 ^ 52 * 2 ^ (bitLength floor - precision) ≤ floor := by
    have precisionValue : precision = 53 := rfl
    rw [← Nat.pow_add]
    exact two_pow_le_of_lt_bitLength (by omega)
  generalize bitLength floor - precision = excess at floorLarge ⊢
  apply Nat.lt_of_mul_lt_mul_right (a := denominator)
  calc 2 ^ 106 * 2 ^ excess * denominator
      = 2 ^ 54 * (2 ^ 52 * 2 ^ excess * denominator) := by ring
    _ ≤ 2 ^ 54 * numerator := Nat.mul_le_mul_left _
        (Nat.le_trans (Nat.mul_le_mul_right denominator floorLarge) floorLow)
    _ < (2 ^ 54 + 1) * (units * denominator) := notAbove
    _ = (2 ^ 54 + 1) * units * denominator := (Nat.mul_assoc _ _ _).symm

/-- A number that is so large is a multiple of the power of two, since its significand is short. -/
theorem le_shift_of_lt {significand shift excess : Nat} (small : significand < 2 ^ precision)
    (large : 2 ^ 106 * 2 ^ excess < (2 ^ 54 + 1) * (significand * 2 ^ shift)) :
    excess ≤ shift := by
  by_contra short
  have precisionValue : precision = 53 := rfl
  rw [precisionValue] at small
  have parts : 2 ^ excess = 2 ^ (excess - shift - 1) * 2 * 2 ^ shift := by
    rw [← Nat.pow_succ, ← Nat.pow_add]
    congr 1
    omega
  have factor : 0 < 2 ^ (excess - shift - 1) := Nat.two_pow_pos _
  rw [parts] at large
  generalize 2 ^ (excess - shift - 1) = spread at large factor
  have cancelled : 2 ^ 106 * (spread * 2) < (2 ^ 54 + 1) * significand := by
    apply Nat.lt_of_mul_lt_mul_right (a := 2 ^ shift)
    simpa only [Nat.mul_assoc] using large
  omega

/-- A quotient that is close to a number is shifted by no more than the number allows. -/
theorem shift_of_near {units numerator denominator : Nat}
    (form : ∃ significand shift, units = significand * 2 ^ shift ∧ significand < 2 ^ precision)
    (positive : 0 < denominator)
    (notAbove : 2 ^ 54 * numerator < (2 ^ 54 + 1) * (units * denominator))
    (notBelow : (2 ^ 54 - 1) * (units * denominator) < 2 ^ 54 * numerator) :
    ∃ quotient, units = quotient * 2 ^ (bitLength (numerator / denominator) - precision) ∧
      quotient ≤ 2 ^ precision := by
  obtain ⟨significand, shift, rfl, small⟩ := form
  have high := lt_of_near positive notBelow
  have largest : 2 ^ precision = 2 ^ 53 := rfl
  rcases Nat.lt_or_ge precision (bitLength (numerator / denominator)) with long | short
  · have enough := le_shift_of_lt small (gt_of_near long notAbove)
    generalize bitLength (numerator / denominator) - precision = excess at high enough ⊢
    have parts : 2 ^ shift = 2 ^ (shift - excess) * 2 ^ excess := by
      rw [← Nat.pow_add, Nat.sub_add_cancel enough]
    refine ⟨significand * 2 ^ (shift - excess), by rw [parts, Nat.mul_assoc], ?_⟩
    rw [parts, ← Nat.mul_assoc significand, ← Nat.mul_assoc] at high
    have cancelled := Nat.lt_of_mul_lt_mul_right high
    omega
  · rw [Nat.sub_eq_zero_of_le short, Nat.pow_zero] at high ⊢
    exact ⟨significand * 2 ^ shift, (Nat.mul_one _).symm, by omega⟩

/-- A quotient whose distance to a number is below the `2 ^ 54`-th part of the number is rounded to
the number. -/
theorem ofUnitsQuotient_near (negative : Bool) {units numerator denominator : Nat}
    (representable : IsRepresentable units) (positive : 0 < denominator)
    (notAbove : 2 ^ 54 * numerator < (2 ^ 54 + 1) * (units * denominator))
    (notBelow : (2 ^ 54 - 1) * (units * denominator) < 2 ^ 54 * numerator) :
    ofUnitsQuotient negative numerator denominator = .finite negative units := by
  obtain ⟨quotient, same, small⟩ :=
    shift_of_near representable.form positive notAbove notBelow
  unfold ofUnitsQuotient
  dsimp only
  generalize bitLength (numerator / denominator) - precision = excess at same
  have precisionValue : precision = 53 := rfl
  rw [precisionValue] at small
  have scaled : units * denominator = quotient * (denominator * 2 ^ excess) := by
    rw [same]
    ring
  have bound : quotient * (denominator * 2 ^ excess) ≤ 2 ^ 53 * (denominator * 2 ^ excess) :=
    Nat.mul_le_mul_right _ small
  rw [scaled] at notAbove notBelow
  have rounded : roundQuotient numerator (denominator <<< excess) = quotient := by
    rw [Nat.shiftLeft_eq]
    generalize denominator * 2 ^ excess = shifted at *
    apply roundQuotient_near
    · rw [Nat.add_mul, Nat.mul_assoc]
      omega
    · rw [Nat.mul_assoc]
      omega
  rw [rounded, Nat.shiftLeft_eq, ← same, if_neg (Nat.not_le.mpr representable.bounded)]

theorem isRepresentable_zero : IsRepresentable 0 where
  form := ⟨0, 0, rfl, by decide⟩
  bounded := by
    have positive (exponent : Nat) : 0 < Nat.pow 2 exponent := Nat.two_pow_pos exponent
    unfold overflowUnits
    apply positive

theorem div_le_roundQuotient (numerator denominator : Nat) :
    numerator / denominator ≤ roundQuotient numerator denominator := by
  unfold roundQuotient
  dsimp only
  split_ifs <;> omega

theorem roundQuotient_le (numerator denominator : Nat) :
    roundQuotient numerator denominator ≤ numerator / denominator + 1 := by
  unfold roundQuotient
  dsimp only
  split_ifs <;> omega

/-- The significand of a rounded quotient fits, or it was rounded up to the next power of two. -/
theorem roundQuotient_le_precision (numerator denominator : Nat) :
    roundQuotient numerator
        (denominator <<< (bitLength (numerator / denominator) - precision)) ≤ 2 ^ precision := by
  refine (roundQuotient_le _ _).trans (Nat.succ_le_of_lt ?_)
  rw [Nat.shiftLeft_eq, ← Nat.div_div_eq_div_mul]
  apply Nat.div_lt_of_lt_mul
  rw [← Nat.pow_add]
  exact Nat.lt_of_lt_of_le (lt_two_pow_bitLength _) (Nat.pow_le_pow_right (by decide) (by omega))

/-- A quotient is rounded to a number of double precision or to an infinity. -/
theorem ofUnitsQuotient_cases (negative : Bool) (numerator denominator : Nat) :
    ofUnitsQuotient negative numerator denominator = .infinite negative ∨
      ∃ units, IsRepresentable units ∧
        ofUnitsQuotient negative numerator denominator = .finite negative units := by
  have fits := roundQuotient_le_precision numerator denominator
  unfold ofUnitsQuotient
  dsimp only
  generalize bitLength (numerator / denominator) - precision = excess at fits ⊢
  generalize roundQuotient numerator (denominator <<< excess) = significand at fits ⊢
  rw [Nat.shiftLeft_eq]
  by_cases large : overflowUnits ≤ significand * 2 ^ excess
  · exact .inl (if_pos large)
  · refine .inr ⟨significand * 2 ^ excess, ⟨?_, Nat.not_le.mp large⟩, if_neg large⟩
    rcases Nat.lt_or_ge significand (2 ^ precision) with small | power
    · exact ⟨significand, excess, rfl, small⟩
    · refine ⟨1, precision + excess, ?_, by decide⟩
      rw [Nat.le_antisymm fits power, Nat.one_mul, Nat.pow_add]

theorem ofUnitsQuotient_isNaN (negative : Bool) (numerator denominator : Nat) :
    (ofUnitsQuotient negative numerator denominator).isNaN = false := by
  rcases ofUnitsQuotient_cases negative numerator denominator with
    infinite | ⟨units, -, finite⟩
  · rw [infinite]
    rfl
  · rw [finite]
    rfl

/-- A quotient whose double is in the range is rounded to a finite number. -/
theorem ofUnitsQuotient_finite (negative : Bool) {numerator denominator : Nat}
    (small : 2 * (numerator / denominator) + 1 < overflowUnits) :
    ∃ units, ofUnitsQuotient negative numerator denominator = .finite negative units := by
  have rounded := roundQuotient_le numerator
    (denominator <<< (bitLength (numerator / denominator) - precision))
  rw [Nat.shiftLeft_eq, ← Nat.div_div_eq_div_mul] at rounded
  unfold ofUnitsQuotient
  dsimp only
  rw [Nat.shiftLeft_eq, Nat.shiftLeft_eq]
  generalize numerator / denominator = floor at small rounded ⊢
  generalize excessName : bitLength floor - precision = excess at rounded ⊢
  generalize roundQuotient numerator (denominator * 2 ^ excess) = significand at rounded ⊢
  have shifted : 2 ^ excess ≤ floor + 1 := by
    rcases Nat.eq_zero_or_pos excess with none | positive
    · rw [none]
      exact Nat.succ_le_succ (Nat.zero_le floor)
    · have long : excess < bitLength floor := by
        have some : 0 < precision := by decide
        omega
      exact (two_pow_le_of_lt_bitLength long).trans (Nat.le_succ floor)
  have bound : significand * 2 ^ excess ≤ floor + (floor + 1) := by
    calc significand * 2 ^ excess
        ≤ (floor / 2 ^ excess + 1) * 2 ^ excess := Nat.mul_le_mul_right _ rounded
      _ = floor / 2 ^ excess * 2 ^ excess + 2 ^ excess := by rw [Nat.add_mul, Nat.one_mul]
      _ ≤ floor + (floor + 1) := Nat.add_le_add (Nat.div_mul_le_self _ _) shifted
  exact ⟨significand * 2 ^ excess, if_neg (by omega)⟩

/-- Counts of few digits stay in the range when they are counted in units. -/
theorem twice_units_lt {count digits first second : Nat} (few : count < 2 ^ digits)
    (room : digits + first + 1 < second) :
    2 * (count * Nat.pow 2 first) + 1 < Nat.pow 2 second := by
  simp only [Nat.pow_eq]
  have positive : 0 < 2 ^ first := Nat.two_pow_pos first
  calc 2 * (count * 2 ^ first) + 1
      < 2 ^ digits * 2 ^ first * 2 := by nlinarith
    _ = 2 ^ (digits + first + 1) := by rw [Nat.pow_succ, Nat.pow_add]
    _ ≤ 2 ^ second := Nat.pow_le_pow_right (by decide) room.le

/-- A whole number of at most three hundred digits is rounded to a finite number. -/
theorem ofInt_finite {whole : Int} (short : whole.natAbs < 10 ^ 300) :
    ∃ negative units, ofInt whole = .finite negative units := by
  have digits : 10 ^ 300 ≤ 2 ^ 1000 := by
    rw [Nat.pow_mul 10 3 100, Nat.pow_mul 2 10 100]
    exact Nat.pow_le_pow_left (by decide) 100
  unfold ofInt ofQuotient
  refine ⟨_, ofUnitsQuotient_finite _ ?_⟩
  rw [Nat.div_one]
  unfold unitsPerOne overflowUnits
  apply twice_units_lt (short.trans_le digits)
  decide

end CodeGraph.Binary64

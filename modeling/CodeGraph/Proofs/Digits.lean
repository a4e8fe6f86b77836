import CodeGraph.Number.Numeral
import Mathlib.Algebra.Order.Ring.Nat
import Mathlib.Data.List.Induction

/-!
This file ties the digits of a whole number to its value: the digits are read back as the number,
and their count tells how large it is.
-/

namespace CodeGraph.Decimal

theorem toNat_digitChar {value : Nat} (small : value < 10) :
    (digitChar value).toNat = 48 + value := by
  have valid : (48 + value).isValidChar := Or.inl (by omega)
  rw [digitChar, Char.ofNat, dif_pos valid]
  rfl

theorem isAsciiDigit_digitChar {value : Nat} (small : value < 10) :
    Numeral.isAsciiDigit (digitChar value) = true := by
  have code := toNat_digitChar small
  simp only [Numeral.isAsciiDigit, Bool.and_eq_true, decide_eq_true_eq, Char.le_def,
    UInt32.le_iff_toNat_le]
  change 48 ≤ (digitChar value).toNat ∧ (digitChar value).toNat ≤ 57
  omega

theorem naturalDigits_small {n : Nat} (small : n < 10) : naturalDigits n = [digitChar n] := by
  rw [naturalDigits, reversedDigits, if_pos small]
  rfl

theorem naturalDigits_large {n : Nat} (large : 10 ≤ n) :
    naturalDigits n = naturalDigits (n / 10) ++ [digitChar (n % 10)] := by
  rw [naturalDigits, reversedDigits, if_neg (by omega), List.reverse_cons]
  rfl

/-- The last digit is the remainder. -/
theorem naturalDigits_last (n : Nat) :
    ∃ front, naturalDigits n = front ++ [digitChar (n % 10)] := by
  rcases Nat.lt_or_ge n 10 with small | large
  · exact ⟨[], by rw [naturalDigits_small small, Nat.mod_eq_of_lt small]; rfl⟩
  · exact ⟨_, naturalDigits_large large⟩

/-- All digits are read one after the other. -/
theorem digitsValue_append (front : List Char) (last : Char) :
    Numeral.digitsValue (front ++ [last]) =
      10 * Numeral.digitsValue front + (last.toNat - 48) := by
  simp [Numeral.digitsValue, List.foldl_append]

/-- The digits of a number are read back as the number. -/
theorem digitsValue_naturalDigits (n : Nat) : Numeral.digitsValue (naturalDigits n) = n := by
  induction n using Nat.strongRecOn with
  | ind n inductionHypothesis =>
      rcases Nat.lt_or_ge n 10 with small | large
      · rw [naturalDigits_small small]
        have code := toNat_digitChar small
        simp only [Numeral.digitsValue, List.foldl_cons, List.foldl_nil]
        omega
      · rw [naturalDigits_large large, digitsValue_append, inductionHypothesis (n / 10) (by omega)]
        have code := toNat_digitChar (Nat.mod_lt n (show 0 < 10 by omega))
        omega

/-- Digits have a value below the power of ten of their number. -/
theorem digitsValue_lt {digits : List Char} (areDigits : digits.all Numeral.isAsciiDigit = true) :
    Numeral.digitsValue digits < 10 ^ digits.length := by
  induction digits using List.reverseRecOn with
  | nil => exact Nat.one_pos
  | append_singleton front last inductionHypothesis =>
      rw [List.all_append, Bool.and_eq_true] at areDigits
      have value := inductionHypothesis areDigits.1
      have digit : last.toNat - 48 < 10 := by
        have bounds := areDigits.2
        simp only [List.all_cons, List.all_nil, Bool.and_true, Numeral.isAsciiDigit,
          Bool.and_eq_true, decide_eq_true_eq, Char.le_def, UInt32.le_iff_toNat_le] at bounds
        have top : last.toNat ≤ 57 := bounds.2
        omega
      rw [digitsValue_append, List.length_append, List.length_singleton, Nat.pow_succ]
      omega

theorem naturalDigits_injective {first second : Nat}
    (same : naturalDigits first = naturalDigits second) : first = second := by
  rw [← digitsValue_naturalDigits first, same, digitsValue_naturalDigits]

theorem isAsciiDigit_of_mem {n : Nat} {c : Char} (member : c ∈ naturalDigits n) :
    Numeral.isAsciiDigit c = true := by
  induction n using Nat.strongRecOn with
  | ind n inductionHypothesis =>
      rcases Nat.lt_or_ge n 10 with small | large
      · rw [naturalDigits_small small, List.mem_singleton] at member
        rw [member]
        exact isAsciiDigit_digitChar small
      · rw [naturalDigits_large large, List.mem_append, List.mem_singleton] at member
        rcases member with front | last
        · exact inductionHypothesis (n / 10) (by omega) front
        · rw [last]
          exact isAsciiDigit_digitChar (Nat.mod_lt n (by omega))

theorem naturalDigits_ne_nil (n : Nat) : naturalDigits n ≠ [] := by
  rcases Nat.lt_or_ge n 10 with small | large
  · rw [naturalDigits_small small]
    exact List.cons_ne_nil _ _
  · rw [naturalDigits_large large]
    exact List.append_ne_nil_of_right_ne_nil _ (List.cons_ne_nil _ _)

/-- A number has at most so many digits when it is below the power of ten. -/
theorem length_naturalDigits_le {n count : Nat} :
    (naturalDigits n).length ≤ count + 1 ↔ n < 10 ^ (count + 1) := by
  induction count generalizing n with
  | zero =>
      rcases Nat.lt_or_ge n 10 with small | large
      · simp [naturalDigits_small small, small]
      · have front := List.length_pos_iff.mpr (naturalDigits_ne_nil (n / 10))
        rw [naturalDigits_large large, List.length_append, List.length_singleton]
        omega
  | succ count inductionHypothesis =>
      rcases Nat.lt_or_ge n 10 with small | large
      · have bound : 10 ^ 1 ≤ 10 ^ (count + 1 + 1) := Nat.pow_le_pow_right (by omega) (by omega)
        rw [naturalDigits_small small, List.length_singleton]
        omega
      · rw [naturalDigits_large large, List.length_append, List.length_singleton,
          Nat.add_le_add_iff_right, inductionHypothesis, Nat.div_lt_iff_lt_mul (by omega),
          Nat.pow_succ 10 (count + 1)]

/-- Only zero begins with the digit zero. -/
theorem head_naturalDigits {n : Nat} (positive : 0 < n) {first : Char} {rest : List Char}
    (digits : naturalDigits n = first :: rest) : first ≠ '0' := by
  induction n using Nat.strongRecOn generalizing first rest with
  | ind n inductionHypothesis =>
      rcases Nat.lt_or_ge n 10 with small | large
      · rw [naturalDigits_small small] at digits
        obtain ⟨rfl, -⟩ := List.cons.inj digits
        intro zero
        have code := toNat_digitChar small
        rw [zero] at code
        change 48 = 48 + n at code
        omega
      · rw [naturalDigits_large large] at digits
        cases front : naturalDigits (n / 10) with
        | nil => exact absurd front (naturalDigits_ne_nil _)
        | cons head tail =>
            rw [front, List.cons_append] at digits
            obtain ⟨rfl, -⟩ := List.cons.inj digits
            exact inductionHypothesis (n / 10) (by omega) (by omega) front

/-- A minus sign is no digit. -/
theorem minus_notMem_naturalDigits (n : Nat) : '-' ∉ naturalDigits n := by
  intro member
  exact absurd (isAsciiDigit_of_mem member) (by decide)

theorem colon_notMem_naturalDigits (n : Nat) : ':' ∉ naturalDigits n := by
  intro member
  exact absurd (isAsciiDigit_of_mem member) (by decide)

/-- A number of few digits can be written. -/
theorem isWritable_of_few {n : Int} {digits : Nat} (few : digits ≤ digitLimit)
    (small : n.natAbs < 10 ^ digits) : isWritable n = true := by
  have large (limit : Nat) (enough : digits ≤ limit) : n.natAbs < Nat.pow 10 limit :=
    Nat.lt_of_lt_of_le small (Nat.pow_le_pow_right (by decide) enough)
  exact decide_eq_true (large digitLimit few)

/-- A number of at most ten digits can be written. -/
theorem isWritable_of_lt {n : Int} (small : n.natAbs < 10 ^ 10) : isWritable n = true :=
  isWritable_of_few (by decide) small

/-- A number below one that can be written can be written. -/
theorem isWritable_of_le {m n : Nat} (le : m ≤ n) (writable : isWritable n = true) :
    isWritable m = true := by
  unfold isWritable at writable ⊢
  rw [decide_eq_true_eq, Int.natAbs_natCast] at writable ⊢
  exact Nat.lt_of_le_of_lt le writable

end CodeGraph.Decimal

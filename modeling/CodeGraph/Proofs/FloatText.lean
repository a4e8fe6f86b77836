import CodeGraph.Json.Writer
import CodeGraph.Proofs.NumberText
import Mathlib.Data.List.TakeWhile

/-!
This file says that the text of each number in a document is read as this number.
-/

namespace CodeGraph

namespace Decimal

/-- The digits end in the zeros that are removed. -/
theorem trimZeros_append (digits : List Char) :
    ∃ count, digits = trimZeros digits ++ List.replicate count '0' := by
  have split := List.takeWhile_append_dropWhile (p := (· == '0')) (l := digits.reverse)
  have zeros : digits.reverse.takeWhile (· == '0') =
      List.replicate (digits.reverse.takeWhile (· == '0')).length '0' := by
    refine List.eq_replicate_iff.mpr ⟨rfl, fun c member => ?_⟩
    simpa using List.mem_takeWhile_imp member
  refine ⟨(digits.reverse.takeWhile (· == '0')).length, ?_⟩
  unfold trimZeros
  rw [← List.reverse_replicate, ← zeros, ← List.reverse_append, split, List.reverse_reverse]

/-- The digits of a positive number keep their first one when zeros are removed. -/
theorem trimZeros_naturalDigits {n : Nat} (positive : 0 < n) :
    ∃ first rest, trimZeros (naturalDigits n) = first :: rest ∧ first ≠ '0' := by
  obtain ⟨count, same⟩ := trimZeros_append (naturalDigits n)
  cases trimmed : trimZeros (naturalDigits n) with
  | nil =>
      rw [trimmed, List.nil_append] at same
      cases count with
      | zero => exact absurd same (naturalDigits_ne_nil n)
      | succ count => exact absurd rfl (head_naturalDigits positive same)
  | cons first rest =>
      rw [trimmed, List.cons_append] at same
      exact ⟨first, rest, rfl, head_naturalDigits positive same⟩

end Decimal

namespace Json
open Decimal

/-- A signed exponent is read as the number that it was written from. -/
theorem signedUnits_exponent (exponent : Int) (width : Nat) :
    Binary64.signedUnits ((if exponent < 0 then '-' else '+') == '-')
      (digitsValue (NumberLayout.padded width (naturalDigits exponent.natAbs))) = exponent := by
  unfold NumberLayout.padded
  rw [digitsValue_zeros_append, digitsValue_eq, digitsValue_naturalDigits]
  unfold Binary64.signedUnits
  split
  · rename_i negative
    rw [if_pos (by decide)]
    omega
  · rename_i positive
    rw [if_neg (by decide)]
    omega

theorem areDigits_padded (width n : Nat) :
    AreDigits (NumberLayout.padded width (naturalDigits n)) :=
  (areDigits_zeros _).append (areDigits_naturalDigits n)

theorem padded_ne_nil (width n : Nat) : NumberLayout.padded width (naturalDigits n) ≠ [] := by
  unfold NumberLayout.padded
  intro empty
  exact naturalDigits_ne_nil n (List.append_eq_nil_iff.mp empty).2

section

variable (layout : NumberLayout) (negative : Bool) {digits behind : List Char}

/-- Zeros may follow digits that begin with another one in front of the point. -/
theorem isWhole_append_zeros (areDigits : AreDigits digits)
    (leading : ∃ first rest, digits = first :: rest ∧ first ≠ '0') (zeros : Nat) :
    IsWhole (digits ++ List.replicate zeros '0') where
  areDigits := areDigits.append (areDigits_zeros zeros)
  leading := by
    obtain ⟨first, rest, shape, nonzero⟩ := leading
    exact .inr ⟨first, rest ++ List.replicate zeros '0', by rw [shape]; rfl, nonzero⟩

/-- The front of digits that begin with another one than zero can stand in front of the point. -/
theorem isWhole_take (areDigits : AreDigits digits)
    (leading : ∃ first rest, digits = first :: rest ∧ first ≠ '0') (count : Nat) :
    IsWhole (digits.take (count + 1)) where
  areDigits := areDigits.take _
  leading := by
    obtain ⟨first, rest, shape, nonzero⟩ := leading
    exact .inr ⟨first, rest.take count, by rw [shape]; rfl, nonzero⟩

/-- The digits stand in front of an exponent, with the point behind the first one. -/
theorem readNumber_scientific (areDigits : AreDigits digits)
    (leading : ∃ first rest, digits = first :: rest ∧ first ≠ '0') (power : Int)
    (ends : EndsNumber behind) :
    readNumber negative (digits.take 1 ++
        (pointed (digits.drop 1) ++ 'e' :: (layout.exponentText power ++ behind))) =
      .ok (.float (toBinary64 negative ⟨digitsValue digits, power + 1 - (digits.length : Int)⟩),
        behind) := by
  have read := readNumber_exponent negative behind (if power < 0 then '-' else '+')
    (isWhole_take areDigits leading 0) (areDigits.drop 1) (by split <;> simp)
    (areDigits_padded layout.exponentWidth power.natAbs)
    (padded_ne_nil layout.exponentWidth power.natAbs) ends
  have exponent : power - ((digits.drop 1).length : Int) = power + 1 - digits.length := by
    obtain ⟨first, rest, shape, -⟩ := leading
    rw [shape, List.drop_one, List.tail_cons, List.length_cons]
    omega
  rw [signedUnits_exponent, List.take_append_drop, exponent] at read
  exact read

/-- Zeros stand between the point and the digits. -/
theorem readNumber_zeros_in_front (areDigits : AreDigits digits) (filled : digits ≠ [])
    (zeros : Nat) (ends : EndsNumber behind) :
    readNumber negative ('0' :: '.' :: (List.replicate zeros '0' ++ digits ++ behind)) =
      .ok (.float (toBinary64 negative
        ⟨digitsValue digits, -((zeros + digits.length : Nat) : Int)⟩), behind) := by
  have whole : IsWhole ['0'] := ⟨areDigits_zeros 1, Or.inl rfl⟩
  have read := readNumber_point negative behind whole
    ((areDigits_zeros zeros).append areDigits)
    (fun empty => filled (List.append_eq_nil_iff.mp empty).2) ends
  have value : digitsValue (['0'] ++ (List.replicate zeros '0' ++ digits)) =
      digitsValue digits := by
    have front := digitsValue_zeros_append 1 (List.replicate zeros '0' ++ digits)
    exact front.trans (digitsValue_zeros_append _ digits)
  rw [value, List.length_append, List.length_replicate] at read
  exact read

/-- The point stands behind all digits, with zeros between them. -/
theorem readNumber_zeros_behind (areDigits : AreDigits digits)
    (leading : ∃ first rest, digits = first :: rest ∧ first ≠ '0') (zeros : Nat)
    (ends : EndsNumber behind) :
    readNumber negative (digits ++ List.replicate zeros '0' ++ '.' :: '0' :: behind) =
      .ok (.float (toBinary64 negative ⟨digitsValue digits, zeros⟩), behind) := by
  have read := readNumber_point negative behind (isWhole_append_zeros areDigits leading zeros)
    (areDigits_zeros 1) (by decide) ends
  have value : digitsValue (digits ++ List.replicate zeros '0' ++ List.replicate 1 '0') =
      digitsValue digits * 10 ^ (zeros + 1) := by
    rw [List.append_assoc, List.replicate_append_replicate, digitsValue_append_zeros]
  have exponent : -((1 : Nat) : Int) + ((zeros + 1 : Nat) : Int) = zeros := by omega
  rw [value, List.length_replicate, toBinary64_shift, exponent] at read
  exact read

/-- The point stands between the digits. -/
theorem readNumber_point_between (areDigits : AreDigits digits)
    (leading : ∃ first rest, digits = first :: rest ∧ first ≠ '0') {count : Nat}
    (inside : count + 1 < digits.length) (ends : EndsNumber behind) :
    readNumber negative (digits.take (count + 1) ++ '.' :: (digits.drop (count + 1) ++ behind)) =
      .ok (.float (toBinary64 negative
        ⟨digitsValue digits, ((count + 1 : Nat) : Int) - (digits.length : Int)⟩), behind) := by
  have filled : digits.drop (count + 1) ≠ [] := fun empty =>
    absurd (List.drop_eq_nil_iff.mp empty) (Nat.not_le.mpr inside)
  have read := readNumber_point negative behind (isWhole_take areDigits leading count)
    (areDigits.drop (count + 1)) filled ends
  have exponent : -((digits.drop (count + 1)).length : Int) =
      ((count + 1 : Nat) : Int) - digits.length := by
    rw [List.length_drop]
    omega
  rw [exponent, List.take_append_drop] at read
  exact read

/-- Digits that are set out denote the decimal with the given place of the point. -/
theorem readNumber_digitsText (areDigits : AreDigits digits)
    (leading : ∃ first rest, digits = first :: rest ∧ first ≠ '0') (place : Int)
    (ends : EndsNumber behind) :
    readNumber negative (layout.digitsText digits place ++ behind) =
      .ok (.float (toBinary64 negative ⟨digitsValue digits, place - (digits.length : Int)⟩),
        behind) := by
  unfold NumberLayout.digitsText
  split
  · have read := readNumber_scientific layout negative areDigits leading (place - 1) ends
    rw [Int.sub_add_cancel] at read
    simpa only [pointed, List.append_assoc, List.cons_append] using read
  · split
    · have filled : digits ≠ [] := by
        obtain ⟨first, rest, shape, -⟩ := leading
        exact shape ▸ List.cons_ne_nil _ _
      have read := readNumber_zeros_in_front negative areDigits filled (-place).toNat ends
      have exponent : -(((-place).toNat + digits.length : Nat) : Int) = place - digits.length := by
        omega
      rw [exponent] at read
      simpa only [List.cons_append] using read
    · rename_i positive
      obtain ⟨count, steps⟩ : ∃ count, place.toNat = count + 1 := ⟨place.toNat - 1, by omega⟩
      dsimp only
      by_cases short : digits.length ≤ place.toNat
      · have read := readNumber_zeros_behind negative areDigits leading
          (place.toNat - digits.length) ends
        have exponent : ((place.toNat - digits.length : Nat) : Int) = place - digits.length := by
          omega
        rw [exponent] at read
        rw [List.drop_eq_nil_of_le short, List.take_of_length_le short]
        simpa only [List.isEmpty_nil, if_true, List.append_assoc, List.cons_append,
          List.nil_append] using read
      · have read := readNumber_point_between negative areDigits leading
          (steps ▸ Nat.not_le.mp short) ends
        have isFilled : (digits.drop place.toNat).isEmpty = false := by
          rw [List.isEmpty_eq_false_iff, ne_eq, List.drop_eq_nil_iff]
          exact short
        have zeros : place.toNat - (digits.take place.toNat).length = 0 := by
          rw [List.length_take]
          omega
        have exponent : ((place.toNat : Nat) : Int) = place := by omega
        rw [← steps, exponent] at read
        rw [zeros, isFilled]
        simpa only [Bool.false_eq_true, if_false, List.replicate_zero, List.append_nil,
          List.append_assoc, List.cons_append] using read

end

/-- The text of a magnitude is read as this magnitude. -/
theorem readNumber_magnitude (layout : NumberLayout) (negative : Bool) {units : Nat}
    (representable : Binary64.IsRepresentable units) {behind : List Char}
    (ends : EndsNumber behind) :
    readNumber negative (layout.magnitudeText units ++ behind) =
      .ok (.float (.finite negative units), behind) := by
  unfold NumberLayout.magnitudeText
  by_cases zero : units = 0
  · rw [if_pos zero, zero]
    have whole : IsWhole ['0'] := ⟨areDigits_zeros 1, Or.inl rfl⟩
    have read := readNumber_point negative behind whole (areDigits_zeros 1) (by decide) ends
    exact read
  · rw [if_neg zero]
    dsimp only
    have denoted := shortest_toBinary64 representable zero
    have positive : 0 < (shortest units).digits := by
      rcases Nat.eq_zero_or_pos (shortest units).digits with none | positive
      · unfold toBinary64 at denoted
        rw [if_pos none] at denoted
        injection denoted with _ same
        exact absurd same.symm zero
      · exact positive
    generalize shortest units = decimal at denoted positive
    obtain ⟨digits, exponent⟩ := decimal
    dsimp only at positive ⊢
    obtain ⟨count, trimmed⟩ := trimZeros_append (naturalDigits digits)
    have areDigits : AreDigits (trimZeros (naturalDigits digits)) := fun c member =>
      areDigits_naturalDigits digits c (by
        rw [trimmed]
        exact List.mem_append_left _ member)
    rw [readNumber_digitsText layout negative areDigits (trimZeros_naturalDigits positive) _ ends]
    have value : digits = digitsValue (trimZeros (naturalDigits digits)) * 10 ^ count := by
      rw [← digitsValue_append_zeros, ← trimmed, digitsValue_eq, digitsValue_naturalDigits]
    have length := congrArg List.length trimmed
    rw [List.length_append, List.length_replicate] at length
    have place : ((naturalDigits digits).length : Int) + exponent -
        ((trimZeros (naturalDigits digits)).length : Int) = exponent + count := by omega
    rw [place, ← toBinary64_shift, ← value, toBinary64_sign denoted negative]

end Json

end CodeGraph

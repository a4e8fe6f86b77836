import CodeGraph.Proofs.DigitRun
import CodeGraph.Proofs.ShortestDecimal

/-!
This file says that the text of a number is read as this number, whatever layout its digits are set
out in.
-/

namespace CodeGraph.Json

/-- The whole part of a numeral: digits without needless zeros in front. -/
structure IsWhole (whole : List Char) : Prop where
  areDigits : AreDigits whole
  leading : whole = ['0'] ∨ ∃ first rest, whole = first :: rest ∧ first ≠ '0'

theorem IsWhole.isEmpty_eq {whole : List Char} (isWhole : IsWhole whole) :
    whole.isEmpty = false := by
  rcases isWhole.leading with rfl | ⟨first, rest, rfl, -⟩ <;> rfl

/-- A whole part alone is a whole number. -/
theorem readNumber_whole (negative : Bool) {whole behind : List Char} (isWhole : IsWhole whole)
    (short : whole.length ≤ Decimal.digitLimit) (ends : EndsNumber behind) :
    readNumber negative (whole ++ behind) =
      .ok (.int (Binary64.signedUnits negative (digitsValue whole)), behind) := by
  have run : wholeDigits (whole ++ behind) = whole :=
    wholeDigits_append isWhole.areDigits isWhole.leading fun c rest same => (ends c rest same).1
  have fraction : fractionDigits behind = [] :=
    fractionDigits_none fun c rest same => (ends c rest same).2.1
  have exponent : exponentParts behind = ([], []) :=
    exponentParts_none fun c rest same => (ends c rest same).2.2
  unfold readNumber
  dsimp only
  rw [run, isWhole.isEmpty_eq, List.drop_left, fraction]
  simp only [Bool.false_eq_true, if_false, List.isEmpty_nil, if_true, exponent, Bool.and_self]
  rw [if_neg (Nat.not_lt.mpr short)]

/-- A numeral with a point denotes a decimal. -/
theorem readNumber_point (negative : Bool) {whole fraction : List Char} (behind : List Char)
    (isWhole : IsWhole whole) (fractionDigits : AreDigits fraction) (some : fraction ≠ [])
    (ends : EndsNumber behind) :
    readNumber negative (whole ++ '.' :: (fraction ++ behind)) =
      .ok (.float (Decimal.toBinary64 negative
        ⟨digitsValue (whole ++ fraction), -(fraction.length : Int)⟩), behind) := by
  have run : wholeDigits (whole ++ '.' :: (fraction ++ behind)) = whole :=
    wholeDigits_append isWhole.areDigits isWhole.leading fun c rest same => by
      rw [← (List.cons.inj same).1]
      rfl
  have part := fractionDigits_point fractionDigits fun c rest same => (ends c rest same).1
  have exponent : exponentParts behind = ([], []) :=
    exponentParts_none fun c rest same => (ends c rest same).2.2
  have filled : fraction.isEmpty = false := by
    cases fraction with
    | nil => exact absurd rfl some
    | cons c rest => rfl
  have rest : List.drop (fraction.length + 1) ('.' :: (fraction ++ behind)) = behind := by
    rw [List.drop_succ_cons, List.drop_left]
  unfold readNumber
  dsimp only
  rw [run, isWhole.isEmpty_eq, List.drop_left, part, filled]
  simp only [Bool.false_eq_true, if_false, rest, exponent, Bool.false_and, List.isEmpty_nil,
    if_true]
  have power : Binary64.signedUnits (([] : List Char) == ['-']) (digitsValue []) = 0 := rfl
  rw [power, Int.zero_sub]

/-- The point and the digits behind it; without such digits there is no point. -/
def pointed (fraction : List Char) : List Char :=
  if fraction.isEmpty then [] else '.' :: fraction

theorem fractionDigits_pointed {fraction behind : List Char} (areDigits : AreDigits fraction)
    (ends : ∀ c rest, behind = c :: rest → isDigit c = false ∧ c ≠ '.') :
    fractionDigits (pointed fraction ++ behind) = fraction := by
  unfold pointed
  split
  · rename_i empty
    rw [List.isEmpty_iff.mp empty]
    exact fractionDigits_none fun c rest same => (ends c rest same).2
  · exact fractionDigits_point areDigits fun c rest same => (ends c rest same).1

theorem drop_pointed (fraction behind : List Char) :
    (if fraction.isEmpty = true then pointed fraction ++ behind
      else List.drop (fraction.length + 1) (pointed fraction ++ behind)) = behind := by
  unfold pointed
  split
  · rfl
  · rw [List.cons_append, List.drop_succ_cons, List.drop_left]

/-- A signed exponent reaches to its last digit. -/
theorem exponentParts_signed {sign : Char} (signed : sign = '-' ∨ sign = '+')
    {power behind : List Char} (areDigits : AreDigits power)
    (ends : ∀ c rest, behind = c :: rest → isDigit c = false) :
    exponentParts ('e' :: sign :: (power ++ behind)) = ([sign], power) := by
  have run := digits_append areDigits ends
  rcases signed with rfl | rfl <;> simp [exponentParts, run]

/-- A numeral with an exponent denotes a decimal. -/
theorem readNumber_exponent (negative : Bool) {whole fraction power : List Char}
    (behind : List Char) (sign : Char)
    (isWhole : IsWhole whole) (fractionAreDigits : AreDigits fraction)
    (signed : sign = '-' ∨ sign = '+') (powerAreDigits : AreDigits power) (some : power ≠ [])
    (ends : EndsNumber behind) :
    readNumber negative (whole ++ (pointed fraction ++ 'e' :: sign :: (power ++ behind))) =
      .ok (.float (Decimal.toBinary64 negative ⟨digitsValue (whole ++ fraction),
        Binary64.signedUnits (sign == '-') (digitsValue power) - (fraction.length : Int)⟩),
          behind) := by
  have marked (c : Char) (rest : List Char) (same : 'e' :: sign :: (power ++ behind) = c :: rest) :
      isDigit c = false ∧ c ≠ '.' := by
    rw [← (List.cons.inj same).1]
    decide
  have run : wholeDigits (whole ++ (pointed fraction ++ 'e' :: sign :: (power ++ behind))) =
      whole := by
    refine wholeDigits_append isWhole.areDigits isWhole.leading fun c rest same => ?_
    unfold pointed at same
    split at same
    · exact (marked c rest same).1
    · rw [← (List.cons.inj same).1]
      rfl
  have part := fractionDigits_pointed fractionAreDigits marked
  have exponent := exponentParts_signed signed powerAreDigits
    fun c rest same => (ends c rest same).1
  have filled : power.isEmpty = false := by
    cases power with
    | nil => exact absurd rfl some
    | cons c rest => rfl
  have rest : List.drop (1 + 1 + power.length) ('e' :: sign :: (power ++ behind)) = behind := by
    rw [Nat.add_comm, List.drop_succ_cons, List.drop_succ_cons, List.drop_left]
  have negativePower : ([sign] == ['-']) = (sign == '-') := by
    rcases signed with rfl | rfl <;> rfl
  unfold readNumber
  dsimp only
  rw [run, isWhole.isEmpty_eq, List.drop_left, part, drop_pointed, exponent]
  simp only [Bool.false_eq_true, if_false, filled, Bool.and_false, List.length_singleton, rest,
    negativePower]

end CodeGraph.Json

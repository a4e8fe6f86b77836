import CodeGraph.Proofs.FloatText
import CodeGraph.Proofs.QuotedText

/-!
This file says what a text without lists and objects is read as. All numbers that are "not a number"
have one text, so they are told apart no more.
-/

namespace CodeGraph

/-- The number that the text of a number denotes. -/
def Binary64.unmarked : Binary64 → Binary64
  | .nan _ => .nan 0
  | .infinite negative => .infinite negative
  | .finite negative units => .finite negative units

/-- A finite number is one of double precision. -/
def Binary64.IsWellFormed : Binary64 → Prop
  | .finite _ units => IsRepresentable units
  | _ => True

namespace Decimal

/-- A number that can be written has no more digits than are read. -/
theorem length_le_digitLimit {n : Int} (writable : isWritable n = true) :
    (naturalDigits n.natAbs).length ≤ digitLimit := by
  have general (limit : Nat) (positive : limit ≠ 0) (small : n.natAbs < Nat.pow 10 limit) :
      (naturalDigits n.natAbs).length ≤ limit := by
    obtain ⟨count, rfl⟩ := Nat.exists_eq_succ_of_ne_zero positive
    exact length_naturalDigits_le.mpr small
  exact general digitLimit (by decide) (of_decide_eq_true writable)

end Decimal

namespace Json
open Decimal

theorem isWhole_naturalDigits (n : Nat) : IsWhole (naturalDigits n) := by
  refine ⟨areDigits_naturalDigits n, ?_⟩
  rcases Nat.eq_zero_or_pos n with rfl | positive
  · exact Or.inl (naturalDigits_small (by decide))
  · cases digits : naturalDigits n with
    | nil => exact absurd digits (naturalDigits_ne_nil n)
    | cons first rest => exact Or.inr ⟨first, rest, rfl, head_naturalDigits positive digits⟩

/-- What is read as a number begins with a digit. -/
theorem head_of_readNumber {negative : Bool} {text rest : List Char} {value : Value}
    (read : readNumber negative text = .ok (value, rest)) :
    ∃ first more, text = first :: more ∧ isDigit first = true := by
  cases text with
  | nil => cases read
  | cons first more =>
      refine ⟨first, more, rfl, ?_⟩
      by_cases zero : first = '0'
      · rw [zero]
        rfl
      · have whole : wholeDigits (first :: more) = digits (first :: more) := by
          unfold wholeDigits
          split
          · rename_i same
            exact absurd (List.cons.inj same).1 zero
          · rfl
        cases digit : isDigit first with
        | true => rfl
        | false =>
            have empty : digits (first :: more) = [] := by
              unfold digits
              rw [List.takeWhile_cons, digit]
              rfl
            unfold readNumber at read
            dsimp only at read
            rw [whole, empty] at read
            cases read

/-- No word begins with a digit. -/
theorem readAtom_digit {first : Char} (digit : isDigit first = true) (rest : List Char) :
    readAtom (first :: rest) = readNumber false (first :: rest) := by
  have none : (words.find? fun word => word.1.isPrefixOf (first :: rest)) = none := by
    have apart (other : Char) (noDigit : isDigit other = false) : ¬other = first :=
      fun same => digit_ne digit noDigit same.symm
    simp [words, apart 'n' rfl, apart 't' rfl, apart 'f' rfl, apart 'N' rfl, apart 'I' rfl,
      apart '-' rfl]
  unfold readAtom
  rw [none]
  dsimp only
  split
  · rename_i same
    exact absurd (List.cons.inj same).1 (digit_ne digit rfl)
  · rfl

/-- A minus in front of a digit belongs to a number. -/
theorem readAtom_minus {first : Char} (digit : isDigit first = true) (rest : List Char) :
    readAtom ('-' :: first :: rest) = readNumber true (first :: rest) := by
  have none : (words.find? fun word => word.1.isPrefixOf ('-' :: first :: rest)) = none := by
    have apart : 'I' ≠ first := fun same => digit_ne digit (by rfl) same.symm
    simp [words, apart]
  unfold readAtom
  rw [none]
  rfl

/-- A signed numeral is read with its sign. -/
theorem readAtom_signed {negative : Bool} {text rest : List Char} {value : Value}
    (read : readNumber negative text = .ok (value, rest)) :
    readAtom ((if negative then ['-'] else []) ++ text) = .ok (value, rest) := by
  obtain ⟨first, more, rfl, digit⟩ := head_of_readNumber read
  cases negative with
  | true => exact (readAtom_minus digit more).trans read
  | false => exact (readAtom_digit digit more).trans read

/-- The text of a whole number is read as this number. -/
theorem readAtom_integer {n : Int} (writable : isWritable n = true) {behind : List Char}
    (ends : EndsNumber behind) : readAtom (integerDigits n ++ behind) = .ok (.int n, behind) := by
  have read := readNumber_whole (decide (n < 0)) (isWhole_naturalDigits n.natAbs)
    (length_le_digitLimit writable) ends
  rw [digitsValue_eq, digitsValue_naturalDigits] at read
  have value : Binary64.signedUnits (decide (n < 0)) n.natAbs = n := by
    unfold Binary64.signedUnits
    split
    · rename_i negative
      have sign := of_decide_eq_true negative
      omega
    · rename_i positive
      have sign : ¬n < 0 := fun negative => positive (decide_eq_true negative)
      omega
  rw [value] at read
  have signed := readAtom_signed read
  unfold integerDigits
  by_cases negative : n < 0
  · simpa [negative] using signed
  · simpa [negative] using signed

/-- The text of a number of double precision is read as this number. -/
theorem readAtom_float {number : Binary64} (wellFormed : number.IsWellFormed) {behind : List Char}
    (ends : EndsNumber behind) :
    readAtom (NumberLayout.document.text number ++ behind) =
      .ok (.float number.unmarked, behind) := by
  cases number with
  | nan payload => rfl
  | infinite negative => cases negative <;> rfl
  | finite negative units =>
      have read := readAtom_signed
        (readNumber_magnitude NumberLayout.document negative wellFormed ends)
      unfold NumberLayout.text
      rw [List.append_assoc]
      exact read

end Json

end CodeGraph

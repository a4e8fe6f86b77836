import CodeGraph.Json.Reader
import CodeGraph.Proofs.Digits
import Mathlib.Data.List.TakeWhile
import Mathlib.Tactic.Ring

/-!
This file holds the value of runs of digits: what zeros at either end and a cut in the middle do to
it, and where a run ends in a text.
-/

namespace CodeGraph.Json

/-- Only digits stand in the text. -/
def AreDigits (text : List Char) : Prop := ∀ c ∈ text, isDigit c = true

/-- The text does not go on with a digit, a point or an exponent. -/
def EndsNumber (text : List Char) : Prop :=
  ∀ c rest, text = c :: rest → isDigit c = false ∧ c ≠ '.' ∧ c ≠ 'e' ∧ c ≠ 'E'

/-- A digit is none of the other characters. -/
theorem digit_ne {c other : Char} (digit : isDigit c = true) (apart : isDigit other = false) :
    c ≠ other := by
  rintro rfl
  rw [digit] at apart
  cases apart

theorem AreDigits.append {first second : List Char} (firstDigits : AreDigits first)
    (secondDigits : AreDigits second) : AreDigits (first ++ second) := by
  intro c member
  rcases List.mem_append.mp member with left | right
  · exact firstDigits c left
  · exact secondDigits c right

theorem AreDigits.take {digits : List Char} (areDigits : AreDigits digits) (count : Nat) :
    AreDigits (digits.take count) := fun c member => areDigits c (List.mem_of_mem_take member)

theorem AreDigits.drop {digits : List Char} (areDigits : AreDigits digits) (count : Nat) :
    AreDigits (digits.drop count) := fun c member => areDigits c (List.mem_of_mem_drop member)

theorem areDigits_zeros (count : Nat) : AreDigits (List.replicate count '0') := by
  intro c member
  rw [List.eq_of_mem_replicate member]
  rfl

theorem areDigits_naturalDigits (n : Nat) : AreDigits (Decimal.naturalDigits n) :=
  fun _ member => Decimal.isAsciiDigit_of_mem member

theorem digitsValue_eq (text : List Char) : digitsValue text = Numeral.digitsValue text := rfl

theorem digitsValue_append (first second : List Char) :
    digitsValue (first ++ second) =
      digitsValue first * 10 ^ second.length + digitsValue second := by
  have shifted (start : Nat) : second.foldl (fun value c => 10 * value + (c.toNat - 48)) start =
      start * 10 ^ second.length + digitsValue second := by
    unfold digitsValue
    induction second generalizing start with
    | nil => simp
    | cons c rest inductionHypothesis =>
        rw [List.foldl_cons, List.foldl_cons, inductionHypothesis,
          inductionHypothesis (10 * 0 + (c.toNat - 48)), List.length_cons, Nat.pow_succ]
        ring
  unfold digitsValue
  rw [List.foldl_append, shifted]
  rfl

theorem digitsValue_zeros (count : Nat) : digitsValue (List.replicate count '0') = 0 := by
  induction count with
  | zero => rfl
  | succ count inductionHypothesis =>
      rw [List.replicate_succ', digitsValue_append, inductionHypothesis]
      rfl

/-- Zeros in front do not count. -/
theorem digitsValue_zeros_append (count : Nat) (digits : List Char) :
    digitsValue (List.replicate count '0' ++ digits) = digitsValue digits := by
  rw [digitsValue_append, digitsValue_zeros, Nat.zero_mul, Nat.zero_add]

/-- Each zero at the end makes the value ten times larger. -/
theorem digitsValue_append_zeros (count : Nat) (digits : List Char) :
    digitsValue (digits ++ List.replicate count '0') = digitsValue digits * 10 ^ count := by
  rw [digitsValue_append, digitsValue_zeros, List.length_replicate, Nat.add_zero]

/-- The run of digits ends in front of a character that is no digit. -/
theorem digits_append {run : List Char} (areDigits : AreDigits run) {behind : List Char}
    (ends : ∀ c rest, behind = c :: rest → isDigit c = false) : digits (run ++ behind) = run := by
  unfold digits
  rw [List.takeWhile_append_of_pos areDigits]
  cases behind with
  | nil => simp
  | cons c rest => simp [ends c rest rfl]

/-- The whole part of a number does not begin with a zero, or it is zero alone. -/
theorem wholeDigits_append {run : List Char} (areDigits : AreDigits run)
    (leading : run = ['0'] ∨ ∃ first rest, run = first :: rest ∧ first ≠ '0') {behind : List Char}
    (ends : ∀ c rest, behind = c :: rest → isDigit c = false) :
    wholeDigits (run ++ behind) = run := by
  rcases leading with rfl | ⟨first, rest, rfl, nonzero⟩
  · rfl
  · have whole : wholeDigits (first :: rest ++ behind) = digits (first :: rest ++ behind) := by
      rw [List.cons_append]
      unfold wholeDigits
      split
      · rename_i same
        exact absurd (List.cons.inj same).1 nonzero
      · rfl
    rw [whole, digits_append areDigits ends]

theorem areDigits_digits (text : List Char) : AreDigits (digits text) := by
  intro c member
  exact List.mem_takeWhile_imp member

theorem areDigits_wholeDigits (text : List Char) : AreDigits (wholeDigits text) := by
  unfold wholeDigits
  split
  · exact areDigits_zeros 1
  · exact areDigits_digits text

/-- The fraction reaches from the point to the last digit. -/
theorem fractionDigits_point {run : List Char} (areDigits : AreDigits run) {behind : List Char}
    (ends : ∀ c rest, behind = c :: rest → isDigit c = false) :
    fractionDigits ('.' :: (run ++ behind)) = run :=
  digits_append areDigits ends

theorem fractionDigits_none {text : List Char} (pointless : ∀ c rest, text = c :: rest → c ≠ '.') :
    fractionDigits text = [] := by
  unfold fractionDigits
  split
  · exact absurd rfl (pointless '.' _ rfl)
  · rfl

theorem exponentParts_none {text : List Char}
    (unmarked : ∀ c rest, text = c :: rest → c ≠ 'e' ∧ c ≠ 'E') :
    exponentParts text = ([], []) := by
  cases text with
  | nil => rfl
  | cons c rest =>
      obtain ⟨small, capital⟩ := unmarked c rest rfl
      simp [exponentParts, small, capital]

end CodeGraph.Json

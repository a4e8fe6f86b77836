import CodeGraph.Proofs.RoundTrip

/-!
This file says that a whole document is read as the value that it was written from. The length of
its text bounds the steps of the reading.
-/

namespace CodeGraph

namespace NumberLayout

theorem text_ne_nil (layout : NumberLayout) (named : layout.notANumber ≠ "" ∧ layout.infinity ≠ "")
    (number : Binary64) : layout.text number ≠ [] := by
  have filled {name : String} (some : name ≠ "") : name.toList ≠ [] := fun empty =>
    some (String.toList_eq_nil_iff.mp empty)
  cases number with
  | nan payload => exact filled named.1
  | infinite negative =>
      intro empty
      exact filled named.2 (List.append_eq_nil_iff.mp empty).2
  | finite negative units =>
      intro empty
      have none := (List.append_eq_nil_iff.mp empty).2
      unfold magnitudeText digitsText at none
      split at none
      · cases none
      · dsimp only at none
        split at none
        · simp at none
        · split at none
          · cases none
          · simp at none

end NumberLayout

namespace Value
open Json

theorem length_textBefore (layout : Layout) (depth : Nat) (behind : List Char) (value : Value) :
    (value.textBefore layout depth behind).length =
      (value.textBefore layout depth []).length + behind.length := by
  rw [← List.length_append, ← textBefore_append, List.nil_append]

theorem length_itemsBefore (layout : Layout) (depth : Nat) (behind : List Char)
    (items : List Value) :
    (itemsBefore layout depth behind items).length =
      (itemsBefore layout depth [] items).length + behind.length := by
  rw [← List.length_append, ← itemsBefore_append, List.nil_append]

theorem length_fieldsBefore (layout : Layout) (depth : Nat) (behind : List Char)
    (fields : List (String × Value)) :
    (fieldsBefore layout depth behind fields).length =
      (fieldsBefore layout depth [] fields).length + behind.length := by
  rw [← List.length_append, ← fieldsBefore_append, List.nil_append]

mutual

/-- Each level of a value takes two brackets, and each item takes a character. -/
theorem readSteps_lt (layout : Layout) (depth : Nat) :
    ∀ value : Value, value.readSteps < 3 * (value.textBefore layout depth []).length
  | .null => by simp [readSteps, textBefore]
  | .bool value => by cases value <;> simp [readSteps, textBefore]
  | .int value => by
      have filled : 0 < (Decimal.integerDigits value).length := by
        unfold Decimal.integerDigits
        split
        · exact Nat.zero_lt_succ _
        · exact List.length_pos_iff.mpr (Decimal.naturalDigits_ne_nil _)
      simp only [readSteps, textBefore, List.append_nil]
      omega
  | .float value => by
      have filled : 0 < (NumberLayout.document.text value).length :=
        List.length_pos_iff.mpr (NumberLayout.text_ne_nil _ (by decide) value)
      simp only [readSteps, textBefore, List.append_nil]
      omega
  | .text value => by
      simp only [readSteps, textBefore, Json.quoted, List.append_nil, List.length_cons]
      omega
  | .list [] => by simp [readSteps, itemsReadSteps, textBefore]
  | .list (first :: rest) => by
      have items := itemsReadSteps_le layout (depth + 1) (first :: rest)
      simp only [readSteps, textBefore, List.length_cons]
      rw [length_itemsBefore, List.length_append, List.length_cons]
      omega
  | .object [] => by simp [readSteps, fieldsReadSteps, textBefore]
  | .object (first :: rest) => by
      have fields := fieldsReadSteps_le layout (depth + 1) (first :: rest)
      simp only [readSteps, textBefore, List.length_cons]
      rw [length_fieldsBefore, List.length_append, List.length_cons]
      omega
termination_by structural value => value

theorem itemsReadSteps_le (layout : Layout) (depth : Nat) :
    ∀ items : List Value, itemsReadSteps items ≤ 3 * (itemsBefore layout depth [] items).length
  | [] => Nat.zero_le _
  | value :: rest => by
      have first := readSteps_lt layout depth value
      have others := itemsReadSteps_le layout depth rest
      rw [itemsReadSteps, itemsBefore, List.length_append, length_textBefore, List.length_append]
      omega
termination_by structural items => items

theorem fieldsReadSteps_le (layout : Layout) (depth : Nat) :
    ∀ fields : List (String × Value),
      fieldsReadSteps fields ≤ 3 * (fieldsBefore layout depth [] fields).length
  | [] => Nat.zero_le _
  | (name, value) :: rest => by
      have first := readSteps_lt layout depth value
      have others := fieldsReadSteps_le layout depth rest
      rw [fieldsReadSteps, fieldsBefore, List.length_append, length_textBefore]
      simp only [List.length_append]
      omega
termination_by structural fields => fields

end

/-- A value that can be written is read as the value that its text denotes. -/
theorem read_textAt {layout : Layout} (plain : layout.IsPlain) {value : Value}
    (doubles : value.HasDoubles) (writable : value.IsWritable nestingLimit) (depth : Nat) :
    Json.read (value.textAt layout depth) = .ok value.reread := by
  obtain ⟨c, rest, same, solid, -⟩ :=
    textBefore_head layout depth [] doubles writable
  have start : skipBlanks (value.textAt layout depth) = value.textAt layout depth := by
    unfold textAt
    rw [same, skipBlanks_solid solid]
  have steps := readSteps_lt layout depth value
  have result := readValue_text plain value (3 * (value.textAt layout depth).length + 3) depth []
    doubles writable (by unfold textAt; omega) endsNumber_nil
  unfold Json.read
  rw [start]
  unfold textAt at result ⊢
  rw [result]
  rfl

end Value

end CodeGraph

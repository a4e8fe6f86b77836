import CodeGraph.Metadata
import CodeGraph.Proofs.Digits
import CodeGraph.Proofs.Outcomes

/-!
This file says that the text of a value without line breaks between its items holds printable
characters of ASCII alone. So it stands on one line, and line breaks inside texts are escaped.
-/

namespace CodeGraph

/-- The text has no line break. -/
def IsOneLine (text : List Char) : Prop := '\n' ∉ text

/-- All characters of the text are printable characters of ASCII. -/
def IsPrintable (text : List Char) : Prop := ∀ c ∈ text, ' ' ≤ c ∧ c ≤ '~'

namespace IsPrintable

theorem nil : IsPrintable [] := fun _ member => absurd member List.not_mem_nil

theorem cons {c : Char} {text : List Char} (head : ' ' ≤ c ∧ c ≤ '~') (tail : IsPrintable text) :
    IsPrintable (c :: text) := List.forall_mem_cons.mpr ⟨head, tail⟩

theorem of_all {text : List Char} (all : (text.all fun c => decide (' ' ≤ c ∧ c ≤ '~')) = true) :
    IsPrintable text := fun c member => by simpa using List.all_eq_true.mp all c member

theorem append {first second : List Char} (former : IsPrintable first)
    (latter : IsPrintable second) : IsPrintable (first ++ second) :=
  List.forall_mem_append.mpr ⟨former, latter⟩

/-- A text is printable if all of its characters come from one that is. -/
theorem subset {text whole : List Char} (printable : IsPrintable whole) (inside : text ⊆ whole) :
    IsPrintable text := fun c member => printable c (inside member)

theorem replicate {c : Char} (head : ' ' ≤ c ∧ c ≤ '~') (count : Nat) :
    IsPrintable (List.replicate count c) := by
  intro other member
  rw [List.eq_of_mem_replicate member]
  exact head

/-- No character in front of the blank is printable. -/
theorem notMem {text : List Char} (printable : IsPrintable text) {c : Char} (below : c < ' ') :
    c ∉ text := fun member => absurd (printable c member).1 (Char.not_le.mpr below)

theorem isOneLine {text : List Char} (printable : IsPrintable text) : IsOneLine text :=
  printable.notMem (by decide)

end IsPrintable

namespace Decimal

theorem naturalDigits_isPrintable (n : Nat) : IsPrintable (naturalDigits n) := by
  intro c member
  have digit := isAsciiDigit_of_mem member
  simp only [Numeral.isAsciiDigit, Bool.and_eq_true, decide_eq_true_eq] at digit
  exact ⟨Char.le_trans (by decide) digit.1, Char.le_trans digit.2 (by decide)⟩

theorem integerDigits_isPrintable (n : Int) : IsPrintable (integerDigits n) := by
  unfold integerDigits
  split
  · exact .cons (by decide) (naturalDigits_isPrintable _)
  · exact naturalDigits_isPrintable _

theorem trimZeros_subset (digits : List Char) : trimZeros digits ⊆ digits := by
  intro c member
  have kept := (List.dropWhile_sublist _).subset (List.mem_reverse.mp member)
  exact List.mem_reverse.mp kept

end Decimal

namespace NumberLayout

theorem padded_isPrintable (width : Nat) {digits : List Char} (printable : IsPrintable digits) :
    IsPrintable (padded width digits) :=
  (IsPrintable.replicate (by decide) _).append printable

theorem exponentText_isPrintable (layout : NumberLayout) (exponent : Int) :
    IsPrintable (layout.exponentText exponent) := by
  refine .cons ?_ (padded_isPrintable _ (Decimal.naturalDigits_isPrintable _))
  split <;> decide

theorem digitsText_isPrintable (layout : NumberLayout) {digits : List Char}
    (printable : IsPrintable digits) (place : Int) :
    IsPrintable (layout.digitsText digits place) := by
  have taken (count : Nat) : IsPrintable (digits.take count) :=
    printable.subset (List.take_subset count digits)
  have dropped (count : Nat) : IsPrintable (digits.drop count) :=
    printable.subset (List.drop_subset count digits)
  have fraction (count : Nat) :
      IsPrintable (if (digits.drop count).isEmpty then [] else '.' :: digits.drop count) := by
    split
    · exact .nil
    · exact .cons (by decide) (dropped count)
  unfold digitsText
  split
  · exact ((taken 1).append (fraction 1)).append
      (.cons (by decide) (layout.exponentText_isPrintable _))
  · split
    · refine .cons (by decide) (.cons (by decide) ?_)
      exact (IsPrintable.replicate (by decide) _).append printable
    · refine ((taken _).append (.replicate (by decide) _)).append (.cons (by decide) ?_)
      split
      · exact .cons (by decide) .nil
      · exact dropped _

theorem document_isPrintable (number : Binary64) : IsPrintable (document.text number) := by
  have sign (negative : Bool) : IsPrintable (if negative then ['-'] else []) := by
    cases negative
    · exact .nil
    · exact .cons (by decide) .nil
  cases number with
  | nan payload =>
      change IsPrintable document.notANumber.toList
      exact .of_all (by decide)
  | infinite negative => exact (sign negative).append (.of_all (by decide))
  | finite negative units =>
      refine (sign negative).append ?_
      unfold magnitudeText
      split
      · exact .of_all (by decide)
      · exact digitsText_isPrintable _
          ((Decimal.naturalDigits_isPrintable _).subset (Decimal.trimZeros_subset _)) _

end NumberLayout

namespace Json

theorem hexDigits_isPrintable (width value : Nat) : IsPrintable (hexDigits width value) := by
  induction width generalizing value with
  | zero => exact .nil
  | succ width inductionHypothesis =>
      have digit : ∀ digit < 16, ' ' ≤ hexDigit digit ∧ hexDigit digit ≤ '~' := by decide
      exact (inductionHypothesis _).append (.cons (digit _ (Nat.mod_lt _ (by decide))) .nil)

theorem unitEscape_isPrintable (unit : Nat) : IsPrintable (unitEscape unit) :=
  .cons (by decide) (.cons (by decide) (hexDigits_isPrintable 4 unit))

theorem charText_isPrintable (c : Char) : IsPrintable (charText c) := by
  have escape {mark : Char} (plain : ' ' ≤ mark ∧ mark ≤ '~') : IsPrintable ['\\', mark] :=
    .cons (by decide) (.cons plain .nil)
  unfold charText
  iterate 7
    split
    · exact escape (by decide)
  split
  · rename_i plain
    exact .cons plain .nil
  · intro other member
    obtain ⟨unit, -, inside⟩ := List.mem_flatMap.mp member
    exact unitEscape_isPrintable unit other inside

theorem between_isPrintable {α : Type} (rest : List α) :
    IsPrintable (Layout.line.between rest) := by
  unfold Layout.between
  split
  · exact .nil
  · exact .cons (by decide) (.cons (by decide) .nil)

theorem quoted_isPrintable (text : List Char) : IsPrintable (quoted text) := by
  refine .cons (by decide) (.append (fun other member => ?_) (.cons (by decide) .nil))
  obtain ⟨c, -, inside⟩ := List.mem_flatMap.mp member
  exact charText_isPrintable c other inside

end Json

namespace Value
open Json

mutual

/-- A value that is written on one line adds printable characters to the text behind it. -/
theorem textBefore_isPrintable (depth : Nat) {behind : List Char} (printable : IsPrintable behind) :
    ∀ value : Value, IsPrintable (value.textBefore Layout.line depth behind)
  | .null => .append (.of_all (by decide)) printable
  | .bool value => .append (.of_all (by cases value <;> decide)) printable
  | .int value => .append (Decimal.integerDigits_isPrintable value) printable
  | .float value => .append (NumberLayout.document_isPrintable value) printable
  | .text value => .append (quoted_isPrintable value.toList) printable
  | .list [] | .object [] => .cons (by decide) (.cons (by decide) printable)
  | .list (item :: rest) =>
      .cons (by decide) (itemsBefore_isPrintable (depth + 1) (.cons (by decide) printable)
        (item :: rest))
  | .object (field :: rest) =>
      .cons (by decide) (fieldsBefore_isPrintable (depth + 1) (.cons (by decide) printable)
        (field :: rest))
termination_by structural value => value

theorem itemsBefore_isPrintable (depth : Nat) {behind : List Char}
    (printable : IsPrintable behind) :
    ∀ items : List Value, IsPrintable (itemsBefore Layout.line depth behind items)
  | [] => printable
  | value :: rest =>
      textBefore_isPrintable depth (.append (between_isPrintable rest)
        (itemsBefore_isPrintable depth printable rest)) value
termination_by structural items => items

theorem fieldsBefore_isPrintable (depth : Nat) {behind : List Char}
    (printable : IsPrintable behind) :
    ∀ fields : List (String × Value), IsPrintable (fieldsBefore Layout.line depth behind fields)
  | [] => printable
  | (name, value) :: rest =>
      .append (.append (quoted_isPrintable name.toList)
          (.cons (by decide) (.cons (by decide) .nil)))
        (textBefore_isPrintable depth (.append (between_isPrintable rest)
          (fieldsBefore_isPrintable depth printable rest)) value)
termination_by structural fields => fields

end

theorem lineText_isPrintable (value : Value) : IsPrintable value.lineText :=
  textBefore_isPrintable 0 .nil value

end Value

/-- The canonical text of metadata stands on one line. -/
theorem Metadata.canonicalText_isOneLine {metadata : Metadata} {text : List Char}
    (canonical : metadata.canonicalText = .ok text) : IsOneLine text := by
  obtain ⟨entries, -, written⟩ := Outcome.bind_ok canonical
  split at written
  · cases written
  · exact Except.ok.inj written ▸ (Value.lineText_isPrintable _).isOneLine

end CodeGraph

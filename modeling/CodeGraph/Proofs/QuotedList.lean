import CodeGraph.Json.Shown
import CodeGraph.Proofs.QuotedText
import Mathlib.Algebra.Order.Ring.Nat

/-!
This file says that a list of texts in quotes ends where its bracket closes, and that it shows one
list alone. Each character inside the quotes can be told from the characters behind it.
-/

namespace CodeGraph

namespace Json

/-- The number that hexadecimal digits denote. -/
def hexNumber (digits : List Char) : Nat :=
  digits.foldl (fun value c => value * 16 + (hexValue? c).getD 0) 0

theorem hexNumber_hexDigits {width value : Nat} (small : value < 16 ^ width) :
    hexNumber (hexDigits width value) = value := by
  induction width generalizing value with
  | zero =>
      have none : value = 0 := by simpa using small
      rw [none]
      rfl
  | succ width inductionHypothesis =>
      have front : hexNumber (hexDigits width (value / 16)) = value / 16 :=
        inductionHypothesis (Nat.div_lt_of_lt_mul (by rw [Nat.pow_succ] at small; omega))
      have last : hexValue? (hexDigit (value % 16)) = some (value % 16) :=
        hexValue?_hexDigit (Nat.mod_lt _ (by decide))
      unfold hexNumber at front ⊢
      rw [hexDigits, List.foldl_append, front, List.foldl_cons, List.foldl_nil, last,
        Option.getD_some]
      omega

theorem length_hexDigits (width value : Nat) : (hexDigits width value).length = width := by
  induction width generalizing value with
  | zero => rfl
  | succ width inductionHypothesis => rw [hexDigits, List.length_append, inductionHypothesis]; rfl

end Json

namespace Text
open Json

/-- The character that a hexadecimal code of some width denotes, and what stands behind the code. -/
def coded (width : Nat) (text : List Char) : Char × List Char :=
  (Char.ofNat (hexNumber (text.take width)), text.drop width)

/-- The first character that is shown inside quotes, and what stands behind it. -/
def shownHead? : List Char → Option (Char × List Char)
  | [] => none
  | '\\' :: 'n' :: rest => some ('\n', rest)
  | '\\' :: 'r' :: rest => some ('\r', rest)
  | '\\' :: 't' :: rest => some ('\t', rest)
  | '\\' :: 'x' :: rest => some (coded 2 rest)
  | '\\' :: 'u' :: rest => some (coded 4 rest)
  | '\\' :: 'U' :: rest => some (coded 8 rest)
  | '\\' :: c :: rest => some (c, rest)
  | c :: rest => some (c, rest)

theorem coded_hexDigits (width : Nat) {c : Char} (small : c.toNat < 16 ^ width)
    (rest : List Char) : coded width (hexDigits width c.toNat ++ rest) = (c, rest) := by
  have length := length_hexDigits width c.toNat
  rw [coded, List.take_left' length, List.drop_left' length, hexNumber_hexDigits small,
    Char.ofNat_toNat]

/-- The text stands between two of these marks. -/
def IsQuote (quote : Char) : Prop := quote = '\'' ∨ quote = '"'

theorem quoteFor_isQuote (text : List Char) : IsQuote (quoteFor text) := by
  unfold quoteFor
  split
  · exact Or.inr rfl
  · exact Or.inl rfl

theorem shownHead?_plain {c : Char} (plain : c ≠ '\\') (rest : List Char) :
    shownHead? (c :: rest) = some (c, rest) := by
  unfold shownHead?
  split <;> simp_all

/-- A character that is shown inside quotes is found again. -/
theorem shownHead?_shownChar {quote : Char} (isQuote : IsQuote quote) (c : Char)
    (rest : List Char) : shownHead? (shownChar quote c ++ rest) = some (c, rest) := by
  unfold shownChar
  split
  · rename_i escaped
    rcases escaped with rfl | rfl
    · rcases isQuote with rfl | rfl <;> rfl
    · rfl
  · rename_i unescaped
    split
    · rename_i newline
      rw [newline]
      rfl
    · split
      · rename_i carriage
        rw [carriage]
        rfl
      · split
        · rename_i tab
          rw [tab]
          rfl
        · split
          · exact shownHead?_plain (fun same => unescaped (Or.inr same)) rest
          · unfold codeEscape
            split
            · rename_i small
              exact congrArg some (coded_hexDigits 2 small rest)
            · split
              · rename_i small
                exact congrArg some (coded_hexDigits 4 small rest)
              · have small : c.toNat < 16 ^ 8 := by
                  rcases toNat_valid c with low | ⟨-, high⟩ <;> omega
                exact congrArg some (coded_hexDigits 8 small rest)

/-- No character inside quotes begins with the closing mark. -/
theorem shownChar_ne_quote {quote : Char} (isQuote : IsQuote quote) (c : Char)
    (rest more : List Char) : shownChar quote c ++ rest ≠ quote :: more := by
  have apart : quote ≠ '\\' := by rcases isQuote with rfl | rfl <;> decide
  intro same
  have heads := congrArg shownHead? same
  rw [shownHead?_shownChar isQuote, shownHead?_plain apart] at heads
  -- Only the mark itself could begin like this, and it is escaped.
  obtain ⟨rfl, -⟩ := Prod.mk.inj (Option.some.inj heads)
  rw [shownChar, if_pos (Or.inl rfl)] at same
  exact apart (List.cons.inj same).1.symm

/-- The characters inside quotes end at the closing mark. -/
theorem shown_inj {quote : Char} (isQuote : IsQuote quote) {first second rest more : List Char}
    (same : first.flatMap (shownChar quote) ++ quote :: rest =
      second.flatMap (shownChar quote) ++ quote :: more) : first = second ∧ rest = more := by
  induction first generalizing second with
  | nil =>
      cases second with
      | nil => exact ⟨rfl, (List.cons.inj same).2⟩
      | cons c others =>
          rw [List.flatMap_cons, List.append_assoc] at same
          exact absurd same.symm (shownChar_ne_quote isQuote c _ _)
  | cons c others inductionHypothesis =>
      cases second with
      | nil =>
          rw [List.flatMap_cons, List.append_assoc] at same
          exact absurd same (shownChar_ne_quote isQuote c _ _)
      | cons other behind =>
          rw [List.flatMap_cons, List.flatMap_cons, List.append_assoc, List.append_assoc] at same
          have heads := congrArg shownHead? same
          rw [shownHead?_shownChar isQuote, shownHead?_shownChar isQuote] at heads
          obtain ⟨rfl, tails⟩ := Prod.mk.inj (Option.some.inj heads)
          obtain ⟨rfl, ends⟩ := inductionHypothesis tails
          exact ⟨rfl, ends⟩

/-- A text in quotes ends at its closing mark, and it shows one text alone. -/
theorem quoted_inj {first second rest more : List Char}
    (same : quoted first ++ rest = quoted second ++ more) : first = second ∧ rest = more := by
  simp only [quoted, List.cons_append, List.append_assoc, List.nil_append] at same
  obtain ⟨marks, inside⟩ := List.cons.inj same
  rw [← marks] at inside
  exact shown_inj (quoteFor_isQuote first) inside

end Text

namespace Value

theorem quotedItems_text_cons (text : String) (texts : List String) (behind : List Char) :
    quotedItems ((text :: texts).map .text) ++ ']' :: behind =
      Text.quoted text.toList ++ ((if texts.isEmpty then [] else [',', ' ']) ++
        (quotedItems (texts.map .text) ++ ']' :: behind)) := by
  simp [quotedItems, quotedText]

/-- The texts of a list end at its closing bracket. -/
theorem quotedItems_inj {first second : List String} {rest more : List Char}
    (same : quotedItems (first.map .text) ++ ']' :: rest =
      quotedItems (second.map .text) ++ ']' :: more) : first = second ∧ rest = more := by
  have bracket (text : String) (behind others : List Char) :
      Text.quoted text.toList ++ behind ≠ ']' :: others := by
    intro same
    have mark := (List.cons.inj same).1
    rcases Text.quoteFor_isQuote text.toList with quote | quote <;> rw [quote] at mark <;>
      exact absurd mark (by decide)
  induction first generalizing second with
  | nil =>
      cases second with
      | nil => exact ⟨rfl, (List.cons.inj same).2⟩
      | cons text others =>
          rw [quotedItems_text_cons] at same
          exact absurd same.symm (bracket _ _ _)
  | cons text texts inductionHypothesis =>
      cases second with
      | nil =>
          rw [quotedItems_text_cons] at same
          exact absurd same (bracket _ _ _)
      | cons other others =>
          rw [quotedItems_text_cons, quotedItems_text_cons] at same
          obtain ⟨head, tails⟩ := Text.quoted_inj same
          obtain rfl := String.toList_inj.mp head
          cases texts with
          | nil =>
              cases others with
              | nil => exact ⟨rfl, (List.cons.inj tails).2⟩
              | cons next behind => exact absurd (List.cons.inj tails).1 (by decide)
          | cons next behind =>
              cases others with
              | nil => exact absurd (List.cons.inj tails).1 (by decide)
              | cons next' behind' =>
                  have items := (List.cons.inj (List.cons.inj tails).2).2
                  obtain ⟨texts, ends⟩ := inductionHypothesis items
                  exact ⟨congrArg _ texts, ends⟩

/-- A list of texts shows this list alone and ends at its closing bracket. -/
theorem quotedText_list_inj {first second : List String} {rest more : List Char}
    (same : (Value.list (first.map .text)).quotedText ++ rest =
      (Value.list (second.map .text)).quotedText ++ more) : first = second ∧ rest = more := by
  simp only [quotedText, List.cons_append, List.append_assoc] at same
  exact quotedItems_inj (List.cons.inj same).2

end Value

end CodeGraph

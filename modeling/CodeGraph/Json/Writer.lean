import CodeGraph.Fault
import CodeGraph.Json.Value

/-!
This file holds the text of documents. It is ASCII alone: every other character is written as the
code units of UTF-16 in hexadecimal. A value that nests too deeply or has a number of too many
digits cannot be written.
-/

namespace CodeGraph

namespace Json

/-- The hexadecimal digit of a value below sixteen. -/
def hexDigit (value : Nat) : Char :=
  if value < 10 then Char.ofNat (48 + value) else Char.ofNat (87 + value)

/-- The hexadecimal digits of a number in a fixed width. -/
def hexDigits : Nat → Nat → List Char
  | 0, _ => []
  | width + 1, value => hexDigits width (value / 16) ++ [hexDigit (value % 16)]

def unitEscape (unit : Nat) : List Char := '\\' :: 'u' :: hexDigits 4 unit

/-- The code units of UTF-16 of one character. -/
def codeUnits (c : Char) : List Nat :=
  if c.toNat < 0x10000 then [c.toNat]
  else [0xD800 + (c.toNat - 0x10000) / 0x400, 0xDC00 + (c.toNat - 0x10000) % 0x400]

/-- The text of one character inside quotes. -/
def charText (c : Char) : List Char :=
  if c = '"' then ['\\', '"']
  else if c = '\\' then ['\\', '\\']
  else if c = '\n' then ['\\', 'n']
  else if c = '\r' then ['\\', 'r']
  else if c = '\t' then ['\\', 't']
  else if c = '\x08' then ['\\', 'b']
  else if c = '\x0c' then ['\\', 'f']
  else if ' ' ≤ c ∧ c ≤ '~' then [c]
  else (codeUnits c).flatMap unitEscape

def quoted (text : List Char) : List Char := '"' :: (text.flatMap charText ++ ['"'])

/-- How the items of a list or an object are set apart. -/
structure Layout where
  /-- This stands in front of each item at a depth. -/
  lead : Nat → List Char
  /-- This stands behind each item but the last. -/
  separator : List Char
  /-- This stands in front of the closing bracket at a depth. -/
  close : Nat → List Char

/-- This stands between an item and the rest of the items. -/
def Layout.between {α : Type} (layout : Layout) (rest : List α) : List Char :=
  if rest.isEmpty then [] else layout.separator

/-- All items stand on one line. -/
def Layout.line : Layout where
  lead := fun _ => []
  separator := [',', ' ']
  close := fun _ => []

/-- Each item stands on a line of its own, indented by two spaces for each level. -/
def Layout.indented : Layout where
  lead := fun depth => '\n' :: List.replicate (2 * depth) ' '
  separator := [',']
  close := fun depth => '\n' :: List.replicate (2 * depth) ' '

end Json

namespace Value
open Json

mutual

/-- The reason why a value cannot be written, if there is one; `room` is the number of levels that
may still be opened. -/
def writeDefect? (room : Nat) : Value → Option Defect
  | .int value => if Decimal.isWritable value then none else some .tooManyDigits
  | .list items => if room = 0 then some .tooDeep else itemsWriteDefect? (room - 1) items
  | .object fields => if room = 0 then some .tooDeep else fieldsWriteDefect? (room - 1) fields
  | _ => none
termination_by structural value => value

def itemsWriteDefect? (room : Nat) : List Value → Option Defect
  | [] => none
  | value :: rest => (value.writeDefect? room).or (itemsWriteDefect? room rest)
termination_by structural items => items

def fieldsWriteDefect? (room : Nat) : List (String × Value) → Option Defect
  | [] => none
  | (_, value) :: rest => (value.writeDefect? room).or (fieldsWriteDefect? room rest)
termination_by structural fields => fields

end

mutual

/-- The text of a value at a depth, in front of the text behind it. -/
def textBefore (layout : Layout) (depth : Nat) (behind : List Char) : Value → List Char
  | .null => "null".toList ++ behind
  | .bool value => (if value then "true" else "false").toList ++ behind
  | .int value => Decimal.integerDigits value ++ behind
  | .float value => NumberLayout.document.text value ++ behind
  | .text value => quoted value.toList ++ behind
  | .list [] => '[' :: ']' :: behind
  | .list (first :: rest) =>
      '[' :: itemsBefore layout (depth + 1) (layout.close depth ++ ']' :: behind) (first :: rest)
  | .object [] => '{' :: '}' :: behind
  | .object (first :: rest) =>
      '{' :: fieldsBefore layout (depth + 1) (layout.close depth ++ '}' :: behind) (first :: rest)
termination_by structural value => value

def itemsBefore (layout : Layout) (depth : Nat) (behind : List Char) : List Value → List Char
  | [] => behind
  | value :: rest =>
      layout.lead depth ++ value.textBefore layout depth
        (layout.between rest ++ itemsBefore layout depth behind rest)
termination_by structural items => items

def fieldsBefore (layout : Layout) (depth : Nat) (behind : List Char) :
    List (String × Value) → List Char
  | [] => behind
  | (name, value) :: rest =>
      layout.lead depth ++ quoted name.toList ++ [':', ' '] ++ value.textBefore layout depth
        (layout.between rest ++ fieldsBefore layout depth behind rest)
termination_by structural fields => fields

end

mutual

/-- What stands behind a value has no influence on its text. -/
theorem textBefore_append (layout : Layout) (depth : Nat) (first second : List Char) :
    ∀ value : Value, value.textBefore layout depth (first ++ second) =
      value.textBefore layout depth first ++ second
  | .null | .bool _ | .int _ | .float _ | .text _ => by
      simp only [textBefore, List.append_assoc]
  | .list [] | .object [] => by simp only [textBefore, List.cons_append]
  | .list (item :: rest) => by
      have inside := itemsBefore_append layout (depth + 1) (layout.close depth ++ ']' :: first)
        second (item :: rest)
      simp only [List.append_assoc, List.cons_append] at inside
      simp only [textBefore, inside, List.cons_append]
  | .object (field :: rest) => by
      have inside := fieldsBefore_append layout (depth + 1) (layout.close depth ++ '}' :: first)
        second (field :: rest)
      simp only [List.append_assoc, List.cons_append] at inside
      simp only [textBefore, inside, List.cons_append]
termination_by structural value => value

theorem itemsBefore_append (layout : Layout) (depth : Nat) (first second : List Char) :
    ∀ items : List Value, itemsBefore layout depth (first ++ second) items =
      itemsBefore layout depth first items ++ second
  | [] => rfl
  | value :: rest => by
      simp only [itemsBefore, itemsBefore_append layout depth first second rest,
        ← List.append_assoc, textBefore_append layout depth _ second value]
termination_by structural items => items

theorem fieldsBefore_append (layout : Layout) (depth : Nat) (first second : List Char) :
    ∀ fields : List (String × Value), fieldsBefore layout depth (first ++ second) fields =
      fieldsBefore layout depth first fields ++ second
  | [] => rfl
  | (_, value) :: rest => by
      simp only [fieldsBefore, fieldsBefore_append layout depth first second rest,
        ← List.append_assoc, textBefore_append layout depth _ second value]
termination_by structural fields => fields

end

/-- The text of a value at a depth. -/
def textAt (layout : Layout) (depth : Nat) (value : Value) : List Char :=
  value.textBefore layout depth []

/-- The text of a value on one line. -/
def lineText (value : Value) : List Char := value.textAt Layout.line 0

/-- The text of a value over many lines. -/
def indentedText (value : Value) : List Char := value.textAt Layout.indented 0

mutual

/-- The text in front of the place where a value cannot be written. -/
def begunText (layout : Layout) (room depth : Nat) : Value → List Char
  | .list items => if room = 0 then [] else '[' :: begunItems layout (room - 1) (depth + 1) items
  | .object fields =>
      if room = 0 then [] else '{' :: begunFields layout (room - 1) (depth + 1) fields
  | _ => []
termination_by structural value => value

def begunItems (layout : Layout) (room depth : Nat) : List Value → List Char
  | [] => []
  | value :: rest =>
      layout.lead depth ++
        if (value.writeDefect? room).isSome then value.begunText layout room depth
        else value.textAt layout depth ++ layout.between rest ++ begunItems layout room depth rest
termination_by structural items => items

def begunFields (layout : Layout) (room depth : Nat) : List (String × Value) → List Char
  | [] => []
  | (name, value) :: rest =>
      layout.lead depth ++ quoted name.toList ++ [':', ' '] ++
        if (value.writeDefect? room).isSome then value.begunText layout room depth
        else value.textAt layout depth ++ layout.between rest ++ begunFields layout room depth rest
termination_by structural fields => fields

end

end Value

end CodeGraph

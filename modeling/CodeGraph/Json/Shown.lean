import CodeGraph.Json.Writer
import CodeGraph.Text.Printable

/-!
This file holds the text of values inside messages, where a reader has to tell `'1'` from `1`. A
value that nests too deeply or has a number of too many digits cannot be shown, and the message that
needs it is a defect.
-/

namespace CodeGraph

namespace Text

/-- A text that holds an apostrophe and no quotation mark is shown in quotation marks. -/
def quoteFor (text : List Char) : Char :=
  if text.contains '\'' && !text.contains '"' then '"' else '\''

/-- The hexadecimal code of a character that is not printable. -/
def codeEscape (c : Char) : List Char :=
  if c.toNat < 0x100 then '\\' :: 'x' :: Json.hexDigits 2 c.toNat
  else if c.toNat < 0x10000 then '\\' :: 'u' :: Json.hexDigits 4 c.toNat
  else '\\' :: 'U' :: Json.hexDigits 8 c.toNat

/-- One character inside the quotes. -/
def shownChar (quote : Char) (c : Char) : List Char :=
  if c = quote ∨ c = '\\' then ['\\', c]
  else if c = '\n' then ['\\', 'n']
  else if c = '\r' then ['\\', 'r']
  else if c = '\t' then ['\\', 't']
  else if isPrintableChar c then [c]
  else codeEscape c

/-- The text in quotes. -/
def quoted (text : List Char) : List Char :=
  let quote := quoteFor text
  quote :: (text.flatMap (shownChar quote) ++ [quote])

end Text

namespace Value

mutual

/-- The text of a value with quotes around every text. -/
def quotedText : Value → List Char
  | .null => "None".toList
  | .bool value => (if value then "True" else "False").toList
  | .int value => Decimal.integerDigits value
  | .float value => NumberLayout.plain.text value
  | .text value => Text.quoted value.toList
  | .list items => '[' :: (quotedItems items ++ [']'])
  | .object fields => '{' :: (quotedFields fields ++ ['}'])
termination_by structural value => value

def quotedItems : List Value → List Char
  | [] => []
  | value :: rest =>
      value.quotedText ++ (if rest.isEmpty then [] else [',', ' ']) ++ quotedItems rest
termination_by structural items => items

def quotedFields : List (String × Value) → List Char
  | [] => []
  | (name, value) :: rest =>
      Text.quoted name.toList ++ [':', ' '] ++ value.quotedText ++
        (if rest.isEmpty then [] else [',', ' ']) ++ quotedFields rest
termination_by structural fields => fields

end

/-- The value as a message quotes it. -/
def quoted (value : Value) : String := String.ofList value.quotedText

/-- The value as a message names it: a text stands as it is. -/
def shown : Value → String
  | .text value => value
  | value => value.quoted

/-- The lists and objects of a shown value nest at most so deep. The limit is the one of calls
within calls, less those that lead to the message. -/
def shownLimit : Nat := 990

/-- An outcome for which a value has to be shown first. -/
def whenShown {α : Type} (value : Value) (outcome : Outcome α) : Outcome α :=
  match value.writeDefect? shownLimit with
  | some cause => crash cause
  | none => outcome

@[simp] theorem whenShown_text {α : Type} (text : String) (outcome : Outcome α) :
    (Value.text text).whenShown outcome = outcome := rfl

end Value

end CodeGraph

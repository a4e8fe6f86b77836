import CodeGraph.Fault
import CodeGraph.Json.Value

/-!
This file holds the reading of documents. A text is either refused or has one value, and of the
fields of one name the last one counts. The texts of values are those that UTF-8 can encode, so an
escaped surrogate without its partner ends the reading with a fault of its own.
-/

namespace CodeGraph.Json

/-- The reasons to refuse a text. -/
inductive ReadFault where
  /-- The text does not follow the grammar. -/
  | malformed
  /-- A whole number has more digits than are converted. -/
  | tooManyDigits
  /-- A list or an object stands within too many others. -/
  | tooDeep
  /-- A text holds a surrogate without its partner. -/
  | unpaired
  deriving DecidableEq, Inhabited, Repr

/-- Lists and objects are nested in each other at most so deep. The limit is the one of calls within
calls, less those that lead to the reader. -/
def nestingLimit : Nat := 990

/-- Reading gives a result and the rest of the text. -/
abbrev Reading (α : Type) : Type := Except ReadFault (α × List Char)

def isBlank (c : Char) : Bool := c == ' ' || c == '\t' || c == '\n' || c == '\r'

def skipBlanks (text : List Char) : List Char := text.dropWhile isBlank

def isDigit (c : Char) : Bool := '0' ≤ c && c ≤ '9'

/-- The value of a hexadecimal digit. -/
def hexValue? (c : Char) : Option Nat :=
  if '0' ≤ c ∧ c ≤ '9' then some (c.toNat - 48)
  else if 'a' ≤ c ∧ c ≤ 'f' then some (c.toNat - 87)
  else if 'A' ≤ c ∧ c ≤ 'F' then some (c.toNat - 55)
  else none

/-- The code unit that four hexadecimal digits denote. -/
def codeUnit? (first second third fourth : Char) : Option Nat :=
  match hexValue? first, hexValue? second, hexValue? third, hexValue? fourth with
  | some a, some b, some c, some d => some (((a * 16 + b) * 16 + c) * 16 + d)
  | _, _, _, _ => none

def isHighSurrogate (unit : Nat) : Bool := 0xD800 ≤ unit && unit < 0xDC00

def isLowSurrogate (unit : Nat) : Bool := 0xDC00 ≤ unit && unit < 0xE000

/-- The character of two code units. -/
def pairChar (high low : Nat) : Char :=
  Char.ofNat (0x10000 + (high - 0xD800) * 0x400 + (low - 0xDC00))

/-- The characters that code units denote, unless a surrogate stands without its partner. -/
def unitChars? : List Nat → Option (List Char)
  | [] => some []
  | [unit] => if isHighSurrogate unit || isLowSurrogate unit then none else some [Char.ofNat unit]
  | first :: second :: rest =>
      if isHighSurrogate first && isLowSurrogate second then
        (unitChars? rest).map (pairChar first second :: ·)
      else if isHighSurrogate first || isLowSurrogate first then none
      else (unitChars? (second :: rest)).map (Char.ofNat first :: ·)

/-- The code of a single letter behind a backslash. -/
def escapedUnit? (c : Char) : Option Nat :=
  if c = '"' then some 0x22
  else if c = '\\' then some 0x5C
  else if c = '/' then some 0x2F
  else if c = 'b' then some 0x08
  else if c = 'f' then some 0x0C
  else if c = 'n' then some 0x0A
  else if c = 'r' then some 0x0D
  else if c = 't' then some 0x09
  else none

/-- This adds a unit in front of the units that are read. -/
def consUnit (unit : Nat) (reading : Reading (List Nat)) : Reading (List Nat) :=
  reading.map fun read => (unit :: read.1, read.2)

/-- The code units up to the closing quote; a character that is written as it is counts as one. -/
def readUnits : List Char → Reading (List Nat)
  | [] => .error .malformed
  | '"' :: rest => .ok ([], rest)
  | '\\' :: 'u' :: a :: b :: c :: d :: rest =>
      match codeUnit? a b c d with
      | some unit => consUnit unit (readUnits rest)
      | none => .error .malformed
  | '\\' :: c :: rest =>
      match escapedUnit? c with
      | some unit => consUnit unit (readUnits rest)
      | none => .error .malformed
  | c :: rest =>
      if c < ' ' || c == '\\' then .error .malformed else consUnit c.toNat (readUnits rest)

/-- The characters up to the closing quote. -/
def readQuoted (text : List Char) : Reading (List Char) :=
  match readUnits text with
  | .error fault => .error fault
  | .ok (units, rest) =>
      match unitChars? units with
      | some chars => .ok (chars, rest)
      | none => .error .unpaired

/-- The digits in front of a text. -/
def digits (text : List Char) : List Char := text.takeWhile isDigit

def digitsValue (digits : List Char) : Nat :=
  digits.foldl (fun value c => 10 * value + (c.toNat - 48)) 0

/-- The whole part of a number: a zero stands alone. -/
def wholeDigits (text : List Char) : List Char :=
  match text with
  | '0' :: _ => ['0']
  | _ => digits text

/-- The digits behind a decimal point; a point without digits does not belong to the number. -/
def fractionDigits (text : List Char) : List Char :=
  match text with
  | '.' :: rest => digits rest
  | _ => []

/-- The sign and the digits of an exponent; a mark without digits does not belong to the number. -/
def exponentParts (text : List Char) : List Char × List Char :=
  match text with
  | mark :: rest =>
      if mark == 'e' || mark == 'E' then
        match rest with
        | '-' :: behind => (['-'], digits behind)
        | '+' :: behind => (['+'], digits behind)
        | _ => ([], digits rest)
      else ([], [])
  | [] => ([], [])

/-- A number with a fraction or an exponent is of double precision, any other one is whole. -/
def readNumber (negative : Bool) (text : List Char) : Reading Value :=
  let whole := wholeDigits text
  if whole.isEmpty then .error .malformed
  else
    let behindWhole := text.drop whole.length
    let fraction := fractionDigits behindWhole
    let behindFraction :=
      if fraction.isEmpty then behindWhole else behindWhole.drop (fraction.length + 1)
    let exponent := exponentParts behindFraction
    if fraction.isEmpty && exponent.2.isEmpty then
      if Decimal.digitLimit < whole.length then .error .tooManyDigits
      else .ok (.int (Binary64.signedUnits negative (digitsValue whole)), behindWhole)
    else
      let rest :=
        if exponent.2.isEmpty then behindFraction
        else behindFraction.drop (1 + exponent.1.length + exponent.2.length)
      let power := Binary64.signedUnits (exponent.1 == ['-']) (digitsValue exponent.2)
      .ok (.float (Decimal.toBinary64 negative
        ⟨digitsValue (whole ++ fraction), power - (fraction.length : Int)⟩), rest)

/-- The words that stand for a value. -/
def words : List (List Char × Value) := [
  ("null".toList, .null),
  ("true".toList, .bool true),
  ("false".toList, .bool false),
  ("NaN".toList, .float (.nan 0)),
  ("Infinity".toList, .float (.infinite false)),
  ("-Infinity".toList, .float (.infinite true))]

/-- The word or number in front of a text. -/
def readAtom (text : List Char) : Reading Value :=
  match words.find? fun word => word.1.isPrefixOf text with
  | some word => .ok (word.2, text.drop word.1.length)
  | none =>
      match text with
      | '-' :: rest => readNumber true rest
      | _ => readNumber false text

mutual

/-- The value in front of a text, which has no blanks there; `room` is the number of levels that may
still be opened. -/
def readValue : Nat → Nat → List Char → Reading Value
  | 0, _, _ => .error .malformed
  | fuel + 1, room, text =>
      match text with
      | '"' :: rest => (readQuoted rest).map fun read => (.text (String.ofList read.1), read.2)
      | '[' :: rest => if room = 0 then .error .tooDeep else readList fuel (room - 1) rest
      | '{' :: rest => if room = 0 then .error .tooDeep else readObject fuel (room - 1) rest
      | _ => readAtom text

/-- The list of an opening bracket that is read already. -/
def readList : Nat → Nat → List Char → Reading Value
  | 0, _, _ => .error .malformed
  | fuel + 1, room, text =>
      match skipBlanks text with
      | ']' :: behind => .ok (.list [], behind)
      | inside => (readItems fuel room inside).map fun read => (.list read.1, read.2)

/-- The object of an opening bracket that is read already. -/
def readObject : Nat → Nat → List Char → Reading Value
  | 0, _, _ => .error .malformed
  | fuel + 1, room, text =>
      match skipBlanks text with
      | '}' :: behind => .ok (.object [], behind)
      | inside => (readFields fuel room [] inside).map fun read => (.object read.1, read.2)

/-- The items of a list up to its closing bracket. -/
def readItems : Nat → Nat → List Char → Reading (List Value)
  | 0, _, _ => .error .malformed
  | fuel + 1, room, text =>
      match readValue fuel room text with
      | .error fault => .error fault
      | .ok (value, behind) =>
          match skipBlanks behind with
          | ']' :: rest => .ok ([value], rest)
          | ',' :: rest =>
              (readItems fuel room (skipBlanks rest)).map fun read => (value :: read.1, read.2)
          | _ => .error .malformed

/-- The fields of an object up to its closing bracket; `known` holds the earlier ones. -/
def readFields : Nat → Nat → List (String × Value) → List Char →
    Reading (List (String × Value))
  | 0, _, _, _ => .error .malformed
  | fuel + 1, room, known, text =>
      match text with
      | '"' :: rest =>
          match readQuoted rest with
          | .error fault => .error fault
          | .ok (name, behindName) =>
              match skipBlanks behindName with
              | ':' :: behindColon =>
                  match readValue fuel room (skipBlanks behindColon) with
                  | .error fault => .error fault
                  | .ok (value, behind) =>
                      let fields := Value.setField (String.ofList name) value known
                      match skipBlanks behind with
                      | '}' :: rest => .ok (fields, rest)
                      | ',' :: rest => readFields fuel room fields (skipBlanks rest)
                      | _ => .error .malformed
              | _ => .error .malformed
      | _ => .error .malformed

end

/-- The value of a whole text. Each level of nesting and each item takes at least one character, and
a level is read in three steps, so the length of the text bounds the reading. -/
def read (text : List Char) : Except ReadFault Value :=
  match readValue (3 * text.length + 3) nestingLimit (skipBlanks text) with
  | .error fault => .error fault
  | .ok (value, rest) => if (skipBlanks rest).isEmpty then .ok value else .error .malformed

/-- The value of a document that an extractor or an earlier run left behind. A text that is no
document is the given fault of whoever wrote it, and a document past the limits is a defect. -/
def readDocument (malformed : Fault) (text : List Char) : Outcome Value :=
  match read text with
  | .ok value => .ok value
  | .error .malformed => .error malformed
  | .error .tooManyDigits => crash .tooManyDigits
  | .error .tooDeep => crash .tooDeep
  | .error .unpaired => crash .unpairedSurrogate

end CodeGraph.Json

/-!
This file holds sets of characters that are given as ranges of code points, the blank characters
among them, and the removal of blanks around a text.
-/

namespace CodeGraph

/-- Both ends belong to the range. -/
abbrev CharRange : Type := Nat × Nat

/-- The code point lies in one of the ranges. -/
def CharRange.covers (ranges : List CharRange) (codePoint : Nat) : Bool :=
  ranges.any fun range => range.1 ≤ codePoint && codePoint ≤ range.2

/-- The separators of Unicode together with the control characters that separate text. -/
def blankRanges : List CharRange := [
  (0x9, 0xD), (0x1C, 0x20), (0x85, 0x85), (0xA0, 0xA0), (0x1680, 0x1680),
  (0x2000, 0x200A), (0x2028, 0x2029), (0x202F, 0x202F), (0x205F, 0x205F), (0x3000, 0x3000)]

namespace Text

def isBlankChar (c : Char) : Bool := CharRange.covers blankRanges c.toNat

/-- This removes the blanks in front of a text. -/
def stripFront (text : List Char) : List Char := text.dropWhile isBlankChar

/-- This removes the blanks behind a text. -/
def stripBack (text : List Char) : List Char := (text.reverse.dropWhile isBlankChar).reverse

/-- This removes the blanks on both sides of a text. -/
def strip (text : List Char) : List Char := stripBack (stripFront text)

/-- A text of blanks alone counts as no text. -/
def isBlank (text : List Char) : Bool := text.all isBlankChar

end Text

end CodeGraph

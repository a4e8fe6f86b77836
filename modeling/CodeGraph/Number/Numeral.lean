import CodeGraph.Number.Decimal
import CodeGraph.Text.Blank
import CodeGraph.Text.Lowercase

/-!
This file holds the numerals that people write: blanks around them are allowed, the digits may be
of any script, and a single underscore may stand between two digits.
-/

namespace CodeGraph

/-- Each entry is the zero of a script, and the other nine digits follow it in order. -/
def digitZeros : List Nat := [
  0x30, 0x660, 0x6F0, 0x7C0, 0x966, 0x9E6, 0xA66, 0xAE6,
  0xB66, 0xBE6, 0xC66, 0xCE6, 0xD66, 0xDE6, 0xE50, 0xED0,
  0xF20, 0x1040, 0x1090, 0x17E0, 0x1810, 0x1946, 0x19D0, 0x1A80,
  0x1A90, 0x1B50, 0x1BB0, 0x1C40, 0x1C50, 0xA620, 0xA8D0, 0xA900,
  0xA9D0, 0xA9F0, 0xAA50, 0xABF0, 0xFF10, 0x104A0, 0x10D30, 0x11066,
  0x110F0, 0x11136, 0x111D0, 0x112F0, 0x11450, 0x114D0, 0x11650, 0x116C0,
  0x11730, 0x118E0, 0x11950, 0x11C50, 0x11D50, 0x11DA0, 0x16A60, 0x16AC0,
  0x16B50, 0x1D7CE, 0x1D7D8, 0x1D7E2, 0x1D7EC, 0x1D7F6, 0x1E140, 0x1E2F0,
  0x1E950, 0x1FBF0]

/-- The value of a decimal digit of any script. -/
def Text.digitValue? (c : Char) : Option Nat :=
  (digitZeros.find? fun start => start ≤ c.toNat && c.toNat < start + 10).map (c.toNat - ·)

namespace Numeral

def isAsciiDigit (c : Char) : Bool := '0' ≤ c && c ≤ '9'

def isAsciiBlank (c : Char) : Bool := c == ' ' || ('\t' ≤ c && c ≤ '\r')

/-- A digit of another script becomes the ASCII digit of its value, and a blank beyond ASCII
becomes a space. -/
def plainChar (c : Char) : Char :=
  if c.toNat < 128 then c
  else if Text.isBlankChar c then ' '
  else
    match Text.digitValue? c with
    | some value => Decimal.digitChar value
    | none => c

/-- The numeral in ASCII without the blanks around it. -/
def plain (text : List Char) : List Char :=
  (((text.map plainChar).dropWhile isAsciiBlank).reverse.dropWhile isAsciiBlank).reverse

def startsWithDigit : List Char → Bool
  | [] => false
  | c :: _ => isAsciiDigit c

/-- The digits in front of a text without the underscores between them, and the rest of the text. -/
def digitRun (afterDigit : Bool) : List Char → List Char × List Char
  | [] => ([], [])
  | c :: rest =>
      if isAsciiDigit c then
        let run := digitRun true rest
        (c :: run.1, run.2)
      else if afterDigit && c == '_' && startsWithDigit rest then digitRun false rest
      else ([], c :: rest)

def digitsValue (digits : List Char) : Nat :=
  digits.foldl (fun value c => 10 * value + (c.toNat - 48)) 0

/-- A sign in front of a numeral, and the rest. -/
def sign : List Char → Bool × List Char
  | '-' :: rest => (true, rest)
  | '+' :: rest => (false, rest)
  | text => (false, text)

/-- The value of an integer numeral. -/
def integer? (text : List Char) : Option Int :=
  let signed := sign (plain text)
  let run := digitRun false signed.2
  if run.1.isEmpty || !run.2.isEmpty || Decimal.digitLimit < run.1.length then none
  else some (Binary64.signedUnits signed.1 (digitsValue run.1))

/-- The exponent of a decimal numeral; without a mark it is zero. -/
def exponent? : List Char → Option Int
  | [] => some 0
  | mark :: rest =>
      if mark == 'e' || mark == 'E' then
        let signed := sign rest
        let run := digitRun false signed.2
        if run.1.isEmpty || !run.2.isEmpty then none
        else some (Binary64.signedUnits signed.1 (digitsValue run.1))
      else none

/-- The part behind the decimal point, and the rest. -/
def fractionRun : List Char → List Char × List Char
  | '.' :: rest => digitRun false rest
  | text => ([], text)

/-- The value of a decimal numeral without a sign. -/
def magnitude? (negative : Bool) (text : List Char) : Option Binary64 :=
  let whole := digitRun false text
  let fraction := fractionRun whole.2
  if whole.1.isEmpty && fraction.1.isEmpty then none
  else
    (exponent? fraction.2).map fun exponent =>
      Decimal.toBinary64 negative
        ⟨digitsValue (whole.1 ++ fraction.1), exponent - (fraction.1.length : Int)⟩

/-- The value of a decimal numeral or of a name of a number that has no digits. -/
def number? (text : List Char) : Option Binary64 :=
  let signed := sign (plain text)
  let name := String.ofList (signed.2.map Char.toLower)
  if name = "inf" ∨ name = "infinity" then some (.infinite signed.1)
  else if name = "nan" then some (.nan 0)
  else magnitude? signed.1 signed.2

end Numeral

end CodeGraph

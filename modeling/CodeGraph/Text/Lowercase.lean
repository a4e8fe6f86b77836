import CodeGraph.Text.Lowercase.Table

/-!
This file holds the full lowercase mapping of Unicode. One letter depends on its place: a capital
sigma at the end of a word becomes the final sigma.
-/

namespace CodeGraph

def capitalSigma : Char := '\u03A3'

def smallSigma : Char := '\u03C3'

def finalSigma : Char := '\u03C2'

/-- The capital I with a dot is lowered to two characters. -/
def dottedCapitalI : Char := '\u0130'

def combiningDotAbove : Char := '\u0307'

namespace Text

def isCasedChar (c : Char) : Bool := CharRange.covers casedRanges c.toNat

def isCaseIgnorableChar (c : Char) : Bool := CharRange.covers caseIgnorableRanges c.toNat

/-- The letter is one of the run. -/
def inLetterRun (c : Char) (run : LetterRun) : Bool :=
  run.first ≤ c.toNat && c.toNat ≤ run.last && (c.toNat - run.first) % run.step == 0

/-- The lowercase of one letter that does not depend on its place. -/
def lowerChar (c : Char) : List Char :=
  if c.toNat < 128 then [c.toLower]
  else if c = dottedCapitalI then ['i', combiningDotAbove]
  else
    match letterRuns.find? (inLetterRun c) with
    | some run => [Char.ofNat ((c.toNat : Int) + run.shift).toNat]
    | none => [c]

/-- The next character that is not passed over has case. -/
def meetsCased (text : List Char) : Bool :=
  match text.dropWhile isCaseIgnorableChar with
  | [] => false
  | c :: _ => isCasedChar c

/-- `before` holds the characters in front of `text` in reverse order. -/
def lowerAfter (before : List Char) : List Char → List Char
  | [] => []
  | c :: rest =>
      (if c = capitalSigma then
        [if meetsCased before && !meetsCased rest then finalSigma else smallSigma]
      else lowerChar c) ++ lowerAfter (c :: before) rest

/-- The lowercase of a text. -/
def lower (text : List Char) : List Char := lowerAfter [] text

end Text

end CodeGraph

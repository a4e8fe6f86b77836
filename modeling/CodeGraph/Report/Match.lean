import CodeGraph.Coercion
import CodeGraph.Text.Lowercase
import CodeGraph.Text.Similarity

/-!
This file rates how well the name of an entity matches a query. Case does not count.
-/

namespace CodeGraph

/-- The ways in which a name matches, the best one first. -/
inductive MatchKind where
  /-- The name is the query. -/
  | whole
  /-- The name begins with the query. -/
  | front
  /-- The query stands somewhere in the name. -/
  | inside
  /-- The name resembles the query. -/
  | similar
  | none
  deriving DecidableEq, Repr

def MatchKind.word : MatchKind → String
  | .whole => "exact"
  | .front => "prefix"
  | .inside => "substring"
  | .similar => "approximate"
  | .none => "none"

/-- A match and its rating, which is zero where nothing matches. -/
structure Match where
  score : Binary64
  kind : MatchKind
  deriving DecidableEq, Repr

namespace Match

/-- Scores are given in decimal places. -/
def ofDecimal (digits places : Nat) : Binary64 :=
  Binary64.ofQuotient false digits (Nat.pow 10 places)

/-- A name has to resemble the query at least so much. -/
def defaultThreshold : Value := .float (ofDecimal 6 1)

def wholeScore : Binary64 := Binary64.ofInt 1

def frontScore : Binary64 := ofDecimal 9 1

def insideScore : Binary64 := ofDecimal 8 1

/-- Each character in front of the query costs this much. -/
def positionCost : Binary64 := ofDecimal 5 3

/-- Positions behind this one cost no more. -/
def farthestPosition : Nat := 10

/-- The score of a name that resembles the query stays below this bound. -/
def similarCeiling : Binary64 := ofDecimal 7 1

/-- Scores are rounded to this many decimal places. -/
def scorePlaces : Nat := 4

/-- The number of characters in front of the first appearance of a part. -/
def position? (part : List Char) : List Char → Option Nat
  | [] => if part.isEmpty then some 0 else none
  | c :: rest =>
      if part.isPrefixOf (c :: rest) then some 0 else (position? part rest).map (· + 1)

/-- The score of a query that stands at a position. -/
def insideScoreAt (position : Nat) : Binary64 :=
  (insideScore.sub ((Binary64.ofInt (min position farthestPosition)).mul positionCost)).roundPlaces
    scorePlaces

/-- The score of a similarity. -/
def similarScore (similarity : Binary64) : Binary64 :=
  (similarity.mul similarCeiling).roundPlaces scorePlaces

/-- The similarity is not below the threshold, which must be a number. -/
def reaches (similarity : Binary64) (threshold : Value) : Outcome Bool :=
  (Value.compareNumbers ">=" (.float similarity) threshold).map fun order =>
    order == some .gt || order == some .eq

/-- The match of two texts in lowercase. -/
def ofLowered (threshold : Value) (query name : List Char) : Outcome Match :=
  if name = query then .ok ⟨wholeScore, .whole⟩
  else if query.isPrefixOf name then .ok ⟨frontScore, .front⟩
  else
    match position? query name with
    | some position => .ok ⟨insideScoreAt position, .inside⟩
    | none =>
        let similarity := Text.similarity query name
        (reaches similarity threshold).map fun enough =>
          if enough then ⟨similarScore similarity, .similar⟩ else ⟨Binary64.zero, .none⟩

/-- The match of a query and a name. -/
def measure (threshold : Value) (query name : String) : Outcome Match :=
  ofLowered threshold (Text.lower query.toList) (Text.lower name.toList)

end Match

end CodeGraph

import CodeGraph.Request.Argument
import CodeGraph.Snapshot.Basic
import CodeGraph.Walk

/-!
This file picks the entities that are worth reading together with a focus entity. The candidates
are taken in the order of their relevance as long as the token budget lasts, and one that does not
fit is passed over.
-/

namespace CodeGraph

/-- How a candidate is related to the focus. -/
inductive Relevance where
  /-- It depends on the focus. -/
  | directCaller
  /-- The focus depends on it. -/
  | directCallee
  /-- It is further away. -/
  | transitive
  deriving DecidableEq, Repr

def Relevance.word : Relevance → String
  | .directCaller => "direct_caller"
  | .directCallee => "direct_callee"
  | .transitive => "transitive"

namespace RelevanceScore

/-- The scores fall with the distance from the focus, and a caller scores highest. -/
def caller : Binary64 := Binary64.ofInt 1

def callee : Binary64 := Binary64.ofQuotient false 95 100

/-- The score at a distance of two. -/
def transitiveBase : Binary64 := Binary64.ofQuotient false 7 10

/-- Each further step costs this much. -/
def decay : Binary64 := Binary64.ofQuotient false 1 10

/-- No candidate scores below this. -/
def floor : Binary64 := Binary64.ofQuotient false 5 100

/-- Scores are rounded to this many decimal places. -/
def places : Nat := 4

/-- The score after a number of steps past the distance of two. -/
def afterSteps (steps : Binary64) : Binary64 :=
  let score := transitiveBase.sub (decay.mul steps)
  (if score.lt floor then floor else score).roundPlaces places

/-- The score at a distance from two on. -/
def atDepth (depth : Nat) : Binary64 := afterSteps (Binary64.ofInt ((depth : Int) - 2))

/-- The score at any distance; one that is past every number is a defect. -/
def transitive (depth : Int) : Outcome Binary64 :=
  (Value.intToBinary64 (depth - 2)).map afterSteps

end RelevanceScore

/-- An entity that is related to the focus, at its least distance in either direction. -/
structure Candidate where
  address : Address
  depth : Nat
  relevance : Relevance
  deriving DecidableEq

namespace Candidate

def score (candidate : Candidate) : Binary64 :=
  match candidate.relevance with
  | .directCaller => RelevanceScore.caller
  | .directCallee => RelevanceScore.callee
  | .transitive => RelevanceScore.atDepth candidate.depth

/-- The higher score comes first, then the smaller distance, then the smaller key. -/
def precedes (first second : Candidate) : Bool :=
  if second.score.lt first.score then true
  else if first.score.lt second.score then false
  else if first.depth = second.depth then first.address.precedes second.address
  else decide (first.depth < second.depth)

/-- A neighbor that is both a caller and a callee counts as a caller. -/
def direct (snapshot : Snapshot) (focus address : Address) : Candidate :=
  if address ∈ snapshot.callerAddresses focus then ⟨address, 1, .directCaller⟩
  else ⟨address, 1, .directCallee⟩

/-- The candidates in the layers from a distance on. -/
def ofLayers (snapshot : Snapshot) (focus : Address) (depth : Nat) :
    List (List Address) → List Candidate
  | [] => []
  | layer :: rest =>
      layer.map (fun address =>
        if depth = 1 then direct snapshot focus address else ⟨address, depth, .transitive⟩) ++
        ofLayers snapshot focus (depth + 1) rest

/-- The entities around the focus; its neighbors are candidates whatever the greatest distance. -/
def collect (snapshot : Snapshot) (focus : Address) (maxDepth : Nat) : List Candidate :=
  ofLayers snapshot focus 1 (Walk.layers snapshot.neighborAddresses (max 1 maxDepth) focus)

/-- The candidates in the order in which they are taken. -/
def ranked (snapshot : Snapshot) (focus : Address) (maxDepth : Nat) : List Candidate :=
  Order.sort precedes (collect snapshot focus maxDepth)

end Candidate

/-- A candidate with its entity. -/
structure ContextEntry where
  candidate : Candidate
  entity : Entity

namespace ContextEntry

def tokens (entry : ContextEntry) : Nat := entry.entity.cost

def ofCandidate (snapshot : Snapshot) (candidate : Candidate) : Outcome ContextEntry :=
  (snapshot.entityAt candidate.address).map fun entity => ⟨candidate, entity⟩

def toValue (entry : ContextEntry) : Value := .object [
  ("entity", .text entry.candidate.address.text),
  ("name", .text entry.entity.address.name),
  ("entity_type", .text entry.entity.address.kind.name),
  ("file_path", entry.entity.filePath),
  ("line_range", .list [.int entry.entity.firstLine, .int entry.entity.lastLine]),
  ("score", .float entry.candidate.score),
  ("relevance_type", .text entry.candidate.relevance.word),
  ("depth", .int entry.candidate.depth),
  ("tokens", .int entry.tokens)]

/-- The entries that fit, taken in their order; one that exceeds the remaining budget is left
out. -/
def fitting (remaining : Nat) : List ContextEntry → List ContextEntry
  | [] => []
  | entry :: rest =>
      if entry.tokens ≤ remaining then entry :: fitting (remaining - entry.tokens) rest
      else fitting remaining rest

end ContextEntry

/-- The entities that were picked for a focus. -/
structure ContextSelection where
  focus : Address
  budget : Nat
  considered : Nat
  entries : List ContextEntry

namespace ContextSelection

/-- Without a wish of the caller candidates are looked for up to this distance. -/
def defaultMaxDepth : Nat := 3

def tokensUsed (selection : ContextSelection) : Nat :=
  selection.entries.foldr (fun entry rest => entry.tokens + rest) 0

def measure (snapshot : Snapshot) (focus : Address) (budget maxDepth : Nat) :
    Outcome ContextSelection :=
  let candidates := Candidate.ranked snapshot focus maxDepth
  (candidates.mapM (ContextEntry.ofCandidate snapshot)).map fun entries =>
    ⟨focus, budget, candidates.length, ContextEntry.fitting budget entries⟩

/-- The selection that a request asks for. -/
def ofRequest (vocabulary : Vocabulary) (snapshot : Snapshot) (focus budget maxDepth : Value) :
    Outcome ContextSelection :=
  match Argument.positive? budget with
  | none => budget.whenShown (refuse (.tokenBudget budget.quoted))
  | some budget =>
      match Argument.positive? maxDepth with
      | none => maxDepth.whenShown (refuse (.maxDepth maxDepth.quoted))
      | some maxDepth => do
          let focus ← snapshot.resolve vocabulary focus
          measure snapshot focus budget maxDepth

def toValue (selection : ContextSelection) : Value := .object [
  ("focus", .text selection.focus.text),
  ("token_budget", .int selection.budget),
  ("tokens_used", .int selection.tokensUsed),
  ("entities_included", .int selection.entries.length),
  ("candidates_considered", .int selection.considered),
  ("context", .list (selection.entries.map ContextEntry.toValue))]

end ContextSelection

end CodeGraph

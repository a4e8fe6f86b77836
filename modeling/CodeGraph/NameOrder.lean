import CodeGraph.Fault
import CodeGraph.Json.Value
import CodeGraph.Order
import CodeGraph.Order.Arrange

/-!
This file puts things that are named by atoms into the order of their names. Texts are in one order
and numbers in another, and between a text and a number there is none.
-/

namespace CodeGraph

namespace Atom

/-- Whether a name comes before another one. Names that cannot be compared are a defect. -/
def comesBefore (first second : Atom) : Outcome Bool :=
  if first.comparable second then .ok (first.lt second)
  else crash (.incomparable "<" first.typeName second.typeName)

def isText : Atom → Bool
  | .text _ => true
  | _ => false

/-- A number that is in an order to all others. -/
def isOrderedNumber : Atom → Bool
  | .float (.nan _) => false
  | atom => atom.isNumber

/-- All names are in one order. -/
def inOneOrder (names : List Atom) : Bool :=
  names.all isText || names.all isOrderedNumber

end Atom

namespace NameOrder

/-- Named things in the order of their names. Where the names are in no common order, the
comparisons decide in turn. -/
def sort {α : Type} (entries : List (Atom × α)) : Outcome (List (Atom × α)) :=
  if Atom.inOneOrder (entries.map Prod.fst) then
    .ok (Order.sort (fun first second => first.1.lt second.1) entries)
  else Order.arrange (fun first second => first.1.comesBefore second.1) entries

end NameOrder

end CodeGraph

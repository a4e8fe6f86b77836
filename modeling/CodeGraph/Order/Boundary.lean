/-!
This file seeks the boundary in a list between the elements that pass a test and the elements
behind them. Only a few elements are tested, in a fixed order, so the boundary that is found is
known also where elements that pass stand behind elements that do not.
-/

namespace CodeGraph.Order

variable {α ε : Type}

/-- The number of elements in front of the boundary. The part of the list in which it lies is halved
until nothing is left. -/
def boundary (passes : α → Except ε Bool) (elements : List α) : Except ε Nat :=
  let half := elements.length / 2
  match _ : elements.drop half with
  | [] => .ok 0
  | middle :: upper => do
      if ← passes middle then return half + 1 + (← boundary passes upper)
      else boundary passes (elements.take half)
termination_by elements.length
decreasing_by
  · have size := congrArg List.length ‹elements.drop half = middle :: upper›
    simp only [List.length_drop, List.length_cons] at size
    omega
  · have size := congrArg List.length ‹elements.drop half = middle :: upper›
    simp only [List.length_drop, List.length_cons] at size
    simp only [List.length_take]
    omega

/-- The boundary is sought in strides from the front, each as long as all strides before it, and of
a stride the last element is tested. The `passed` elements stand in front of the list. -/
def boundaryFromFront (passes : α → Except ε Bool) (passed : Nat) (elements : List α) :
    Except ε Nat :=
  let stride := max passed 1
  match _ : elements.drop (stride - 1) with
  | [] => return passed + (← boundary passes elements)
  | last :: beyond => do
      if ← passes last then boundaryFromFront passes (passed + stride) beyond
      else return passed + (← boundary passes (elements.take (stride - 1)))
termination_by elements.length
decreasing_by
  have size := congrArg List.length ‹elements.drop (stride - 1) = last :: beyond›
  simp only [List.length_drop, List.length_cons] at size
  omega

/-- The boundary is sought in strides from the back, each as long as all strides before it, and of
a stride the first element is tested. The `passed` elements stand behind the list. -/
def boundaryFromBack (passes : α → Except ε Bool) (passed : Nat) (elements : List α) :
    Except ε Nat :=
  let stride := max passed 1
  let front := elements.length - stride
  if _ : elements.length < stride then boundary passes elements
  else
    match elements.drop front with
    | [] => .ok 0
    | first :: beyond => do
        if ← passes first then return front + 1 + (← boundary passes beyond)
        else boundaryFromBack passes (passed + stride) (elements.take front)
termination_by elements.length
decreasing_by
  simp only [List.length_take]
  omega

end CodeGraph.Order

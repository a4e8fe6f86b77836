/-!
This file holds the stable sorting of lists and the removal of repeated elements. The order is given
by the elements that come strictly before each other, and elements that do not keep their places.
-/

namespace CodeGraph.Order

variable {α : Type}

/-- The element goes in front of the first one that does not come before it. -/
def insert (precedes : α → α → Bool) (element : α) : List α → List α
  | [] => [element]
  | first :: rest =>
      if precedes first element then first :: insert precedes element rest
      else element :: first :: rest

/-- The elements in order. -/
def sort (precedes : α → α → Bool) (elements : List α) : List α :=
  elements.foldr (insert precedes) []

/-- The first appearances in a list. -/
def distinct [DecidableEq α] : List α → List α
  | [] => []
  | first :: rest => first :: (distinct rest).filter fun other => !decide (other = first)

theorem insert_perm (precedes : α → α → Bool) (element : α) (elements : List α) :
    (insert precedes element elements).Perm (element :: elements) := by
  induction elements with
  | nil => exact List.Perm.refl _
  | cons first rest inductionHypothesis =>
      unfold insert
      split
      · exact (inductionHypothesis.cons first).trans (List.Perm.swap element first rest)
      · exact List.Perm.refl _

theorem sort_perm (precedes : α → α → Bool) (elements : List α) :
    (sort precedes elements).Perm elements := by
  induction elements with
  | nil => exact List.Perm.refl _
  | cons first rest inductionHypothesis =>
      exact (insert_perm precedes first (sort precedes rest)).trans (inductionHypothesis.cons first)

theorem mem_sort {precedes : α → α → Bool} {elements : List α} {element : α} :
    element ∈ sort precedes elements ↔ element ∈ elements :=
  (sort_perm precedes elements).mem_iff

theorem mem_distinct [DecidableEq α] {elements : List α} {element : α} :
    element ∈ distinct elements ↔ element ∈ elements := by
  induction elements with
  | nil => simp [distinct]
  | cons first rest inductionHypothesis =>
      by_cases same : element = first <;> simp [distinct, same, inductionHypothesis]

theorem nodup_distinct [DecidableEq α] (elements : List α) : (distinct elements).Nodup := by
  induction elements with
  | nil => simp [distinct]
  | cons first rest inductionHypothesis =>
      simp only [distinct, List.nodup_cons]
      exact ⟨by simp, inductionHypothesis.filter _⟩

end CodeGraph.Order

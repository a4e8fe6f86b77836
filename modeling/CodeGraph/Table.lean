/-!
This file holds tables whose rows stand in the strict order of their keys. A row that is inserted
under a present key takes the place of the old row.
-/

namespace CodeGraph

/-- The keys grow from row to row, so no key appears twice. -/
structure Table (α : Type) (key : α → String) where
  rows : List α
  increasing : rows.Pairwise fun first second => key first < key second

namespace Table

variable {α : Type} {key : α → String}

def empty : Table α key := ⟨[], List.Pairwise.nil⟩

instance : Inhabited (Table α key) := ⟨empty⟩

/-- The row goes to the place of its key. -/
def insertRow (key : α → String) (row : α) : List α → List α
  | [] => [row]
  | first :: rest =>
      if key row < key first then row :: first :: rest
      else if key first < key row then first :: insertRow key row rest
      else row :: rest

theorem mem_insertRow {row member : α} {rows : List α}
    (memberIn : member ∈ insertRow key row rows) :
    member = row ∨ member ∈ rows := by
  induction rows with
  | nil => simpa [insertRow] using memberIn
  | cons first rest inductionHypothesis =>
      unfold insertRow at memberIn
      split at memberIn
      · simpa using memberIn
      · split at memberIn
        · rcases List.mem_cons.mp memberIn with here | behind
          · exact Or.inr (List.mem_cons.mpr (Or.inl here))
          · rcases inductionHypothesis behind with here | there
            · exact Or.inl here
            · exact Or.inr (List.mem_cons.mpr (Or.inr there))
        · rcases List.mem_cons.mp memberIn with here | behind
          · exact Or.inl here
          · exact Or.inr (List.mem_cons.mpr (Or.inr behind))

theorem insertRow_increasing (row : α) {rows : List α}
    (increasing : rows.Pairwise fun first second => key first < key second) :
    (insertRow key row rows).Pairwise fun first second => key first < key second := by
  induction rows with
  | nil => simp [insertRow]
  | cons first rest inductionHypothesis =>
      obtain ⟨firstSmallest, restIncreasing⟩ := List.pairwise_cons.mp increasing
      unfold insertRow
      split
      · rename_i smaller
        refine List.pairwise_cons.mpr ⟨fun member memberIn => ?_, increasing⟩
        rcases List.mem_cons.mp memberIn with here | behind
        · exact here ▸ smaller
        · exact String.lt_trans smaller (firstSmallest member behind)
      · split
        · rename_i larger
          refine List.pairwise_cons.mpr
            ⟨fun member memberIn => ?_, inductionHypothesis restIncreasing⟩
          rcases mem_insertRow memberIn with here | behind
          · exact here ▸ larger
          · exact firstSmallest member behind
        · rename_i notSmaller notLarger
          have same : key row = key first :=
            String.le_antisymm (String.not_lt.mp notLarger) (String.not_lt.mp notSmaller)
          exact List.pairwise_cons.mpr
            ⟨fun member memberIn => same ▸ firstSmallest member memberIn, restIncreasing⟩

def insert (table : Table α key) (row : α) : Table α key :=
  ⟨insertRow key row table.rows, insertRow_increasing row table.increasing⟩

def ofList (rows : List α) : Table α key := rows.foldl insert empty

/-- The row of a key. -/
def find? (table : Table α key) (name : String) : Option α :=
  table.rows.find? fun row => key row == name

def contains (table : Table α key) (name : String) : Bool := (table.find? name).isSome

def size (table : Table α key) : Nat := table.rows.length

end Table

/-- A set of texts in increasing order. -/
abbrev TextSet : Type := Table String id

end CodeGraph

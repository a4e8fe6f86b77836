import CodeGraph.Table
import Mathlib.Data.List.Forall2

/-!
This file says what the look-ups in a table give. A table is the same as its look-ups, and the rows
of a table put it together again.
-/

namespace CodeGraph.Table

variable {α : Type} {key : α → String}

/-- Rows with one key are the same row. -/
theorem row_unique {rows : List α}
    (increasing : rows.Pairwise fun first second => key first < key second) {first second : α}
    (firstMember : first ∈ rows) (secondMember : second ∈ rows) (same : key first = key second) :
    first = second := by
  induction rows with
  | nil => cases firstMember
  | cons head rest inductionHypothesis =>
      obtain ⟨smallest, restIncreasing⟩ := List.pairwise_cons.mp increasing
      rcases List.mem_cons.mp firstMember with rfl | firstBehind
      · rcases List.mem_cons.mp secondMember with rfl | secondBehind
        · rfl
        · exact absurd (same ▸ smallest second secondBehind) (String.lt_irrefl _)
      · rcases List.mem_cons.mp secondMember with rfl | secondBehind
        · exact absurd (same ▸ smallest first firstBehind) (String.lt_irrefl _)
        · exact inductionHypothesis restIncreasing firstBehind secondBehind

/-- The row of a key is the one row that has this key. -/
theorem find?_eq_some_iff {table : Table α key} {name : String} {row : α} :
    table.find? name = some row ↔ row ∈ table.rows ∧ key row = name := by
  constructor
  · intro found
    exact ⟨List.mem_of_find?_eq_some found, by simpa using List.find?_some found⟩
  · rintro ⟨member, named⟩
    cases found : table.find? name with
    | none => exact absurd named (by simpa using List.find?_eq_none.mp found row member)
    | some other =>
        have otherNamed : key other = name := by simpa using List.find?_some found
        rw [row_unique table.increasing (List.mem_of_find?_eq_some found) member
          (otherNamed.trans named.symm)]

theorem mem_rows_iff {table : Table α key} {row : α} :
    row ∈ table.rows ↔ table.find? (key row) = some row := by
  rw [find?_eq_some_iff]
  exact ⟨fun member => ⟨member, rfl⟩, And.left⟩

theorem contains_iff {table : Table α key} {name : String} :
    table.contains name = true ↔ ∃ row ∈ table.rows, key row = name := by
  unfold contains
  rw [Option.isSome_iff_exists]
  simp only [find?_eq_some_iff]

theorem mem_insertRow_self (row : α) (rows : List α) : row ∈ insertRow key row rows := by
  induction rows with
  | nil => simp [insertRow]
  | cons first rest inductionHypothesis =>
      unfold insertRow
      split
      · exact List.mem_cons_self
      · split
        · exact List.mem_cons_of_mem _ inductionHypothesis
        · exact List.mem_cons_self

theorem mem_insertRow_of_ne {row member : α} {rows : List α} (memberIn : member ∈ rows)
    (other : key row ≠ key member) : member ∈ insertRow key row rows := by
  induction rows with
  | nil => cases memberIn
  | cons first rest inductionHypothesis =>
      unfold insertRow
      split
      · exact List.mem_cons_of_mem _ memberIn
      · rename_i notSmaller
        split
        · rcases List.mem_cons.mp memberIn with rfl | behind
          · exact List.mem_cons_self
          · exact List.mem_cons_of_mem _ (inductionHypothesis behind)
        · rename_i notLarger
          rcases List.mem_cons.mp memberIn with rfl | behind
          · exact absurd (String.le_antisymm (String.not_lt.mp notLarger)
              (String.not_lt.mp notSmaller)) other
          · exact List.mem_cons_of_mem _ behind

/-- An inserted row is found under its key, and all other look-ups stay. -/
theorem find?_insert (table : Table α key) (row : α) (name : String) :
    (table.insert row).find? name = if key row = name then some row else table.find? name := by
  split
  · rename_i named
    exact find?_eq_some_iff.mpr ⟨mem_insertRow_self row table.rows, named⟩
  · rename_i other
    apply Option.ext
    intro found
    rw [find?_eq_some_iff, find?_eq_some_iff]
    constructor
    · rintro ⟨member, named⟩
      rcases mem_insertRow member with rfl | kept
      · exact absurd named other
      · exact ⟨kept, named⟩
    · rintro ⟨member, named⟩
      exact ⟨mem_insertRow_of_ne member (fun same => other (same.trans named)), named⟩

theorem find?_empty (name : String) : (empty : Table α key).find? name = none := rfl

theorem nodup_rows (table : Table α key) : table.rows.Nodup := by
  refine table.increasing.imp fun smaller equal => ?_
  rw [equal] at smaller
  exact String.lt_irrefl _ smaller

/-- Tables with the same rows are equal. -/
theorem eq_of_mem_rows_iff {first second : Table α key}
    (same : ∀ row, row ∈ first.rows ↔ row ∈ second.rows) : first = second := by
  have rows : first.rows = second.rows := by
    have permuted := (List.perm_ext_iff_of_nodup (nodup_rows first) (nodup_rows second)).mpr same
    refine List.Perm.eq_of_pairwise (fun left right _ _ smaller larger => ?_) first.increasing
      second.increasing permuted
    exact absurd larger (String.lt_asymm smaller)
  cases first
  cases second
  cases rows
  rfl

/-- Tables with the same look-ups are equal. -/
theorem eq_of_find? {first second : Table α key}
    (same : ∀ name, first.find? name = second.find? name) : first = second :=
  eq_of_mem_rows_iff fun row => by rw [mem_rows_iff, mem_rows_iff, same]

/-- Tables whose rows have related rows of the same keys are related row by row. -/
theorem forall₂_rows {related : α → α → Prop} {first second : Table α key}
    (sameKey : ∀ row other, related row other → key row = key other)
    (forth : ∀ row ∈ first.rows, ∃ other ∈ second.rows, related row other)
    (back : ∀ other ∈ second.rows, ∃ row ∈ first.rows, key row = key other) :
    List.Forall₂ related first.rows second.rows := by
  have keys : first.rows.map key = second.rows.map key := by
    have tables : (⟨first.rows.map key, List.pairwise_map.mpr first.increasing⟩ : TextSet) =
        ⟨second.rows.map key, List.pairwise_map.mpr second.increasing⟩ := by
      refine eq_of_mem_rows_iff fun name => ?_
      dsimp only
      rw [List.mem_map, List.mem_map]
      constructor
      · rintro ⟨row, member, rfl⟩
        obtain ⟨other, otherMember, holding⟩ := forth row member
        exact ⟨other, otherMember, (sameKey row other holding).symm⟩
      · rintro ⟨other, member, rfl⟩
        exact back other member
    exact congrArg Table.rows tables
  have lengths : first.rows.length = second.rows.length := by
    rw [← List.length_map key, keys, List.length_map]
  refine List.forall₂_iff_get.mpr ⟨lengths, fun index inside otherInside => ?_⟩
  obtain ⟨other, member, holding⟩ := forth _ (List.get_mem first.rows ⟨index, inside⟩)
  have here :
      key (first.rows.get ⟨index, inside⟩) = key (second.rows.get ⟨index, otherInside⟩) := by
    have same := List.getElem_of_eq keys (by rw [List.length_map]; exact inside)
    simpa using same
  rw [← row_unique second.increasing member (List.get_mem second.rows ⟨index, otherInside⟩)
    ((sameKey _ other holding).symm.trans here)]
  exact holding

/-- The last row with a key. -/
def latest? (key : α → String) (name : String) (rows : List α) : Option α :=
  rows.reverse.find? fun row => key row == name

theorem latest?_nil (name : String) : latest? key name [] = none := rfl

theorem latest?_append (name : String) (rows more : List α) :
    latest? key name (rows ++ more) = (latest? key name more).or (latest? key name rows) := by
  unfold latest?
  rw [List.reverse_append, List.find?_append]

/-- A key has a last row exactly if it has a row. -/
theorem latest?_isSome_iff {name : String} {rows : List α} :
    (latest? key name rows).isSome = true ↔ ∃ row ∈ rows, key row = name := by
  simp [latest?]

theorem latest?_eq_some {name : String} {rows : List α} {row : α}
    (found : latest? key name rows = some row) : row ∈ rows ∧ key row = name :=
  ⟨List.mem_reverse.mp (List.mem_of_find?_eq_some found), by simpa using List.find?_some found⟩

/-- After many insertions a key has the last of its rows. -/
theorem find?_foldl_insert (rows : List α) (table : Table α key) (name : String) :
    (rows.foldl insert table).find? name = (latest? key name rows).or (table.find? name) := by
  induction rows generalizing table with
  | nil => simp [latest?_nil]
  | cons row rest inductionHypothesis =>
      rw [List.foldl_cons, inductionHypothesis, find?_insert]
      have split := @latest?_append α key name [row] rest
      rw [List.singleton_append] at split
      rw [split]
      by_cases named : key row = name
      · cases latest? key name rest <;> simp [latest?, named]
      · cases latest? key name rest <;> simp [latest?, named]

/-- In a table the last row with a key is the only one. -/
theorem latest?_rows (table : Table α key) (name : String) :
    latest? key name table.rows = table.find? name := by
  apply Option.ext
  intro row
  constructor
  · intro found
    exact find?_eq_some_iff.mpr (latest?_eq_some found)
  · intro found
    have here := find?_eq_some_iff.mp found
    obtain ⟨last, lastFound⟩ := Option.isSome_iff_exists.mp (latest?_isSome_iff.mpr ⟨row, here⟩)
    have lastHere := latest?_eq_some lastFound
    rw [lastFound, row_unique table.increasing lastHere.1 here.1 (lastHere.2.trans here.2.symm)]

/-- A table is put together again from its rows. -/
theorem ofList_rows (table : Table α key) : ofList table.rows = table := by
  refine eq_of_find? fun name => ?_
  unfold ofList
  rw [find?_foldl_insert, find?_empty, Option.or_none, latest?_rows]

theorem mem_of_mem_ofList {rows : List α} {row : α}
    (member : row ∈ (ofList rows : Table α key).rows) : row ∈ rows := by
  have found := mem_rows_iff.mp member
  unfold ofList at found
  rw [find?_foldl_insert, find?_empty, Option.or_none] at found
  exact (latest?_eq_some found).1

/-- Where different rows have different keys, no row of a list is lost in the table. -/
theorem mem_ofList_iff (injective : Function.Injective key) {rows : List α} {row : α} :
    row ∈ (ofList rows : Table α key).rows ↔ row ∈ rows := by
  refine ⟨mem_of_mem_ofList, fun member => ?_⟩
  have present : (latest? key (key row) rows).isSome = true :=
    latest?_isSome_iff.mpr ⟨row, member, rfl⟩
  obtain ⟨last, found⟩ := Option.isSome_iff_exists.mp present
  have same : last = row := injective (latest?_eq_some found).2
  apply mem_rows_iff.mpr
  unfold ofList
  rw [find?_foldl_insert, find?_empty, Option.or_none, found, same]

end CodeGraph.Table

import CodeGraph.Proofs.Adjacency
import CodeGraph.Proofs.Sorting

/-!
This file says that addresses may be told apart by their keys alone. Tables, sets and sorted lists
that look at nothing but the keys never take two addresses for one.
-/

namespace CodeGraph

namespace Address

variable {α : Type}

/-- The keys put all addresses in a strict order. -/
theorem precedes_strict : Order.IsStrict precedes fun _ => True where
  irreflexive _ _ := decide_eq_false (String.lt_irrefl _)
  transitive _ _ _ _ _ _ former latter :=
    decide_eq_true (String.lt_trans (of_decide_eq_true former) (of_decide_eq_true latter))
  connected _ _ _ _ apart :=
    (Order.text_connected (mt text_injective apart)).imp decide_eq_true decide_eq_true

/-- A table by keys finds the last row of an address. -/
theorem find?_ofList_text (rows : List α) (address : α → Address) (wanted : Address) :
    (Table.ofList rows : Table α fun row => (address row).text).find? wanted.text =
      rows.reverse.find? fun row => decide (address row = wanted) := by
  rw [Table.ofList, Table.find?_foldl_insert, Table.find?_empty, Option.or_none, Table.latest?]
  congr 1
  funext row
  rw [beq_eq_decide]
  exact decide_eq_decide.mpr text_eq_iff

/-- The set of given addresses by keys has each of them once. -/
theorem orderAddresses_perm (addresses : List Address) :
    (Snapshot.orderAddresses addresses).Perm (Order.distinct addresses) := by
  refine (List.perm_ext_iff_of_nodup (Snapshot.increasing_orderAddresses addresses).nodup
    (Order.nodup_distinct addresses)).mpr fun address => ?_
  rw [Snapshot.mem_orderAddresses, Order.mem_distinct]

theorem increasing_sort {addresses : List Address} (distinct : addresses.Nodup) :
    IsIncreasing (Order.sort precedes addresses) :=
  (Order.sort_increasing precedes_strict (fun _ _ => trivial) distinct).imp of_decide_eq_true

/-- Addresses with one key have all parts in common. A table by keys finds what a table by addresses
would find, a set by keys has each address once, and no two of different addresses share a place
when they are sorted by their keys. -/
theorem text_identifies :
    (∀ first second : Address, first.text = second.text →
      first.language = second.language ∧ first.kind = second.kind ∧ first.name = second.name ∧
      first.location.token = second.location.token ∧
      first.location.firstLine = second.location.firstLine ∧
      first.location.lastLine = second.location.lastLine ∧
      first.isExternal = second.isExternal) ∧
    (∀ (rows : List α) (address : α → Address) (wanted : Address),
      (Table.ofList rows : Table α fun row => (address row).text).find? wanted.text =
        rows.reverse.find? fun row => decide (address row = wanted)) ∧
    (∀ addresses : List Address,
      (Snapshot.orderAddresses addresses).Perm (Order.distinct addresses)) ∧
    ∀ addresses : List Address, addresses.Nodup →
      IsIncreasing (Order.sort precedes addresses) := by
  refine ⟨fun first second same => ?_, find?_ofList_text, orderAddresses_perm,
    fun addresses => increasing_sort⟩
  obtain rfl := text_injective same
  exact ⟨rfl, rfl, rfl, rfl, rfl, rfl, rfl⟩

/-- A function at the head of a file. -/
def headFunction : Address where
  language := .rust
  kind := .function
  name := "a"
  location := .source {
    token := FilePath.token "src/b.rs"
    firstLine := 0
    lastLine := 0
    tokenNonempty := by decide
    tokenWithoutColon := by decide
    tokenNotUnknown := by decide
    ordered := by decide }
  nameValid := by decide

/-- The name of this function looks like the end of a key. -/
def disguisedFunction : Address :=
  { headFunction with name := "a:src_b.rs:0-0", nameValid := by decide }

/-- The same function as a key spells it. -/
def spelledFunction : Address := { disguisedFunction with
  location := .source {
    token := "src_b.rs"
    firstLine := 0
    lastLine := 0
    tokenNonempty := by decide
    tokenWithoutColon := by decide
    tokenNotUnknown := by decide
    ordered := by decide } }

/-- A name that looks like the end of a key is not taken for one. -/
theorem text_identifies_disguised :
    disguisedFunction.text = spelledFunction.text ∧
      disguisedFunction.location.token = spelledFunction.location.token ∧
      [disguisedFunction, headFunction].Nodup ∧
      IsIncreasing (Order.sort precedes [disguisedFunction, headFunction]) := by
  have same : disguisedFunction.text = spelledFunction.text :=
    congrArg text (by decide : disguisedFunction = spelledFunction)
  have distinct : [disguisedFunction, headFunction].Nodup := by decide
  obtain ⟨fields, -, -, sorted⟩ := text_identifies (α := Address)
  exact ⟨same, (fields _ _ same).2.2.2.1, distinct, sorted _ distinct⟩

end Address

end CodeGraph

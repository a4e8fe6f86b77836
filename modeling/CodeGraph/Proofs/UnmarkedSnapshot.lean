import CodeGraph.Proofs.Closure
import CodeGraph.Proofs.Unmarked

/-!
This file takes the marks off the numbers in a snapshot. The identifier of the snapshot stays.
-/

namespace CodeGraph

namespace Table

variable {α : Type} {key : α → String}

/-- The rows are changed, and their keys stay. -/
def change (table : Table α key) (next : α → α) (keyed : ∀ row, key (next row) = key row) :
    Table α key where
  rows := table.rows.map next
  increasing := List.pairwise_map.mpr (table.increasing.imp fun smaller => by
    rw [keyed, keyed]
    exact smaller)

theorem contains_change (table : Table α key) (next : α → α)
    (keyed : ∀ row, key (next row) = key row) (name : String) :
    (table.change next keyed).contains name = table.contains name := by
  rw [Bool.eq_iff_iff, contains_iff, contains_iff]
  constructor
  · rintro ⟨row, member, named⟩
    obtain ⟨old, oldMember, rfl⟩ := List.mem_map.mp member
    exact ⟨old, oldMember, (keyed old).symm.trans named⟩
  · rintro ⟨row, member, named⟩
    exact ⟨next row, List.mem_map_of_mem member, (keyed row).trans named⟩

end Table

def Metadata.unmarked (metadata : Metadata) : Metadata :=
  ⟨metadata.entries.map fun entry => (entry.1, entry.2.unmarked)⟩

def Entity.unmarked (entity : Entity) : Entity :=
  ⟨entity.address, entity.filePath, entity.metadata.unmarked⟩

theorem Entity.key_unmarked (entity : Entity) : entity.unmarked.key = entity.key := rfl

/-- The snapshot without the marks of numbers that are not a number. Only metadata have such
numbers. -/
def Snapshot.unmarked (snapshot : Snapshot) : Snapshot :=
  { snapshot with
    entities := snapshot.entities.change Entity.unmarked Entity.key_unmarked
    endpointsPresent := fun edge member => by
      rw [Table.contains_change, Table.contains_change]
      exact snapshot.endpointsPresent edge member }

namespace Metadata

theorem toValue_unmarked (metadata : Metadata) :
    metadata.unmarked.toValue = metadata.toValue.unmarked := by
  simp only [toValue, unmarked, Value.unmarked, Value.fieldsUnmarked_eq_map, List.map_map]
  rfl

theorem isNamed_unmarked {metadata : Metadata} (named : metadata.IsNamed) :
    metadata.unmarked.IsNamed := by
  intro entry member
  obtain ⟨old, oldMember, rfl⟩ := List.mem_map.mp member
  exact named old oldMember

theorem names_unmarked (metadata : Metadata) : metadata.unmarked.names = metadata.names := by
  simp only [names, unmarked, List.map_map, Function.comp_def]

theorem writeDefect?_unmarked (metadata : Metadata) :
    metadata.unmarked.writeDefect? = metadata.writeDefect? := by
  unfold writeDefect?
  rw [names_unmarked, toValue_unmarked, Value.writeDefect?_unmarked]

theorem isWritable_unmarked_iff {metadata : Metadata} {room : Nat} :
    metadata.unmarked.toValue.IsWritable room ↔ metadata.toValue.IsWritable room := by
  have same : metadata.unmarked.toValue.writeDefect? room = metadata.toValue.writeDefect? room := by
    rw [toValue_unmarked, Value.writeDefect?_unmarked]
  exact ⟨fun writable => ⟨same ▸ writable.defectless⟩, fun writable => ⟨same ▸ writable.defectless⟩⟩

/-- The canonical text does not show the marks. -/
theorem canonicalText_unmarked {metadata : Metadata} (named : metadata.IsNamed) :
    metadata.unmarked.canonicalText = metadata.canonicalText := by
  have entries : Order.sort (fun first second => first.1.lt second.1) metadata.unmarked.entries =
      (Order.sort (fun first second => first.1.lt second.1) metadata.entries).map
        fun entry => (entry.1, entry.2.unmarked) :=
    Order.sort_map (fun entry : Atom × Value => (entry.1, entry.2.unmarked))
      (fun _ _ => rfl) metadata.entries
  unfold canonicalText
  rw [sort_named named, sort_named (isNamed_unmarked named), writeDefect?_unmarked, entries]
  generalize Order.sort (fun first second => first.1.lt second.1) metadata.entries = sorted
  have text : (Value.object ((sorted.map fun entry => (entry.1, entry.2.unmarked)).map fun entry =>
        (entry.1.fieldName, entry.2.sorted))).lineText =
      (Value.object (sorted.map fun entry => (entry.1.fieldName, entry.2.sorted))).lineText := by
    have same : Value.object ((sorted.map fun entry => (entry.1, entry.2.unmarked)).map fun entry =>
        (entry.1.fieldName, entry.2.sorted)) =
        (Value.object (sorted.map fun entry => (entry.1.fieldName, entry.2.sorted))).unmarked := by
      simp only [Value.unmarked, Value.fieldsUnmarked_eq_map, List.map_map, Function.comp_def,
        Value.sorted_unmarked]
    rw [same]
    exact Value.textBefore_unmarked _ _ _ _
  simp only [Except.bind, text]

theorem unmarked_unmarked (metadata : Metadata) :
    metadata.unmarked.unmarked = metadata.unmarked := by
  simp only [unmarked, List.map_map, Function.comp_def, Value.unmarked_unmarked]

end Metadata

theorem Entity.unmarked_unmarked (entity : Entity) :
    entity.unmarked.unmarked = entity.unmarked := by
  simp only [unmarked, Metadata.unmarked_unmarked]

/-- Without marks there are none to take off. -/
theorem Snapshot.unmarked_unmarked (snapshot : Snapshot) :
    snapshot.unmarked.unmarked = snapshot.unmarked := by
  simp only [unmarked, Table.change, List.map_map, Function.comp_def, Entity.unmarked_unmarked]

namespace Content

theorem entityLine_unmarked {entity : Entity} (named : entity.metadata.IsNamed) :
    entityLine entity.unmarked = entityLine entity := by
  unfold entityLine
  change (entity.metadata.unmarked.canonicalText.bind fun metadata => _) = _
  rw [Metadata.canonicalText_unmarked named]
  rfl

/-- The identifier does not show the marks. -/
theorem identifier_unmarked {entities : List Entity}
    (named : ∀ entity ∈ entities, entity.metadata.IsNamed) (edges : List Edge)
    (changes : List ChangeSet) :
    identifier (entities.map Entity.unmarked) edges changes =
      identifier entities edges changes := by
  have lines : (entities.map Entity.unmarked).mapM entityLine = entities.mapM entityLine := by
    induction entities with
    | nil => rfl
    | cons entity rest inductionHypothesis =>
        rw [List.map_cons, List.mapM_cons, List.mapM_cons,
          entityLine_unmarked (named entity List.mem_cons_self),
          inductionHypothesis fun other member => named other (List.mem_cons_of_mem _ member)]
  unfold identifier text
  rw [lines]

end Content

end CodeGraph

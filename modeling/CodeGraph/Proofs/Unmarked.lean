import CodeGraph.Metadata
import CodeGraph.Proofs.DocumentText
import CodeGraph.Proofs.Sorting

/-!
This file takes the marks off the numbers that are not a number. No text shows these marks, so what
is computed from texts stays the same.
-/

namespace CodeGraph

namespace Order

variable {α β : Type} {precedes : α → α → Bool} {other : β → β → Bool}
  (change : α → β)

/-- A change that keeps the order of the elements keeps their places. -/
theorem insert_map (same : ∀ first second, other (change first) (change second) =
      precedes first second) (element : α) (elements : List α) :
    insert other (change element) (elements.map change) =
      (insert precedes element elements).map change := by
  induction elements with
  | nil => rfl
  | cons first rest inductionHypothesis =>
      rw [List.map_cons, insert, insert, same]
      split
      · rw [inductionHypothesis, List.map_cons]
      · rfl

theorem sort_map (same : ∀ first second, other (change first) (change second) =
      precedes first second) (elements : List α) :
    sort other (elements.map change) = (sort precedes elements).map change := by
  induction elements with
  | nil => rfl
  | cons first rest inductionHypothesis =>
      change insert other (change first) (sort other (rest.map change)) = _
      rw [inductionHypothesis, insert_map change same]
      rfl

end Order

namespace Value

mutual

/-- The value without the marks of numbers that are not a number. -/
def unmarked : Value → Value
  | .list items => .list (itemsUnmarked items)
  | .object fields => .object (fieldsUnmarked fields)
  | .null => .null
  | .bool value => .bool value
  | .int value => .int value
  | .float value => .float value.unmarked
  | .text value => .text value
termination_by structural value => value

def itemsUnmarked : List Value → List Value
  | [] => []
  | value :: rest => value.unmarked :: itemsUnmarked rest
termination_by structural items => items

def fieldsUnmarked : List (String × Value) → List (String × Value)
  | [] => []
  | (name, value) :: rest => (name, value.unmarked) :: fieldsUnmarked rest
termination_by structural fields => fields

end

mutual

/-- The names of every object in the value differ. -/
def HasDistinctNames : Value → Prop
  | .list items => ItemsHaveDistinctNames items
  | .object fields => (fields.map Prod.fst).Nodup ∧ FieldsHaveDistinctNames fields
  | _ => True
termination_by structural value => value

def ItemsHaveDistinctNames : List Value → Prop
  | [] => True
  | value :: rest => value.HasDistinctNames ∧ ItemsHaveDistinctNames rest
termination_by structural items => items

def FieldsHaveDistinctNames : List (String × Value) → Prop
  | [] => True
  | (_, value) :: rest => value.HasDistinctNames ∧ FieldsHaveDistinctNames rest
termination_by structural fields => fields

end

theorem itemsHaveDistinctNames_iff {items : List Value} :
    ItemsHaveDistinctNames items ↔ ∀ value ∈ items, value.HasDistinctNames := by
  induction items with
  | nil => simp [ItemsHaveDistinctNames]
  | cons value rest inductionHypothesis => simp [ItemsHaveDistinctNames, inductionHypothesis]

theorem fieldsHaveDistinctNames_iff {fields : List (String × Value)} :
    FieldsHaveDistinctNames fields ↔ ∀ field ∈ fields, field.2.HasDistinctNames := by
  induction fields with
  | nil => simp [FieldsHaveDistinctNames]
  | cons field rest inductionHypothesis => simp [FieldsHaveDistinctNames, inductionHypothesis]

theorem itemsUnmarked_eq_map (items : List Value) : itemsUnmarked items = items.map unmarked := by
  induction items with
  | nil => rfl
  | cons item rest inductionHypothesis => rw [itemsUnmarked, inductionHypothesis, List.map_cons]

theorem fieldsUnmarked_eq_map (fields : List (String × Value)) :
    fieldsUnmarked fields = fields.map fun field => (field.1, field.2.unmarked) := by
  induction fields with
  | nil => rfl
  | cons field rest inductionHypothesis => rw [fieldsUnmarked, inductionHypothesis, List.map_cons]

/-- A field of a new name stands behind the earlier ones. -/
theorem setField_fresh {name : String} {known : List (String × Value)}
    (fresh : name ∉ known.map Prod.fst) (value : Value) :
    setField name value known = known ++ [(name, value)] := by
  induction known with
  | nil => rfl
  | cons field rest inductionHypothesis =>
      obtain ⟨other, old⟩ := field
      rw [List.map_cons] at fresh
      obtain ⟨apart, behind⟩ := not_or.mp (mt List.mem_cons.mpr fresh)
      rw [setField, if_neg fun same => apart same.symm, inductionHypothesis behind]
      rfl

mutual

/-- A value with distinct names is read back without its marks. -/
theorem reread_eq_unmarked : ∀ value : Value, value.HasDistinctNames →
    value.reread = value.unmarked
  | .null, _ | .bool _, _ | .int _, _ | .float _, _ | .text _, _ => rfl
  | .list items, distinct => congrArg Value.list (itemsReread_eq_unmarked items distinct)
  | .object fields, distinct =>
      congrArg Value.object (fieldsReread_eq_unmarked fields [] distinct.1 distinct.2)
termination_by structural value => value

theorem itemsReread_eq_unmarked : ∀ items : List Value, ItemsHaveDistinctNames items →
    itemsReread items = itemsUnmarked items
  | [], _ => rfl
  | value :: rest, distinct => by
      rw [itemsReread, reread_eq_unmarked value distinct.1,
        itemsReread_eq_unmarked rest distinct.2, itemsUnmarked]
termination_by structural items => items

theorem fieldsReread_eq_unmarked : ∀ (fields known : List (String × Value)),
    ((known ++ fields).map Prod.fst).Nodup → FieldsHaveDistinctNames fields →
    fieldsReread known fields = known ++ fieldsUnmarked fields
  | [], known, _, _ => (List.append_nil known).symm
  | (name, value) :: rest, known, names, distinct => by
      have fresh : name ∉ known.map Prod.fst := fun member => by
        rw [List.map_append, List.map_cons] at names
        exact (List.nodup_append.mp names).2.2 name member name List.mem_cons_self rfl
      rw [fieldsReread, reread_eq_unmarked value distinct.1, setField_fresh fresh,
        fieldsReread_eq_unmarked rest _ (by simpa using names) distinct.2, fieldsUnmarked,
        List.append_assoc]
      rfl
termination_by structural fields => fields

end

mutual

/-- Without marks there are none to take off. -/
theorem unmarked_unmarked : ∀ value : Value, value.unmarked.unmarked = value.unmarked
  | .null | .bool _ | .int _ | .text _ => rfl
  | .float value => by cases value <;> rfl
  | .list items => congrArg Value.list (itemsUnmarked_itemsUnmarked items)
  | .object fields => congrArg Value.object (fieldsUnmarked_fieldsUnmarked fields)
termination_by structural value => value

theorem itemsUnmarked_itemsUnmarked : ∀ items : List Value,
    itemsUnmarked (itemsUnmarked items) = itemsUnmarked items
  | [] => rfl
  | value :: rest => by
      simp only [itemsUnmarked, unmarked_unmarked value, itemsUnmarked_itemsUnmarked rest]
termination_by structural items => items

theorem fieldsUnmarked_fieldsUnmarked : ∀ fields : List (String × Value),
    fieldsUnmarked (fieldsUnmarked fields) = fieldsUnmarked fields
  | [] => rfl
  | (name, value) :: rest => by
      simp only [fieldsUnmarked, unmarked_unmarked value, fieldsUnmarked_fieldsUnmarked rest]
termination_by structural fields => fields

end

mutual

/-- Texts do not show the marks. -/
theorem textBefore_unmarked (layout : Json.Layout) : ∀ (value : Value) (depth : Nat)
    (behind : List Char),
    value.unmarked.textBefore layout depth behind = value.textBefore layout depth behind
  | .null, _, _ | .bool _, _, _ | .int _, _, _ | .text _, _, _ => rfl
  | .float value, _, _ => by cases value <;> rfl
  | .list [], _, _ => rfl
  | .object [], _, _ => rfl
  | .list (first :: rest), depth, behind => by
      have items := itemsBefore_unmarked layout (first :: rest) (depth + 1)
        (layout.close depth ++ ']' :: behind)
      rw [itemsUnmarked] at items
      simp only [unmarked, itemsUnmarked, textBefore, items]
  | .object ((name, value) :: rest), depth, behind => by
      have fields := fieldsBefore_unmarked layout ((name, value) :: rest) (depth + 1)
        (layout.close depth ++ '}' :: behind)
      rw [fieldsUnmarked] at fields
      simp only [unmarked, fieldsUnmarked, textBefore, fields]
termination_by structural value => value

theorem itemsBefore_unmarked (layout : Json.Layout) : ∀ (items : List Value) (depth : Nat)
    (behind : List Char),
    itemsBefore layout depth behind (itemsUnmarked items) = itemsBefore layout depth behind items
  | [], _, _ => rfl
  | value :: rest, depth, behind => by
      have between : layout.between (itemsUnmarked rest) = layout.between rest := by
        cases rest <;> rfl
      simp only [itemsUnmarked, itemsBefore, between, textBefore_unmarked layout value,
        itemsBefore_unmarked layout rest]
termination_by structural items => items

theorem fieldsBefore_unmarked (layout : Json.Layout) : ∀ (fields : List (String × Value))
    (depth : Nat) (behind : List Char),
    fieldsBefore layout depth behind (fieldsUnmarked fields) =
      fieldsBefore layout depth behind fields
  | [], _, _ => rfl
  | (name, value) :: rest, depth, behind => by
      have between : layout.between (fieldsUnmarked rest) = layout.between rest := by
        cases rest <;> rfl
      simp only [fieldsUnmarked, fieldsBefore, between, textBefore_unmarked layout value,
        fieldsBefore_unmarked layout rest]
termination_by structural fields => fields

end

mutual

/-- The marks have no influence on the order of fields. -/
theorem sorted_unmarked : ∀ value : Value, value.unmarked.sorted = value.sorted.unmarked
  | .null | .bool _ | .int _ | .float _ | .text _ => rfl
  | .list items => congrArg Value.list (sortedItems_unmarked items)
  | .object fields => congrArg Value.object (sortedFields_unmarked fields)
termination_by structural value => value

theorem sortedItems_unmarked : ∀ items : List Value,
    sortedItems (itemsUnmarked items) = itemsUnmarked (sortedItems items)
  | [] => rfl
  | value :: rest => by
      simp only [itemsUnmarked, sortedItems, sorted_unmarked value, sortedItems_unmarked rest]
termination_by structural items => items

theorem sortedFields_unmarked : ∀ fields : List (String × Value),
    sortedFields (fieldsUnmarked fields) = fieldsUnmarked (sortedFields fields)
  | [] => rfl
  | (name, value) :: rest => by
      simp only [fieldsUnmarked, sortedFields, sorted_unmarked value, sortedFields_unmarked rest]
      rw [fieldsUnmarked_eq_map, fieldsUnmarked_eq_map]
      exact Order.insert_map (fun field : String × Value => (field.1, field.2.unmarked))
        (fun _ _ => rfl) (name, value.sorted) _
termination_by structural fields => fields

end

mutual

/-- The marks have no influence on what can be written. -/
theorem writeDefect?_unmarked : ∀ (value : Value) (room : Nat),
    value.unmarked.writeDefect? room = value.writeDefect? room
  | .null, _ | .bool _, _ | .float _, _ | .text _, _ => rfl
  | .int _, room => by simp only [unmarked]
  | .list items, room => by
      simp only [unmarked, writeDefect?, itemsWriteDefect?_unmarked items]
  | .object fields, room => by
      simp only [unmarked, writeDefect?, fieldsWriteDefect?_unmarked fields]
termination_by structural value => value

theorem itemsWriteDefect?_unmarked : ∀ (items : List Value) (room : Nat),
    itemsWriteDefect? room (itemsUnmarked items) = itemsWriteDefect? room items
  | [], _ => rfl
  | value :: rest, room => by
      simp only [itemsUnmarked, itemsWriteDefect?, writeDefect?_unmarked value,
        itemsWriteDefect?_unmarked rest]
termination_by structural items => items

theorem fieldsWriteDefect?_unmarked : ∀ (fields : List (String × Value)) (room : Nat),
    fieldsWriteDefect? room (fieldsUnmarked fields) = fieldsWriteDefect? room fields
  | [], _ => rfl
  | (name, value) :: rest, room => by
      simp only [fieldsUnmarked, fieldsWriteDefect?, writeDefect?_unmarked value,
        fieldsWriteDefect?_unmarked rest]
termination_by structural fields => fields

end

end Value

end CodeGraph

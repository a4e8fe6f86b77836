import CodeGraph.Proofs.Agreement
import CodeGraph.Proofs.RoundTrip

/-!
This file says what the canonical text of metadata shows. It is the text of their document with all
fields in order, and it tells any two documents apart that differ in more than the order of fields
and the marks of numbers that are not a number.
-/

namespace CodeGraph

/-- Texts are in a strict order. -/
theorem Order.text_strict :
    IsStrict (fun first second : String => decide (first < second)) fun _ => True where
  irreflexive text _ := decide_eq_false (String.lt_irrefl text)
  transitive first second third _ _ _ former latter :=
    decide_eq_true (String.lt_trans (of_decide_eq_true former) (of_decide_eq_true latter))
  connected first second _ _ apart := by
    simpa only [decide_eq_true_eq] using text_connected apart

namespace Value

theorem sortedItems_eq_map (items : List Value) : sortedItems items = items.map sorted := by
  induction items with
  | nil => rfl
  | cons item rest inductionHypothesis =>
      rw [sortedItems, inductionHypothesis, List.map_cons]

/-- A field whose value has its own fields in order. -/
def sortedField (field : String × Value) : String × Value := (field.1, field.2.sorted)

theorem sortedFields_eq_sort (fields : List (String × Value)) :
    sortedFields fields = Order.sort fieldPrecedes (fields.map sortedField) := by
  induction fields with
  | nil => rfl
  | cons field rest inductionHypothesis =>
      rw [sortedFields, inductionHypothesis]
      rfl

theorem mem_sortedFields {fields : List (String × Value)} {field : String × Value} :
    field ∈ sortedFields fields ↔ ∃ other ∈ fields, sortedField other = field := by
  rw [sortedFields_eq_sort, Order.mem_sort, List.mem_map]

theorem names_sortedFields (fields : List (String × Value)) :
    ((sortedFields fields).map Prod.fst).Perm (fields.map Prod.fst) := by
  rw [sortedFields_eq_sort]
  refine ((Order.sort_perm _ _).map Prod.fst).trans ?_
  rw [List.map_map]
  exact List.Perm.refl _

theorem sorted_atom (atom : Atom) : atom.toValue.sorted = atom.toValue := by cases atom <;> rfl

theorem HasDoubles.sorted {value : Value} (doubles : value.HasDoubles) :
    value.sorted.HasDoubles := by
  induction value using Value.induct with
  | atom atom => exact (sorted_atom atom).symm ▸ doubles
  | list items inductionHypothesis =>
      have parts := itemsHaveDoubles_iff.mp doubles
      apply itemsHaveDoubles_iff.mpr
      rw [sortedItems_eq_map, List.forall_mem_map]
      exact fun value member => inductionHypothesis value member (parts value member)
  | object fields inductionHypothesis =>
      have parts := fieldsHaveDoubles_iff.mp doubles
      apply fieldsHaveDoubles_iff.mpr
      intro field member
      obtain ⟨other, inside, rfl⟩ := mem_sortedFields.mp member
      exact inductionHypothesis other inside (parts other inside)

theorem HasDistinctNames.sorted {value : Value} (distinct : value.HasDistinctNames) :
    value.sorted.HasDistinctNames := by
  induction value using Value.induct with
  | atom atom => exact (sorted_atom atom).symm ▸ distinct
  | list items inductionHypothesis =>
      have parts := itemsHaveDistinctNames_iff.mp distinct
      apply itemsHaveDistinctNames_iff.mpr
      rw [sortedItems_eq_map, List.forall_mem_map]
      exact fun value member => inductionHypothesis value member (parts value member)
  | object fields inductionHypothesis =>
      have parts := fieldsHaveDistinctNames_iff.mp distinct.2
      refine ⟨(names_sortedFields fields).nodup_iff.mpr distinct.1, ?_⟩
      apply fieldsHaveDistinctNames_iff.mpr
      intro field member
      obtain ⟨other, inside, rfl⟩ := mem_sortedFields.mp member
      exact inductionHypothesis other inside (parts other inside)

theorem IsWritable.sorted {value : Value} {room : Nat} (writable : value.IsWritable room) :
    value.sorted.IsWritable room := by
  induction value using Value.induct generalizing room with
  | atom atom => exact (sorted_atom atom).symm ▸ writable
  | list items inductionHypothesis =>
      obtain ⟨levels, parts⟩ := isWritable_list_iff.mp writable
      apply isWritable_list_iff.mpr
      rw [sortedItems_eq_map, List.forall_mem_map]
      exact ⟨levels, fun value member => inductionHypothesis value member (parts value member)⟩
  | object fields inductionHypothesis =>
      obtain ⟨levels, parts⟩ := isWritable_object_iff.mp writable
      refine isWritable_object_iff.mpr ⟨levels, fun field member => ?_⟩
      obtain ⟨other, inside, rfl⟩ := mem_sortedFields.mp member
      exact inductionHypothesis other inside (parts other inside)

/-- Values with one text are equal up to their marks. -/
theorem unmarked_eq_of_lineText {first second : Value} {room : Nat}
    (firstFormed : first.IsWellFormed) (secondFormed : second.IsWellFormed)
    (firstWritable : first.IsWritable room) (secondWritable : second.IsWritable room)
    (same : first.lineText = second.lineText) : first.unmarked = second.unmarked := by
  -- Both texts are read with as many steps as the longer reading takes.
  have read {value : Value} (formed : value.IsWellFormed) (writable : value.IsWritable room)
      (enough : value.readSteps ≤ first.readSteps + second.readSteps) :
      Json.readValue (first.readSteps + second.readSteps) room value.lineText =
        .ok (value.unmarked, []) := by
    rw [← reread_eq_unmarked value formed.names]
    exact Json.readValue_text Json.Layout.line_isPlain value _ 0 [] formed.doubles writable
      enough Json.endsNumber_nil
  have former := read firstFormed firstWritable (Nat.le_add_right _ _)
  rw [same, read secondFormed secondWritable (Nat.le_add_left _ _)] at former
  exact (congrArg Prod.fst (Except.ok.inj former)).symm

end Value

namespace Metadata

theorem toValue_isWellFormed {metadata : Metadata} (wellFormed : metadata.IsWellFormed)
    (named : metadata.IsNamed) : metadata.toValue.IsWellFormed :=
  ⟨toValue_hasDoubles wellFormed, toValue_hasDistinctNames wellFormed named⟩

/-- Fields that are named by texts are put in order like the fields of an object. -/
theorem sort_texts (fields : List (String × Value)) :
    (Order.sort (fun first second => first.1.lt second.1)
      (fields.map fun field => (Atom.text field.1, field.2))).map
        (fun entry => (entry.1.fieldName, entry.2.sorted)) = Value.sortedFields fields := by
  rw [@Order.sort_map _ _ Value.fieldPrecedes _ (fun field => (Atom.text field.1, field.2))
    (fun _ _ => rfl) fields, List.map_map, Value.sortedFields_eq_sort]
  exact (@Order.sort_map _ _ Value.fieldPrecedes Value.fieldPrecedes Value.sortedField
    (fun _ _ => rfl) fields).symm

/-- The canonical text of metadata with texts for names is that of their document. -/
theorem canonicalText_eq {metadata : Metadata} (serialisable : metadata.IsSerialisable) :
    metadata.canonicalText = .ok metadata.toValue.canonicalText := by
  have fields := sort_texts (metadata.entries.map fun entry => (entry.1.fieldName, entry.2))
  rw [serialisable.named.entries_eq] at fields
  unfold canonicalText
  rw [sort_named serialisable.named, serialisable.writable]
  show Except.ok (Value.object _).lineText = _
  rw [fields]
  rfl

/-- Metadata have one canonical text exactly if their documents are equal up to the order of fields
and the marks. -/
theorem canonicalText_eq_iff {first second : Metadata} (firstFormed : first.IsWellFormed)
    (secondFormed : second.IsWellFormed) (firstSerialisable : first.IsSerialisable)
    (secondSerialisable : second.IsSerialisable) :
    first.canonicalText = second.canonicalText ↔
      first.toValue.sorted.unmarked = second.toValue.sorted.unmarked := by
  have sortedFormed {metadata : Metadata} (formed : metadata.IsWellFormed)
      (named : metadata.IsNamed) : metadata.toValue.sorted.IsWellFormed :=
    have document := toValue_isWellFormed formed named
    ⟨document.doubles.sorted, document.names.sorted⟩
  rw [canonicalText_eq firstSerialisable, canonicalText_eq secondSerialisable, Except.ok.injEq]
  constructor
  · intro same
    exact Value.unmarked_eq_of_lineText (sortedFormed firstFormed firstSerialisable.named)
      (sortedFormed secondFormed secondSerialisable.named)
      firstSerialisable.document.sorted secondSerialisable.document.sorted same
  · intro same
    have text (value : Value) : value.unmarked.lineText = value.lineText :=
      Value.textBefore_unmarked _ _ _ _
    show Value.lineText _ = Value.lineText _
    rw [← text, same, text]

end Metadata

end CodeGraph

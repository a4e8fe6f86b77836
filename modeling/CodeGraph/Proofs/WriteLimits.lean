import CodeGraph.Json.Shown
import CodeGraph.Proofs.FaultKinds
import CodeGraph.Proofs.Outcomes

/-!
This file says which values can be written where so many levels may still be opened, and which ones
can be shown in a message. The limits of reading, committing, saving and answering differ, so the
number of levels is a parameter throughout.
-/

namespace CodeGraph

namespace Value

/-- A property that passes from the parts of a value to the value holds of all values. -/
theorem induct {motive : Value → Prop} (atom : ∀ atom : Atom, motive atom.toValue)
    (list : ∀ items, (∀ value ∈ items, motive value) → motive (.list items))
    (object : ∀ fields, (∀ field ∈ fields, motive field.2) → motive (.object fields)) :
    ∀ value, motive value :=
  @Value.rec motive (fun items => ∀ value ∈ items, motive value)
    (fun fields => ∀ field ∈ fields, motive field.2) (fun field => motive field.2)
    (atom .null) (fun value => atom (.bool value)) (fun value => atom (.int value))
    (fun value => atom (.float value)) (fun value => atom (.text value)) list object
    (fun _ member => absurd member List.not_mem_nil)
    (fun _ _ head tail => List.forall_mem_cons.mpr ⟨head, tail⟩)
    (fun _ member => absurd member List.not_mem_nil)
    (fun _ _ head tail => List.forall_mem_cons.mpr ⟨head, tail⟩) (fun _ _ holds => holds)

/-- The value can be written where so many levels may still be opened. -/
structure IsWritable (room : Nat) (value : Value) : Prop where
  defectless : value.writeDefect? room = none

theorem IsWritable.int {room : Nat} {value : Int} (writable : IsWritable room (.int value)) :
    Decimal.isWritable value = true := by
  have none := writable.defectless
  simp only [writeDefect?] at none
  cases short : Decimal.isWritable value with
  | true => rfl
  | false =>
      rw [short] at none
      cases none

theorem isWritable_text (room : Nat) (value : String) : IsWritable room (.text value) := ⟨rfl⟩

theorem isWritable_bool (room : Nat) (value : Bool) : IsWritable room (.bool value) := ⟨rfl⟩

theorem isWritable_int {value : Int} (writable : Decimal.isWritable value = true) (room : Nat) :
    IsWritable room (.int value) where
  defectless := by simp only [writeDefect?, writable, if_true]

theorem itemsWriteDefect?_eq_none_iff {room : Nat} {items : List Value} :
    itemsWriteDefect? room items = none ↔ ∀ value ∈ items, value.IsWritable room := by
  induction items with
  | nil => simp [itemsWriteDefect?]
  | cons value rest inductionHypothesis =>
      rw [itemsWriteDefect?, Option.or_eq_none_iff, inductionHypothesis, List.forall_mem_cons]
      exact and_congr_left fun _ => ⟨IsWritable.mk, IsWritable.defectless⟩

theorem fieldsWriteDefect?_eq_none_iff {room : Nat} {fields : List (String × Value)} :
    fieldsWriteDefect? room fields = none ↔ ∀ field ∈ fields, field.2.IsWritable room := by
  induction fields with
  | nil => simp [fieldsWriteDefect?]
  | cons field rest inductionHypothesis =>
      rw [fieldsWriteDefect?, Option.or_eq_none_iff, inductionHypothesis, List.forall_mem_cons]
      exact and_congr_left fun _ => ⟨IsWritable.mk, IsWritable.defectless⟩

/-- A list takes one level, and its items need the rest. -/
theorem isWritable_list_iff {room : Nat} {items : List Value} :
    IsWritable room (.list items) ↔ room ≠ 0 ∧ ∀ value ∈ items, value.IsWritable (room - 1) := by
  rw [← itemsWriteDefect?_eq_none_iff]
  by_cases none : room = 0
  · refine ⟨fun writable => ?_, fun fits => absurd none fits.1⟩
    have defectless := writable.defectless
    simp only [writeDefect?, if_pos none] at defectless
    cases defectless
  · refine ⟨fun writable => ⟨none, ?_⟩, fun fits => ⟨?_⟩⟩
    · simpa only [writeDefect?, if_neg none] using writable.defectless
    · simpa only [writeDefect?, if_neg none] using fits.2

/-- An object takes one level, and its fields need the rest. -/
theorem isWritable_object_iff {room : Nat} {fields : List (String × Value)} :
    IsWritable room (.object fields) ↔
      room ≠ 0 ∧ ∀ field ∈ fields, field.2.IsWritable (room - 1) := by
  rw [← fieldsWriteDefect?_eq_none_iff]
  by_cases none : room = 0
  · refine ⟨fun writable => ?_, fun fits => absurd none fits.1⟩
    have defectless := writable.defectless
    simp only [writeDefect?, if_pos none] at defectless
    cases defectless
  · refine ⟨fun writable => ⟨none, ?_⟩, fun fits => ⟨?_⟩⟩
    · simpa only [writeDefect?, if_neg none] using writable.defectless
    · simpa only [writeDefect?, if_neg none] using fits.2

/-- More levels never hurt. -/
theorem IsWritable.mono {room : Nat} {value : Value} (writable : value.IsWritable room) :
    ∀ more, room ≤ more → value.IsWritable more := by
  induction value using Value.induct generalizing room with
  | atom atom =>
      intro more _
      cases atom with
      | int number => exact isWritable_int writable.int more
      | null | bool | float | text => exact ⟨rfl⟩
  | list items inductionHypothesis =>
      intro more larger
      obtain ⟨some, parts⟩ := isWritable_list_iff.mp writable
      refine isWritable_list_iff.mpr ⟨by omega, fun value member => ?_⟩
      exact inductionHypothesis value member (parts value member) (more - 1) (by omega)
  | object fields inductionHypothesis =>
      intro more larger
      obtain ⟨some, parts⟩ := isWritable_object_iff.mp writable
      refine isWritable_object_iff.mpr ⟨by omega, fun field member => ?_⟩
      exact inductionHypothesis field member (parts field member) (more - 1) (by omega)

/-- A defect of items is one of an item. -/
theorem exists_itemsWriteDefect? {room : Nat} {items : List Value} {cause : Defect}
    (found : itemsWriteDefect? room items = some cause) :
    ∃ value ∈ items, value.writeDefect? room = some cause := by
  induction items with
  | nil => cases found
  | cons value rest inductionHypothesis =>
      rw [itemsWriteDefect?, Option.or_eq_some_iff] at found
      rcases found with first | ⟨-, behind⟩
      · exact ⟨value, List.mem_cons_self, first⟩
      · obtain ⟨other, member, inside⟩ := inductionHypothesis behind
        exact ⟨other, List.mem_cons_of_mem _ member, inside⟩

/-- A defect of fields is one of the value of a field. -/
theorem exists_fieldsWriteDefect? {room : Nat} {fields : List (String × Value)} {cause : Defect}
    (found : fieldsWriteDefect? room fields = some cause) :
    ∃ field ∈ fields, field.2.writeDefect? room = some cause := by
  induction fields with
  | nil => cases found
  | cons field rest inductionHypothesis =>
      rw [fieldsWriteDefect?, Option.or_eq_some_iff] at found
      rcases found with first | ⟨-, behind⟩
      · exact ⟨field, List.mem_cons_self, first⟩
      · obtain ⟨other, member, inside⟩ := inductionHypothesis behind
        exact ⟨other, List.mem_cons_of_mem _ member, inside⟩

/-- Only levels and digits are in the way of writing. -/
theorem writeDefect?_cause {room : Nat} {value : Value} {cause : Defect}
    (found : value.writeDefect? room = some cause) : cause = .tooManyDigits ∨ cause = .tooDeep := by
  induction value using Value.induct generalizing room with
  | atom atom =>
      cases atom with
      | int number =>
          simp only [Atom.toValue, writeDefect?] at found
          split at found
          · cases found
          · exact .inl (Option.some.inj found).symm
      | null | bool | float | text => cases found
  | list items inductionHypothesis =>
      simp only [writeDefect?] at found
      split at found
      · exact .inr (Option.some.inj found).symm
      · obtain ⟨value, member, inside⟩ := exists_itemsWriteDefect? found
        exact inductionHypothesis value member inside
  | object fields inductionHypothesis =>
      simp only [writeDefect?] at found
      split at found
      · exact .inr (Option.some.inj found).symm
      · obtain ⟨field, member, inside⟩ := exists_fieldsWriteDefect? found
        exact inductionHypothesis field member inside

/-- The value can be shown in a message. -/
abbrev CanBeShown (value : Value) : Prop := value.IsWritable shownLimit

theorem canBeShown_text (text : String) : (Value.text text).CanBeShown := isWritable_text _ text

section WhenShown

variable {α : Type} {value : Value} {outcome : Outcome α}

theorem whenShown_of (shown : value.CanBeShown) : value.whenShown outcome = outcome := by
  rw [whenShown, shown.defectless]

theorem whenShown_ok_iff {result : α} :
    value.whenShown outcome = .ok result ↔ value.CanBeShown ∧ outcome = .ok result := by
  unfold whenShown
  cases found : value.writeDefect? shownLimit with
  | none => exact ⟨fun given => ⟨⟨found⟩, given⟩, And.right⟩
  | some cause =>
      constructor
      · intro given
        cases given
      · rintro ⟨shown, -⟩
        cases found.symm.trans shown.defectless

theorem whenShown_crashes (unshown : ¬ value.CanBeShown) :
    ∃ cause, value.whenShown outcome = crash cause := by
  unfold whenShown
  cases found : value.writeDefect? shownLimit with
  | none => exact absurd ⟨found⟩ unshown
  | some cause => exact ⟨cause, rfl⟩

theorem whenShown_error_ne_ok {fault : Fault} {result : α} :
    value.whenShown (.error fault) ≠ .ok result :=
  fun given => nomatch (whenShown_ok_iff.mp given).2

end WhenShown

end Value

theorem Outcome.OnlyRefuses.whenShown {α : Type} {value : Value} {outcome : Outcome α}
    (shown : value.CanBeShown) (only : OnlyRefuses outcome) :
    OnlyRefuses (value.whenShown outcome) := by
  rw [Value.whenShown_of shown]
  exact only

/-- Showing a value adds the two defects of values that cannot be shown. -/
theorem FailsWithin.whenShown {α : Type} {kind : Fault → Prop} {value : Value}
    {outcome : Outcome α} (within : FailsWithin kind outcome)
    (unshown : ∀ cause, value.writeDefect? Value.shownLimit = some cause → kind (.defect cause)) :
    FailsWithin kind (value.whenShown outcome) := by
  unfold Value.whenShown
  cases found : value.writeDefect? Value.shownLimit with
  | none => exact within
  | some cause => exact .error (unshown cause found)

end CodeGraph

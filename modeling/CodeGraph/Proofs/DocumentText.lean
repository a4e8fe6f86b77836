import CodeGraph.Proofs.AtomText
import CodeGraph.Proofs.WriteLimits

/-!
This file says that the text of a value is read as this value, whatever layout its items are set
apart in.
-/

namespace CodeGraph

namespace Value

mutual

/-- The value that the text of a value denotes. Of the fields of one name the last one counts, and a
number that is not a number carries no mark. -/
def reread : Value → Value
  | .list items => .list (itemsReread items)
  | .object fields => .object (fieldsReread [] fields)
  | .null => .null
  | .bool value => .bool value
  | .int value => .int value
  | .float value => .float value.unmarked
  | .text value => .text value
termination_by structural value => value

def itemsReread : List Value → List Value
  | [] => []
  | value :: rest => value.reread :: itemsReread rest
termination_by structural items => items

def fieldsReread (known : List (String × Value)) : List (String × Value) → List (String × Value)
  | [] => known
  | (name, value) :: rest => fieldsReread (setField name value.reread known) rest
termination_by structural fields => fields

end

mutual

/-- The numbers in the value are of double precision. -/
def HasDoubles : Value → Prop
  | .list items => ItemsHaveDoubles items
  | .object fields => FieldsHaveDoubles fields
  | .float value => value.IsWellFormed
  | _ => True
termination_by structural value => value

def ItemsHaveDoubles : List Value → Prop
  | [] => True
  | value :: rest => value.HasDoubles ∧ ItemsHaveDoubles rest
termination_by structural items => items

def FieldsHaveDoubles : List (String × Value) → Prop
  | [] => True
  | (_, value) :: rest => value.HasDoubles ∧ FieldsHaveDoubles rest
termination_by structural fields => fields

end

theorem itemsHaveDoubles_iff {items : List Value} :
    ItemsHaveDoubles items ↔ ∀ value ∈ items, value.HasDoubles := by
  induction items with
  | nil => simp [ItemsHaveDoubles]
  | cons value rest inductionHypothesis => simp [ItemsHaveDoubles, inductionHypothesis]

theorem fieldsHaveDoubles_iff {fields : List (String × Value)} :
    FieldsHaveDoubles fields ↔ ∀ field ∈ fields, field.2.HasDoubles := by
  induction fields with
  | nil => simp [FieldsHaveDoubles]
  | cons field rest inductionHypothesis => simp [FieldsHaveDoubles, inductionHypothesis]

mutual

/-- The steps in which a value is read. -/
def readSteps : Value → Nat
  | .list items => 2 + itemsReadSteps items
  | .object fields => 2 + fieldsReadSteps fields
  | _ => 1
termination_by structural value => value

def itemsReadSteps : List Value → Nat
  | [] => 0
  | value :: rest => 1 + value.readSteps + itemsReadSteps rest
termination_by structural items => items

def fieldsReadSteps : List (String × Value) → Nat
  | [] => 0
  | (_, value) :: rest => 1 + value.readSteps + fieldsReadSteps rest
termination_by structural fields => fields

end

end Value

namespace Json

/-- Only blanks stand in the text. -/
def AreBlanks (text : List Char) : Prop := ∀ c ∈ text, isBlank c = true

/-- Items are set apart by blanks and one comma. -/
structure Layout.IsPlain (layout : Layout) : Prop where
  lead : ∀ depth, AreBlanks (layout.lead depth)
  close : ∀ depth, AreBlanks (layout.close depth)
  separator : ∃ blanks, layout.separator = ',' :: blanks ∧ AreBlanks blanks

theorem Layout.indented_isPlain : Layout.indented.IsPlain := by
  have blanks (depth : Nat) : AreBlanks ('\n' :: List.replicate (2 * depth) ' ') := by
    intro c member
    rcases List.mem_cons.mp member with rfl | spaces
    · rfl
    · rw [List.eq_of_mem_replicate spaces]
      rfl
  exact ⟨blanks, blanks, [], rfl, fun _ member => absurd member List.not_mem_nil⟩

theorem Layout.line_isPlain : Layout.line.IsPlain := by
  have nothing : AreBlanks [] := fun _ member => absurd member List.not_mem_nil
  have space : AreBlanks [' '] := List.forall_mem_singleton.mpr rfl
  exact ⟨fun _ => nothing, fun _ => nothing, [' '], rfl, space⟩

theorem skipBlanks_append {blanks : List Char} (areBlanks : AreBlanks blanks) (text : List Char) :
    skipBlanks (blanks ++ text) = skipBlanks text := by
  induction blanks with
  | nil => rfl
  | cons c rest inductionHypothesis =>
      rw [← inductionHypothesis fun other member => areBlanks other (List.mem_cons_of_mem _ member)]
      unfold skipBlanks
      rw [List.cons_append, List.dropWhile_cons, areBlanks c List.mem_cons_self]
      rfl

theorem skipBlanks_solid {c : Char} (solid : isBlank c = false) (rest : List Char) :
    skipBlanks (c :: rest) = c :: rest := by
  unfold skipBlanks
  rw [List.dropWhile_cons, solid]
  rfl

/-- A number ends in front of blanks and of any mark between items. -/
theorem endsNumber_blanks {blanks : List Char} (areBlanks : AreBlanks blanks) {mark : Char}
    (isMark : mark = ',' ∨ mark = ']' ∨ mark = '}') (rest : List Char) :
    EndsNumber (blanks ++ mark :: rest) := by
  intro c more same
  cases blanks with
  | nil =>
      rw [← (List.cons.inj same).1]
      rcases isMark with rfl | rfl | rfl <;> decide
  | cons blank blanks =>
      rw [← (List.cons.inj same).1]
      have isBlank := areBlanks blank List.mem_cons_self
      unfold Json.isBlank at isBlank
      simp only [Bool.or_eq_true, beq_iff_eq] at isBlank
      rcases isBlank with ((rfl | rfl) | rfl) | rfl <;> decide

theorem endsNumber_nil : EndsNumber [] := fun _ _ same => by cases same

end Json

end CodeGraph

import CodeGraph.Proofs.DocumentText

/-!
This file reads back what was written, value by value. The induction is on the value, and the number
of reading steps carries it through the nested lists and objects.
-/

namespace CodeGraph.Json

/-- No atom begins with a blank or with the mark of a text, a list or an object. -/
theorem head_of_readAtom {text : List Char} {result : Value × List Char}
    (read : readAtom text = .ok result) :
    ∃ c rest, text = c :: rest ∧ isBlank c = false ∧ c ≠ '"' ∧ c ≠ '[' ∧ c ≠ '{' ∧ c ≠ ']' := by
  cases text with
  | nil => cases read
  | cons c rest =>
      refine ⟨c, rest, rfl, ?_, ?_, ?_, ?_, ?_⟩
      · cases blank : isBlank c with
        | false => rfl
        | true =>
            unfold isBlank at blank
            simp only [Bool.or_eq_true, beq_iff_eq] at blank
            rcases blank with ((rfl | rfl) | rfl) | rfl <;> cases read
      all_goals
        rintro rfl
        cases read

/-- An atom is a value. -/
theorem readValue_atom {text : List Char} {result : Value × List Char}
    (read : readAtom text = .ok result) {fuel : Nat} (enough : 1 ≤ fuel) (room : Nat) :
    readValue fuel room text = .ok result := by
  obtain ⟨c, rest, rfl, -, quote, bracket, brace, -⟩ := head_of_readAtom read
  obtain ⟨fuel, rfl⟩ : ∃ count, fuel = count + 1 := ⟨fuel - 1, by omega⟩
  unfold readValue
  split
  · rename_i same
    exact absurd (List.cons.inj same).1 quote
  · rename_i same
    exact absurd (List.cons.inj same).1 bracket
  · rename_i same
    exact absurd (List.cons.inj same).1 brace
  · exact read

/-- No value begins with a blank or with the end of a list. -/
theorem textBefore_head (layout : Layout) (depth : Nat) (behind : List Char) {room : Nat}
    {value : Value} (doubles : value.HasDoubles) (writable : value.IsWritable room) :
    ∃ c rest, value.textBefore layout depth behind = c :: rest ∧ isBlank c = false ∧ c ≠ ']' := by
  have ofAtom {text : List Char} {result : Value × List Char} (read : readAtom text = .ok result) :
      ∃ c rest, text ++ behind = c :: rest ∧ isBlank c = false ∧ c ≠ ']' := by
    obtain ⟨c, rest, rfl, solid, -, -, -, bracket⟩ := head_of_readAtom read
    exact ⟨c, rest ++ behind, rfl, solid, bracket⟩
  cases value with
  | null => exact ⟨'n', _, rfl, rfl, by decide⟩
  | bool value => cases value <;> exact ⟨_, _, rfl, rfl, by decide⟩
  | int value =>
      have read := readAtom_integer writable.int endsNumber_nil
      rw [List.append_nil] at read
      exact ofAtom read
  | float value =>
      have wellFormed : value.IsWellFormed := doubles
      have read := readAtom_float wellFormed endsNumber_nil
      rw [List.append_nil] at read
      exact ofAtom read
  | text value => exact ⟨'"', _, rfl, rfl, by decide⟩
  | list items => cases items <;> exact ⟨'[', _, rfl, rfl, by decide⟩
  | object fields => cases fields <;> exact ⟨'{', _, rfl, rfl, by decide⟩

theorem quoted_append (text behind : List Char) :
    quoted text ++ behind = '"' :: (text.flatMap charText ++ '"' :: behind) := by
  simp [quoted]

theorem skipBlanks_between {layout : Layout} (plain : layout.IsPlain) {α : Type} {rest : List α}
    (more : rest ≠ []) (text : List Char) :
    ∃ blanks, layout.between rest ++ text = ',' :: (blanks ++ text) ∧ AreBlanks blanks := by
  obtain ⟨blanks, separator, areBlanks⟩ := plain.separator
  refine ⟨blanks, ?_, areBlanks⟩
  unfold Layout.between
  cases rest with
  | nil => exact absurd rfl more
  | cons first rest =>
      rw [separator]
      rfl

/-- A value ends in front of the next item and in front of the end of its list or object. -/
theorem endsNumber_between {layout : Layout} (plain : layout.IsPlain) {α : Type} (rest : List α)
    {text blanks behind : List Char} {mark : Char} (isMark : mark = ']' ∨ mark = '}')
    (last : rest = [] → text = blanks ++ mark :: behind) (areBlanks : AreBlanks blanks) :
    EndsNumber (layout.between rest ++ text) := by
  by_cases more : rest = []
  · have none : layout.between rest = [] := by rw [more]; rfl
    rw [none, List.nil_append, last more]
    exact endsNumber_blanks areBlanks (Or.inr isMark) behind
  · obtain ⟨separated, same, -⟩ := skipBlanks_between plain more text
    rw [same]
    have none : AreBlanks [] := fun _ member => absurd member List.not_mem_nil
    exact endsNumber_blanks none (Or.inl rfl) _

/-- The lead in front of a value is skipped. -/
theorem skipBlanks_value {layout : Layout} {lead behind : List Char} {depth room : Nat}
    {value : Value} (areBlanks : AreBlanks lead) (doubles : value.HasDoubles)
    (writable : value.IsWritable room) :
    skipBlanks (lead ++ value.textBefore layout depth behind) =
      value.textBefore layout depth behind := by
  obtain ⟨c, rest, same, solid, -⟩ :=
    textBefore_head layout depth behind doubles writable
  rw [skipBlanks_append areBlanks, same, skipBlanks_solid solid]

/-- A field begins with its name in quotes. -/
theorem skipBlanks_field (layout : Layout) (depth : Nat)
    (areBlanks : AreBlanks (layout.lead depth)) (name : String) (value : Value)
    (rest : List (String × Value)) (behind : List Char) :
    skipBlanks (Value.fieldsBefore layout depth behind ((name, value) :: rest)) =
      '"' :: (name.toList.flatMap charText ++ '"' :: ':' :: ' ' ::
        value.textBefore layout depth
          (layout.between rest ++ Value.fieldsBefore layout depth behind rest)) := by
  rw [Value.fieldsBefore]
  simp only [List.append_assoc, quoted_append, List.cons_append, List.nil_append]
  rw [skipBlanks_append areBlanks, skipBlanks_solid rfl]

/-- A list with items is read item by item. -/
theorem readList_items {fuel room : Nat} {text behind : List Char} {items : List Value}
    (head : ∃ c rest, skipBlanks text = c :: rest ∧ c ≠ ']')
    (read : readItems fuel room (skipBlanks text) = .ok (items, behind)) :
    readList (fuel + 1) room text = .ok (.list items, behind) := by
  obtain ⟨c, rest, same, apart⟩ := head
  rw [same] at read
  unfold readList
  rw [same]
  split
  · rename_i closed
    exact absurd (List.cons.inj closed).1 apart
  · rw [read]
    rfl

/-- An object with fields is read field by field. -/
theorem readObject_fields {fuel room : Nat} {text inside behind : List Char}
    {fields : List (String × Value)} (head : skipBlanks text = '"' :: inside)
    (read : readFields fuel room [] ('"' :: inside) = .ok (fields, behind)) :
    readObject (fuel + 1) room text = .ok (.object fields, behind) := by
  unfold readObject
  rw [head]
  split
  · rename_i closed
    exact absurd (List.cons.inj closed).1 (by decide)
  · rw [read]
    rfl

theorem readItems_last {fuel room : Nat} {text behind rest : List Char} {value : Value}
    (read : readValue fuel room text = .ok (value, behind))
    (closed : skipBlanks behind = ']' :: rest) :
    readItems (fuel + 1) room text = .ok ([value], rest) := by
  rw [readItems, read]
  simp only [closed]

theorem readItems_more {fuel room : Nat} {text behind rest last : List Char} {value : Value}
    {values : List Value} (read : readValue fuel room text = .ok (value, behind))
    (comma : skipBlanks behind = ',' :: rest)
    (further : readItems fuel room (skipBlanks rest) = .ok (values, last)) :
    readItems (fuel + 1) room text = .ok (value :: values, last) := by
  rw [readItems, read]
  simp only [comma, further, Except.map]

section Field

variable {fuel room : Nat} {name : String} {text behind rest last : List Char} {value : Value}
  {known fields : List (String × Value)}

theorem readFields_last (read : readValue fuel room (skipBlanks text) = .ok (value, behind))
    (closed : skipBlanks behind = '}' :: rest) :
    readFields (fuel + 1) room known ('"' :: (name.toList.flatMap charText ++ '"' :: ':' :: text)) =
      .ok (Value.setField name value known, rest) := by
  have colon : skipBlanks (':' :: text) = ':' :: text := skipBlanks_solid rfl text
  simp only [readFields, readQuoted_text, colon, read, String.ofList_toList, closed]

theorem readFields_more (read : readValue fuel room (skipBlanks text) = .ok (value, behind))
    (comma : skipBlanks behind = ',' :: rest)
    (further : readFields fuel room (Value.setField name value known) (skipBlanks rest) =
      .ok (fields, last)) :
    readFields (fuel + 1) room known ('"' :: (name.toList.flatMap charText ++ '"' :: ':' :: text)) =
      .ok (fields, last) := by
  have colon : skipBlanks (':' :: text) = ':' :: text := skipBlanks_solid rfl text
  simp only [readFields, readQuoted_text, colon, read, String.ofList_toList, comma, further]

end Field

/-- A reading of at least one step has a first step. -/
theorem exists_succ {count fuel : Nat} (enough : count + 1 ≤ fuel) :
    ∃ rest, fuel = rest + 1 ∧ count ≤ rest := ⟨fuel - 1, by omega, by omega⟩

mutual

/-- The text of a value is read as this value. -/
theorem readValue_text {layout : Layout} (plain : layout.IsPlain) :
    ∀ (value : Value) (fuel : Nat) {room : Nat} (depth : Nat) (behind : List Char),
      value.HasDoubles → value.IsWritable room → value.readSteps ≤ fuel → EndsNumber behind →
      readValue fuel room (value.textBefore layout depth behind) = .ok (value.reread, behind)
  | .null, _, room, _, _, _, _, enough, _ => readValue_atom (by rfl) enough room
  | .bool value, _, room, _, _, _, _, enough, _ =>
      readValue_atom (by cases value <;> rfl) enough room
  | .int value, _, room, _, _, _, writable, enough, ends =>
      readValue_atom (readAtom_integer writable.int ends) enough room
  | .float value, _, room, _, _, doubles, _, enough, ends => by
      have wellFormed : value.IsWellFormed := doubles
      exact readValue_atom (readAtom_float wellFormed ends) enough room
  | .text value, fuel, room, depth, behind, _, _, enough, _ => by
      have first : 0 + 1 ≤ fuel := enough
      obtain ⟨fuel, rfl, -⟩ := exists_succ first
      simp only [Value.textBefore, quoted_append, readValue, readQuoted_text, Except.map,
        String.ofList_toList, Value.reread]
  | .list items, fuel, room, depth, behind, doubles, writable, enough, _ => by
      obtain ⟨levels, itemsWritable⟩ := Value.isWritable_list_iff.mp writable
      have itemsDoubles := Value.itemsHaveDoubles_iff.mp doubles
      rw [Value.readSteps, Nat.add_comm] at enough
      obtain ⟨fuel, rfl, enoughInside⟩ := exists_succ enough
      obtain ⟨fuel, rfl, enoughItems⟩ := exists_succ enoughInside
      cases items with
      | nil =>
          simp only [Value.textBefore, readValue, if_neg levels, readList, Value.reread,
            Value.itemsReread]
          rfl
      | cons first rest =>
          have read := readItems_text plain (first :: rest) (depth + 1) behind itemsDoubles
             itemsWritable enoughItems (List.cons_ne_nil _ _)
            (plain.close depth)
          have head : ∃ c more, skipBlanks (Value.itemsBefore layout (depth + 1)
              (layout.close depth ++ ']' :: behind) (first :: rest)) = c :: more ∧ c ≠ ']' := by
            have firstDoubles := itemsDoubles first List.mem_cons_self
            have firstWritable := itemsWritable first List.mem_cons_self
            rw [Value.itemsBefore, skipBlanks_value (plain.lead _) firstDoubles firstWritable]
            obtain ⟨c, more, same, -, apart⟩ := textBefore_head layout (depth + 1) _
              firstDoubles firstWritable
            exact ⟨c, more, same, apart⟩
          simp only [Value.textBefore, readValue, if_neg levels, Value.reread]
          exact readList_items head read
  | .object fields, fuel, room, depth, behind, doubles, writable, enough, _ => by
      obtain ⟨levels, fieldsWritable⟩ := Value.isWritable_object_iff.mp writable
      have fieldsDoubles := Value.fieldsHaveDoubles_iff.mp doubles
      rw [Value.readSteps, Nat.add_comm] at enough
      obtain ⟨fuel, rfl, enoughInside⟩ := exists_succ enough
      obtain ⟨fuel, rfl, enoughItems⟩ := exists_succ enoughInside
      cases fields with
      | nil =>
          simp only [Value.textBefore, readValue, if_neg levels, readObject, Value.reread,
            Value.fieldsReread]
          rfl
      | cons first rest =>
          have read := readFields_text plain (first :: rest) (depth + 1) behind [] fieldsDoubles
             fieldsWritable enoughItems (List.cons_ne_nil _ _)
            (plain.close depth)
          obtain ⟨name, value⟩ := first
          have head := skipBlanks_field layout (depth + 1) (plain.lead _) name
             value rest (layout.close depth ++ '}' :: behind)
          rw [head] at read
          simp only [Value.textBefore, readValue, if_neg levels, Value.reread]
          exact readObject_fields head read
termination_by structural value => value

theorem readItems_text {layout : Layout} (plain : layout.IsPlain) :
    ∀ (items : List Value) {fuel room : Nat} (depth : Nat) (behind : List Char)
      {blanks : List Char},
      (∀ value ∈ items, value.HasDoubles) → (∀ value ∈ items, value.IsWritable room) →
      Value.itemsReadSteps items ≤ fuel → items ≠ [] → AreBlanks blanks →
      readItems fuel room
        (skipBlanks (Value.itemsBefore layout depth (blanks ++ ']' :: behind) items)) =
        .ok (Value.itemsReread items, behind)
  | [], _, _, _, _, _, _, _, _, filled, _ => absurd rfl filled
  | value :: rest, fuel, room, depth, behind, blanks, doubles, writable, enough, _,
      areBlanks => by
      have valueDoubles := doubles value List.mem_cons_self
      have valueWritable := writable value List.mem_cons_self
      rw [Value.itemsReadSteps, Nat.add_assoc, Nat.add_comm] at enough
      obtain ⟨fuel, rfl, enoughRest⟩ := exists_succ enough
      rw [Value.itemsBefore, skipBlanks_value (plain.lead _) valueDoubles valueWritable]
      have ends : EndsNumber (layout.between rest ++
          Value.itemsBefore layout depth (blanks ++ ']' :: behind) rest) :=
        endsNumber_between plain rest (Or.inl rfl) (fun last => by rw [last]; rfl) areBlanks
      have valueRead := readValue_text plain value fuel depth _ valueDoubles
        valueWritable (by omega) ends
      by_cases last : rest = []
      · subst last
        refine readItems_last valueRead ?_
        change skipBlanks (blanks ++ ']' :: behind) = _
        rw [skipBlanks_append areBlanks, skipBlanks_solid rfl]
      · obtain ⟨separated, same, separatedBlanks⟩ := skipBlanks_between plain last
          (Value.itemsBefore layout depth (blanks ++ ']' :: behind) rest)
        refine readItems_more valueRead (by rw [same, skipBlanks_solid rfl]) ?_
        rw [skipBlanks_append separatedBlanks]
        exact readItems_text plain rest depth behind
          (fun other member => doubles other (List.mem_cons_of_mem _ member))
          (fun other member => writable other (List.mem_cons_of_mem _ member)) (by omega) last
          areBlanks
termination_by structural items => items

theorem readFields_text {layout : Layout} (plain : layout.IsPlain) :
    ∀ (fields : List (String × Value)) {fuel room : Nat} (depth : Nat) (behind : List Char)
      {blanks : List Char} (known : List (String × Value)),
      (∀ field ∈ fields, field.2.HasDoubles) → (∀ field ∈ fields, field.2.IsWritable room) →
      Value.fieldsReadSteps fields ≤ fuel → fields ≠ [] → AreBlanks blanks →
      readFields fuel room known
        (skipBlanks (Value.fieldsBefore layout depth (blanks ++ '}' :: behind) fields)) =
        .ok (Value.fieldsReread known fields, behind)
  | [], _, _, _, _, _, _, _, _, _, filled, _ => absurd rfl filled
  | (name, value) :: rest, fuel, room, depth, behind, blanks, known, doubles, writable, enough,
      _, areBlanks => by
      have valueDoubles := doubles (name, value) List.mem_cons_self
      have valueWritable := writable (name, value) List.mem_cons_self
      rw [Value.fieldsReadSteps, Nat.add_assoc, Nat.add_comm] at enough
      obtain ⟨fuel, rfl, enoughRest⟩ := exists_succ enough
      rw [skipBlanks_field layout depth (plain.lead _)]
      have ends : EndsNumber (layout.between rest ++
          Value.fieldsBefore layout depth (blanks ++ '}' :: behind) rest) :=
        endsNumber_between plain rest (Or.inr rfl) (fun last => by rw [last]; rfl) areBlanks
      have space : AreBlanks [' '] := fun c member => by rw [List.mem_singleton.mp member]; rfl
      have valueRead := readValue_text plain value fuel depth _ valueDoubles
        valueWritable (by omega) ends
      rw [← skipBlanks_value space valueDoubles valueWritable] at valueRead
      by_cases last : rest = []
      · subst last
        refine readFields_last valueRead ?_
        change skipBlanks (blanks ++ '}' :: behind) = _
        rw [skipBlanks_append areBlanks, skipBlanks_solid rfl]
      · obtain ⟨separated, same, separatedBlanks⟩ := skipBlanks_between plain last
          (Value.fieldsBefore layout depth (blanks ++ '}' :: behind) rest)
        refine readFields_more valueRead (by rw [same, skipBlanks_solid rfl]) ?_
        rw [skipBlanks_append separatedBlanks]
        exact readFields_text plain rest depth behind _
          (fun other member => doubles other (List.mem_cons_of_mem _ member))
          (fun other member => writable other (List.mem_cons_of_mem _ member)) (by omega) last
          areBlanks
termination_by structural fields => fields

end

end CodeGraph.Json

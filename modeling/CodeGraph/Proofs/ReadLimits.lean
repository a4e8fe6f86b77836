import CodeGraph.Proofs.Agreement
import CodeGraph.Proofs.DigitRun
import CodeGraph.Proofs.StoredItems

/-!
This file says what all values have in common that are read. They keep to the limits under which
values are written: no number has too many digits, and nothing is nested too deep. Their numbers are
of double precision, the names of an object differ, and no number that is "not a number" is marked.
-/

namespace CodeGraph

namespace Value

/-- The fields are those from before and the one that was set. -/
theorem mem_setField {name : String} {value : Value} {known : List (String × Value)}
    {field : String × Value} (member : field ∈ setField name value known) :
    field.2 = value ∨ field ∈ known := by
  induction known with
  | nil => exact .inl (congrArg Prod.snd (List.mem_singleton.mp member))
  | cons first rest inductionHypothesis =>
      unfold setField at member
      split at member
      · rcases List.mem_cons.mp member with rfl | behind
        · exact .inl rfl
        · exact .inr (List.mem_cons_of_mem _ behind)
      · rcases List.mem_cons.mp member with rfl | behind
        · exact .inr List.mem_cons_self
        · exact (inductionHypothesis behind).imp_right (List.mem_cons_of_mem _)

theorem itemsUnmarked_eq_self_iff {items : List Value} :
    itemsUnmarked items = items ↔ ∀ item ∈ items, item.unmarked = item := by
  induction items with
  | nil => simp [itemsUnmarked]
  | cons item rest inductionHypothesis => simp [itemsUnmarked, inductionHypothesis]

theorem fieldsUnmarked_eq_self_iff {fields : List (String × Value)} :
    fieldsUnmarked fields = fields ↔ ∀ field ∈ fields, field.2.unmarked = field.2 := by
  induction fields with
  | nil => simp [fieldsUnmarked]
  | cons field rest inductionHypothesis =>
      rw [fieldsUnmarked, List.cons.injEq, List.forall_mem_cons, inductionHypothesis]
      simp [Prod.ext_iff]

/-- A field of a known name keeps its place. -/
theorem names_setField {name : String} (value : Value) {known : List (String × Value)}
    (present : name ∈ known.map Prod.fst) :
    (setField name value known).map Prod.fst = known.map Prod.fst := by
  induction known with
  | nil => exact absurd present List.not_mem_nil
  | cons field rest inductionHypothesis =>
      unfold setField
      split
      · rfl
      · rename_i other
        rcases List.mem_cons.mp present with same | behind
        · exact absurd same.symm other
        · rw [List.map_cons, inductionHypothesis behind, List.map_cons]

/-- A set field leaves the names apart. -/
theorem nodup_setField (name : String) (value : Value) {known : List (String × Value)}
    (distinct : (known.map Prod.fst).Nodup) :
    ((setField name value known).map Prod.fst).Nodup := by
  by_cases fresh : name ∈ known.map Prod.fst
  · rwa [names_setField value fresh]
  · rw [setField_fresh fresh, List.map_append]
    exact List.nodup_append'.mpr
      ⟨distinct, List.nodup_singleton name, List.disjoint_singleton.mpr fresh⟩

end Value

namespace Decimal

/-- A decimal is rounded to a number of double precision or to an infinity. -/
theorem toBinary64_cases (negative : Bool) (decimal : Decimal) :
    decimal.toBinary64 negative = .infinite negative ∨ ∃ units, Binary64.IsRepresentable units ∧
      decimal.toBinary64 negative = .finite negative units := by
  unfold toBinary64
  by_cases zero : decimal.digits = 0
  · rw [if_pos zero]
    exact .inr ⟨0, Binary64.isRepresentable_zero, rfl⟩
  · rw [if_neg zero]
    split_ifs
    · exact .inl rfl
    · exact .inr ⟨0, Binary64.isRepresentable_zero, rfl⟩
    · exact Binary64.ofUnitsQuotient_cases negative _ _
    · exact Binary64.ofUnitsQuotient_cases negative _ _

theorem toBinary64_isWellFormed (negative : Bool) (decimal : Decimal) :
    (decimal.toBinary64 negative).IsWellFormed := by
  rcases toBinary64_cases negative decimal with same | ⟨units, representable, same⟩
  · rw [same]
    trivial
  · rw [same]
    exact representable

theorem toBinary64_unmarked (negative : Bool) (decimal : Decimal) :
    (decimal.toBinary64 negative).unmarked = decimal.toBinary64 negative := by
  rcases toBinary64_cases negative decimal with same | ⟨units, -, same⟩ <;> rw [same] <;> rfl

end Decimal

namespace Json

/-- A run of digits that is short enough can be written. -/
theorem isWritable_digitsValue {digits : List Char} (areDigits : AreDigits digits)
    (short : digits.length ≤ Decimal.digitLimit) (negative : Bool) :
    Decimal.isWritable (Binary64.signedUnits negative (digitsValue digits)) = true := by
  have below : digitsValue digits < 10 ^ digits.length :=
    Decimal.digitsValue_lt (List.all_eq_true.mpr areDigits)
  have size : (Binary64.signedUnits negative (digitsValue digits)).natAbs =
      digitsValue digits := by
    unfold Binary64.signedUnits
    split <;> simp
  have bound (limit : Nat) (short : digits.length ≤ limit) :
      digitsValue digits < Nat.pow 10 limit :=
    Nat.lt_of_lt_of_le below (Nat.pow_le_pow_right (by decide) short)
  unfold Decimal.isWritable
  rw [size]
  exact decide_eq_true (bound Decimal.digitLimit short)

/-- A number that is read is a whole one that can be written, or it is of double precision. -/
theorem readNumber_ok {negative : Bool} {text rest : List Char} {value : Value}
    (read : readNumber negative text = .ok (value, rest)) :
    (∃ number, value = .int number ∧ Decimal.isWritable number = true) ∨
      ∃ number, value = .float number ∧ number.IsWellFormed ∧ number.unmarked = number := by
  unfold readNumber at read
  extract_lets whole at read
  split at read
  · cases read
  · split at read
    · by_cases long : Decimal.digitLimit < whole.length
      · rw [if_pos long] at read
        cases read
      · rw [if_neg long] at read
        obtain ⟨rfl, -⟩ := Prod.mk.inj (Except.ok.inj read)
        exact .inl ⟨_, rfl, isWritable_digitsValue (areDigits_wholeDigits text)
          (Nat.le_of_not_lt long) negative⟩
    · obtain ⟨rfl, -⟩ := Prod.mk.inj (Except.ok.inj read)
      exact .inr ⟨_, rfl, Decimal.toBinary64_isWellFormed negative _,
        Decimal.toBinary64_unmarked negative _⟩

/-- A property of values, each together with the levels that may still be opened in it, passes on if
it holds of all that has no parts, and of a list or an object if it holds of the parts. -/
structure PassesOn (holds : Nat → Value → Prop) : Prop where
  word : ∀ room, ∀ word ∈ words, holds room word.2
  int : ∀ room {number}, Decimal.isWritable number = true → holds room (.int number)
  float : ∀ room {number}, Binary64.IsWellFormed number → number.unmarked = number →
    holds room (.float number)
  text : ∀ room value, holds room (.text value)
  list : ∀ {room items}, (∀ item ∈ items, holds room item) → holds (room + 1) (.list items)
  object : ∀ {room fields}, (fields.map Prod.fst).Nodup → (∀ field ∈ fields, holds room field.2) →
    holds (room + 1) (.object fields)

/-- All that is read in so many steps has a property. -/
structure ReadsOnly (holds : Nat → Value → Prop) (fuel : Nat) : Prop where
  value : ∀ {room text value rest}, readValue fuel room text = .ok (value, rest) →
    holds room value
  list : ∀ {room text value rest}, readList fuel room text = .ok (value, rest) →
    holds (room + 1) value
  object : ∀ {room text value rest}, readObject fuel room text = .ok (value, rest) →
    holds (room + 1) value
  items : ∀ {room text items rest}, readItems fuel room text = .ok (items, rest) →
    ∀ item ∈ items, holds room item
  fields : ∀ {room known text fields rest}, readFields fuel room known text = .ok (fields, rest) →
    (known.map Prod.fst).Nodup → (∀ field ∈ known, holds room field.2) →
      (fields.map Prod.fst).Nodup ∧ ∀ field ∈ fields, holds room field.2

/-- What a reading gives once its result is changed. -/
theorem Reading.map_eq_ok {α β : Type} {f : α × List Char → β × List Char} {reading : Reading α}
    {result : β × List Char} (mapped : reading.map f = .ok result) :
    ∃ read, reading = .ok read ∧ f read = result := by
  cases reading with
  | error fault => cases mapped
  | ok read => exact ⟨read, rfl, Except.ok.inj mapped⟩

section PassesOn

variable {holds : Nat → Value → Prop} (passesOn : PassesOn holds) {fuel room : Nat}
  {text rest : List Char} {value : Value}

theorem readsOnly_zero (holds : Nat → Value → Prop) : ReadsOnly holds 0 where
  value := by simp [readValue]
  list := by simp [readList]
  object := by simp [readObject]
  items := by simp [readItems]
  fields := by simp [readFields]

include passesOn

theorem PassesOn.number {negative : Bool}
    (read : readNumber negative text = .ok (value, rest)) : holds room value := by
  rcases readNumber_ok read with ⟨number, rfl, writable⟩ | ⟨number, rfl, wellFormed, unmarked⟩
  · exact passesOn.int room writable
  · exact passesOn.float room wellFormed unmarked

theorem PassesOn.atom (read : readAtom text = .ok (value, rest)) : holds room value := by
  unfold readAtom at read
  split at read
  · rename_i word found
    obtain ⟨rfl, -⟩ := Prod.mk.inj (Except.ok.inj read)
    exact passesOn.word room word (List.mem_of_find?_eq_some found)
  · split at read
    · exact passesOn.number read
    · exact passesOn.number read

namespace ReadsOnly

theorem stepValue (only : ReadsOnly holds fuel)
    (read : readValue (fuel + 1) room text = .ok (value, rest)) : holds room value := by
  have within {room : Nat} (some : room ≠ 0) {value : Value}
      (held : holds (room - 1 + 1) value) : holds room value := by
    rwa [Nat.sub_add_cancel (Nat.one_le_iff_ne_zero.mpr some)] at held
  unfold readValue at read
  split at read
  · obtain ⟨quoted, -, same⟩ := Reading.map_eq_ok read
    obtain ⟨rfl, -⟩ := Prod.mk.inj same
    exact passesOn.text room _
  · split at read
    · cases read
    · rename_i some
      exact within some (only.list read)
  · split at read
    · cases read
    · rename_i some
      exact within some (only.object read)
  · exact passesOn.atom read

theorem stepList (only : ReadsOnly holds fuel)
    (read : readList (fuel + 1) room text = .ok (value, rest)) : holds (room + 1) value := by
  unfold readList at read
  split at read
  · obtain ⟨rfl, -⟩ := Prod.mk.inj (Except.ok.inj read)
    exact passesOn.list fun item member => absurd member List.not_mem_nil
  · obtain ⟨⟨items, behind⟩, inside, same⟩ := Reading.map_eq_ok read
    obtain ⟨rfl, -⟩ := Prod.mk.inj same
    exact passesOn.list (only.items inside)

theorem stepObject (only : ReadsOnly holds fuel)
    (read : readObject (fuel + 1) room text = .ok (value, rest)) : holds (room + 1) value := by
  have none : ∀ field ∈ ([] : List (String × Value)), holds room field.2 :=
    fun field member => absurd member List.not_mem_nil
  unfold readObject at read
  split at read
  · obtain ⟨rfl, -⟩ := Prod.mk.inj (Except.ok.inj read)
    exact passesOn.object List.nodup_nil none
  · obtain ⟨⟨fields, behind⟩, inside, same⟩ := Reading.map_eq_ok read
    obtain ⟨rfl, -⟩ := Prod.mk.inj same
    obtain ⟨distinct, held⟩ := only.fields inside List.nodup_nil none
    exact passesOn.object distinct held

omit passesOn in
theorem stepItems {items : List Value} (only : ReadsOnly holds fuel)
    (read : readItems (fuel + 1) room text = .ok (items, rest)) :
    ∀ item ∈ items, holds room item := by
  unfold readItems at read
  split at read
  · cases read
  · rename_i first behind inside
    have held := only.value inside
    split at read
    · obtain ⟨rfl, -⟩ := Prod.mk.inj (Except.ok.inj read)
      exact List.forall_mem_singleton.mpr held
    · obtain ⟨⟨more, last⟩, further, same⟩ := Reading.map_eq_ok read
      obtain ⟨rfl, -⟩ := Prod.mk.inj same
      exact List.forall_mem_cons.mpr ⟨held, only.items further⟩
    · cases read

omit passesOn in
theorem stepFields {known fields : List (String × Value)} (only : ReadsOnly holds fuel)
    (read : readFields (fuel + 1) room known text = .ok (fields, rest))
    (distinct : (known.map Prod.fst).Nodup) (held : ∀ field ∈ known, holds room field.2) :
    (fields.map Prod.fst).Nodup ∧ ∀ field ∈ fields, holds room field.2 := by
  unfold readFields at read
  split at read
  · split at read
    · cases read
    · split at read
      · split at read
        · cases read
        · rename_i value behind inside
          have set (name : String) : ∀ field ∈ Value.setField name value known,
              holds room field.2 := by
            intro field member
            rcases Value.mem_setField member with same | before
            · exact same ▸ only.value inside
            · exact held field before
          dsimp only at read
          split at read
          · obtain ⟨rfl, -⟩ := Prod.mk.inj (Except.ok.inj read)
            exact ⟨Value.nodup_setField _ _ distinct, set _⟩
          · exact only.fields read (Value.nodup_setField _ _ distinct) (set _)
          · cases read
      · cases read
  · cases read

/-- One more step reads nothing else. -/
theorem succ (only : ReadsOnly holds fuel) : ReadsOnly holds (fuel + 1) where
  value := only.stepValue passesOn
  list := only.stepList passesOn
  object := only.stepObject passesOn
  items := only.stepItems
  fields := only.stepFields

end ReadsOnly

theorem PassesOn.readsOnly (fuel : Nat) : ReadsOnly holds fuel := by
  -- The readers call each other, each time with one step less, so all of them go in one induction.
  induction fuel with
  | zero => exact readsOnly_zero holds
  | succ fuel inductionHypothesis => exact inductionHypothesis.succ passesOn

/-- What passes on holds of all that is read. -/
theorem PassesOn.read (read : read text = .ok value) : holds nestingLimit value := by
  unfold Json.read at read
  split at read
  · cases read
  · rename_i whole rest inside
    split at read
    · cases read
      exact (passesOn.readsOnly _).value inside
    · cases read

end PassesOn

end Json

/-- What all values have in common that are read with so many levels left to open. -/
structure Value.IsRead (room : Nat) (value : Value) : Prop where
  wellFormed : value.IsWellFormed
  writable : value.IsWritable room
  unmarked : value.unmarked = value

namespace Value

theorem isRead_text (room : Nat) (value : String) : IsRead room (.text value) :=
  ⟨⟨trivial, trivial⟩, isWritable_text room value, rfl⟩

theorem isRead_list_iff {room : Nat} {items : List Value} :
    IsRead room (.list items) ↔ room ≠ 0 ∧ ∀ item ∈ items, item.IsRead (room - 1) := by
  constructor
  · intro isRead
    obtain ⟨enough, fits⟩ := isWritable_list_iff.mp isRead.writable
    refine ⟨enough, fun item member => ⟨⟨?_, ?_⟩, fits item member, ?_⟩⟩
    · exact itemsHaveDoubles_iff.mp isRead.wellFormed.doubles item member
    · exact itemsHaveDistinctNames_iff.mp isRead.wellFormed.names item member
    · exact itemsUnmarked_eq_self_iff.mp (list.inj isRead.unmarked) item member
  · intro ⟨enough, items⟩
    refine ⟨⟨?_, ?_⟩, ?_, ?_⟩
    · exact itemsHaveDoubles_iff.mpr fun item member => (items item member).wellFormed.doubles
    · exact itemsHaveDistinctNames_iff.mpr fun item member => (items item member).wellFormed.names
    · exact isWritable_list_iff.mpr ⟨enough, fun item member => (items item member).writable⟩
    · exact congrArg list
        (itemsUnmarked_eq_self_iff.mpr fun item member => (items item member).unmarked)

theorem isRead_object_iff {room : Nat} {fields : List (String × Value)} :
    IsRead room (.object fields) ↔ room ≠ 0 ∧ (fields.map Prod.fst).Nodup ∧
      ∀ field ∈ fields, field.2.IsRead (room - 1) := by
  constructor
  · intro isRead
    obtain ⟨enough, fits⟩ := isWritable_object_iff.mp isRead.writable
    refine ⟨enough, isRead.wellFormed.names.1, fun field member =>
      ⟨⟨?_, ?_⟩, fits field member, ?_⟩⟩
    · exact fieldsHaveDoubles_iff.mp isRead.wellFormed.doubles field member
    · exact fieldsHaveDistinctNames_iff.mp isRead.wellFormed.names.2 field member
    · exact fieldsUnmarked_eq_self_iff.mp (object.inj isRead.unmarked) field member
  · intro ⟨enough, distinct, fields⟩
    refine ⟨⟨?_, distinct, ?_⟩, ?_, ?_⟩
    · exact fieldsHaveDoubles_iff.mpr fun field member => (fields field member).wellFormed.doubles
    · exact fieldsHaveDistinctNames_iff.mpr fun field member =>
        (fields field member).wellFormed.names
    · exact isWritable_object_iff.mpr ⟨enough, fun field member => (fields field member).writable⟩
    · exact congrArg object
        (fieldsUnmarked_eq_self_iff.mpr fun field member => (fields field member).unmarked)

theorem IsRead.mono {room : Nat} {value : Value} (isRead : value.IsRead room) {more : Nat}
    (larger : room ≤ more) : value.IsRead more :=
  ⟨isRead.wellFormed, isRead.writable.mono more larger, isRead.unmarked⟩

/-- The items over which a value that was read is walked are what is read, one level below. -/
theorem IsRead.items {room : Nat} {value : Value} (isRead : value.IsRead room)
    {items : List Value} (walked : value.items? = some items) :
    ∀ item ∈ items, item.IsRead (room - 1) := by
  intro item member
  unfold items? at walked
  split at walked
  · cases walked
    exact (isRead_list_iff.mp isRead).2 item member
  · cases walked
    obtain ⟨c, -, rfl⟩ := List.mem_map.mp member
    exact isRead_text _ _
  · cases walked
    obtain ⟨field, -, rfl⟩ := List.mem_map.mp member
    exact isRead_text _ _
  · cases walked

end Value

namespace Json

theorem isRead_passesOn : PassesOn fun room value => value.IsRead room where
  word := by
    intro room word member
    refine ⟨⟨?_, ?_⟩, ⟨?_⟩, ?_⟩ <;> revert word <;>
      simp [words, Value.HasDoubles, Binary64.IsWellFormed, Value.HasDistinctNames,
        Value.writeDefect?, Value.unmarked, Binary64.unmarked]
  int := fun room _ writable => ⟨⟨trivial, trivial⟩, Value.isWritable_int writable room, rfl⟩
  float := fun _ _ wellFormed unmarked =>
    ⟨⟨wellFormed, trivial⟩, ⟨rfl⟩, congrArg Value.float unmarked⟩
  text := Value.isRead_text
  list := fun held => Value.isRead_list_iff.mpr ⟨Nat.succ_ne_zero _, held⟩
  object := fun distinct held => Value.isRead_object_iff.mpr ⟨Nat.succ_ne_zero _, distinct, held⟩

/-- Whatever is read is well formed, can be written, and has no marks. -/
theorem read_isRead {text : List Char} {value : Value} (given : read text = .ok value) :
    value.IsRead nestingLimit := isRead_passesOn.read given

/-- A document is given exactly if its text is read. -/
theorem readDocument_ok_iff {malformed : Fault} {text : List Char} {value : Value} :
    readDocument malformed text = .ok value ↔ read text = .ok value := by
  unfold readDocument
  constructor
  · intro given
    split at given
    · rename_i found
      rw [found, Except.ok.inj given]
    all_goals cases given
  · intro given
    rw [given]

end Json

end CodeGraph

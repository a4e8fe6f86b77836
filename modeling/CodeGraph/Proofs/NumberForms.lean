import CodeGraph.Proofs.CanonicalText

/-!
This file says in what values differ that agree. Their numbers have the same amounts, place by place
in the canonical text, but a number may be of another type and a zero may have another sign.
-/

namespace CodeGraph

namespace Atom

/-- The number is a floating-point one with a minus sign. -/
def isNegativeFloat : Atom → Bool
  | .float (.finite negative _) => negative
  | .float (.infinite negative) => negative
  | _ => false

/-- What an atom shows beside its essence: its type and the sign of a floating-point number. -/
def form (atom : Atom) : String × Bool := (atom.typeName, atom.isNegativeFloat)

/-- Floating-point numbers of one sign agree only if they are equal. -/
theorem float_eq_of_sign {first second : Binary64}
    (essence : (float first).essence = (float second).essence)
    (sign : (float first).isNegativeFloat = (float second).isNegativeFloat) : first = second := by
  cases first with
  | nan payload =>
      cases second with
      | nan other => exact congrArg Binary64.nan (Essence.nan.inj essence)
      | infinite | finite => cases essence
  | infinite negative =>
      cases second with
      | infinite other => exact congrArg Binary64.infinite sign
      | nan | finite => cases essence
  | finite negative units =>
      cases second with
      | nan | infinite => cases essence
      | finite other others =>
          obtain rfl : negative = other := sign
          have amounts := Essence.amount.inj essence
          have equal : units = others := by
            unfold Binary64.signedUnits at amounts
            split at amounts <;> omega
          rw [equal]

/-- Atoms of one form agree only if they are equal. -/
theorem eq_of_form {first second : Atom} (agreeing : first.agrees second = true)
    (same : first.form = second.form) : first = second := by
  have units : (Binary64.unitsPerOne : Int) ≠ 0 :=
    Int.natCast_ne_zero.mpr (Nat.ne_of_gt Decimal.unitsPerOne_pos)
  have essence := agrees_iff.mp agreeing
  obtain ⟨types, signs⟩ := Prod.mk.inj same
  cases first <;> cases second <;> try simp [typeName, toValue, Value.typeName] at types
  case null.null => rfl
  case bool.bool value other =>
    have amounts := Int.eq_of_mul_eq_mul_right units (Essence.amount.inj essence)
    cases value <;> cases other <;> first | rfl | cases amounts
  case int.int value other =>
    exact congrArg int (Int.eq_of_mul_eq_mul_right units (Essence.amount.inj essence))
  case float.float number other => exact congrArg float (float_eq_of_sign essence signs)
  case text.text value other => exact congrArg text (Essence.text.inj essence)

theorem form_unmarked (number : Binary64) : (float number.unmarked).form = (float number).form := by
  cases number <;> rfl

end Atom

namespace Value

mutual

/-- The atoms of a value in the order in which they are written. -/
def atoms : Value → List Atom
  | .list items => itemsAtoms items
  | .object fields => fieldsAtoms fields
  | .null => [.null]
  | .bool value => [.bool value]
  | .int value => [.int value]
  | .float value => [.float value]
  | .text value => [.text value]
termination_by structural value => value

def itemsAtoms : List Value → List Atom
  | [] => []
  | value :: rest => value.atoms ++ itemsAtoms rest
termination_by structural items => items

def fieldsAtoms : List (String × Value) → List Atom
  | [] => []
  | (_, value) :: rest => value.atoms ++ fieldsAtoms rest
termination_by structural fields => fields

end

/-- The forms of all atoms in the canonical text of a value, from the first to the last. -/
def forms (value : Value) : List (String × Bool) := value.sorted.atoms.map Atom.form

theorem itemsAtoms_eq_flatMap (items : List Value) : itemsAtoms items = items.flatMap atoms := by
  induction items with
  | nil => rfl
  | cons item rest inductionHypothesis =>
      rw [itemsAtoms, inductionHypothesis, List.flatMap_cons]

theorem fieldsAtoms_eq_flatMap (fields : List (String × Value)) :
    fieldsAtoms fields = fields.flatMap fun field => field.2.atoms := by
  induction fields with
  | nil => rfl
  | cons field rest inductionHypothesis =>
      rw [fieldsAtoms, inductionHypothesis, List.flatMap_cons]

theorem atoms_atom (atom : Atom) : atom.toValue.atoms = [atom] := by cases atom <;> rfl

/-- The forms do not show the marks. -/
theorem map_form_unmarked (value : Value) :
    value.unmarked.atoms.map Atom.form = value.atoms.map Atom.form := by
  induction value using Value.induct with
  | atom atom =>
      cases atom with
      | float number => exact congrArg (fun form => [form]) (Atom.form_unmarked number)
      | _ => rfl
  | list items inductionHypothesis =>
      rw [unmarked, atoms, atoms, itemsAtoms_eq_flatMap, itemsAtoms_eq_flatMap,
        itemsUnmarked_eq_map, List.flatMap_map, List.map_flatMap, List.map_flatMap]
      exact List.flatMap_congr inductionHypothesis
  | object fields inductionHypothesis =>
      rw [unmarked, atoms, atoms, fieldsAtoms_eq_flatMap, fieldsAtoms_eq_flatMap,
        fieldsUnmarked_eq_map, List.flatMap_map, List.map_flatMap, List.map_flatMap]
      exact List.flatMap_congr inductionHypothesis

/-- The parts have as many atoms, and they are equal if their atoms have the same forms. -/
def AreToldByForms {α : Type} (atoms : α → List Atom) (first second : α) : Prop :=
  (atoms first).length = (atoms second).length ∧
    ((atoms first).map Atom.form = (atoms second).map Atom.form → first = second)

/-- What holds of the parts of two lists one by one holds of the lists. -/
theorem AreToldByForms.flatMap {α : Type} {atoms : α → List Atom} {first second : List α}
    (pairs : List.Forall₂ (AreToldByForms atoms) first second) :
    AreToldByForms (List.flatMap atoms) first second := by
  induction pairs with
  | nil => exact ⟨rfl, fun _ => rfl⟩
  | cons head tail inductionHypothesis =>
      obtain ⟨lengths, equal⟩ := head
      obtain ⟨restLengths, restEqual⟩ := inductionHypothesis
      constructor
      · rw [List.flatMap_cons, List.flatMap_cons, List.length_append, List.length_append, lengths,
          restLengths]
      · intro same
        rw [List.flatMap_cons, List.flatMap_cons, List.map_append, List.map_append] at same
        obtain ⟨heads, tails⟩ := List.append_inj same (by simpa using lengths)
        rw [equal heads, restEqual tails]

/-- Fields that match stand beside each other once they are in order. -/
theorem forall₂_sort_of_matches {related : Value → Value → Prop}
    {first second : List (String × Value)} (firstDistinct : HasDistinctKeys id first)
    (secondDistinct : HasDistinctKeys id second) (matching : Matches id related first second) :
    List.Forall₂ (fun left right => left.1 = right.1 ∧ related left.2 right.2)
      (Order.sort fieldPrecedes first) (Order.sort fieldPrecedes second) := by
  have sortedNames (fields : List (String × Value)) :
      (Order.sort fieldPrecedes fields).map Prod.fst =
        Order.sort (fun first second => decide (first < second)) (fields.map Prod.fst) :=
    (@Order.sort_map _ _ fieldPrecedes (fun first second => decide (first < second)) Prod.fst
      (fun _ _ => rfl) fields).symm
  have keys : (first.map Prod.fst).Perm (second.map Prod.fst) := matching.keys_perm firstDistinct
  have names : (Order.sort fieldPrecedes first).map Prod.fst =
      (Order.sort fieldPrecedes second).map Prod.fst := by
    rw [sortedNames, sortedNames]
    exact Order.sort_eq_of_mem_iff Order.text_strict (fun _ _ => trivial) firstDistinct
      secondDistinct fun _ => keys.mem_iff
  have pairs := List.forall₂_eq_eq_eq.symm ▸ names
  rw [List.forall₂_map_left_iff, List.forall₂_map_right_iff] at pairs
  rw [List.forall₂_iff_get] at pairs ⊢
  refine ⟨pairs.1, fun index inside otherInside => ?_⟩
  have same := pairs.2 index inside otherInside
  obtain ⟨other, member, partner, held⟩ :=
    matching.2 _ (Order.mem_sort.mp (List.get_mem _ ⟨index, inside⟩))
  have secondMember := Order.mem_sort.mp (List.get_mem _ ⟨index, otherInside⟩)
  rw [secondDistinct.eq_of_key member secondMember (partner.trans same)] at held
  exact ⟨same, held⟩

theorem AreToldByForms.list {first second : List Value}
    (told : AreToldByForms (List.flatMap atoms) first second) :
    AreToldByForms atoms (.list first) (.list second) := by
  unfold AreToldByForms atoms
  rw [itemsAtoms_eq_flatMap, itemsAtoms_eq_flatMap]
  exact ⟨told.1, fun forms => congrArg Value.list (told.2 forms)⟩

theorem AreToldByForms.object {first second : List (String × Value)}
    (told : AreToldByForms (List.flatMap fun field => field.2.atoms) first second) :
    AreToldByForms atoms (.object first) (.object second) := by
  unfold AreToldByForms atoms
  rw [fieldsAtoms_eq_flatMap, fieldsAtoms_eq_flatMap]
  exact ⟨told.1, fun forms => congrArg Value.object (told.2 forms)⟩

/-- Values that agree have as many atoms in their canonical texts, and they are equal up to the
order of fields if these have the same forms. -/
theorem areToldByForms_sorted {first second : Value} (firstDistinct : first.HasDistinctNames)
    (secondDistinct : second.HasDistinctNames) (agreeing : first.agrees second = true) :
    AreToldByForms atoms first.sorted second.sorted := by
  induction first using Value.induct generalizing second with
  | atom atom =>
      obtain ⟨other, rfl, same⟩ := agrees_atom_iff.mp agreeing
      rw [sorted_atom, sorted_atom, AreToldByForms, atoms_atom, atoms_atom]
      refine ⟨rfl, fun forms => ?_⟩
      rw [Atom.eq_of_form same (List.head_eq_of_cons_eq forms)]
  | list items inductionHypothesis =>
      obtain ⟨others, rfl, pairs⟩ := agrees_list_iff.mp agreeing
      have parts := itemsHaveDistinctNames_iff.mp firstDistinct
      have otherParts := itemsHaveDistinctNames_iff.mp secondDistinct
      rw [sorted, sorted, sortedItems_eq_map, sortedItems_eq_map]
      apply AreToldByForms.list
      apply AreToldByForms.flatMap
      rw [List.forall₂_map_left_iff, List.forall₂_map_right_iff]
      rw [List.forall₂_iff_get] at pairs ⊢
      exact ⟨pairs.1, fun index inside otherInside => inductionHypothesis _ (List.get_mem _ _)
        (parts _ (List.get_mem _ _)) (otherParts _ (List.get_mem _ _))
        (pairs.2 index inside otherInside)⟩
  | object fields inductionHypothesis =>
      obtain ⟨others, rfl, lengths, partner⟩ := (agrees_object_iff secondDistinct).mp agreeing
      have parts := fieldsHaveDistinctNames_iff.mp firstDistinct.2
      have otherParts := fieldsHaveDistinctNames_iff.mp secondDistinct.2
      have distinct (fields : List (String × Value)) (names : (fields.map Prod.fst).Nodup) :
          HasDistinctKeys id (fields.map sortedField) := by
        show ((fields.map sortedField).map fun field => id field.1).Nodup
        rw [List.map_map]
        exact names
      have matching : Matches id (AreToldByForms atoms) (fields.map sortedField)
          (others.map sortedField) := by
        refine ⟨by simpa using lengths, List.forall_mem_map.mpr fun field member => ?_⟩
        obtain ⟨other, inside, named, same⟩ := partner field member
        exact ⟨_, List.mem_map_of_mem inside, named, inductionHypothesis field member
          (parts field member) (otherParts other inside) same⟩
      have pairs := forall₂_sort_of_matches (distinct fields firstDistinct.1)
        (distinct others secondDistinct.1) matching
      rw [sorted, sorted, sortedFields_eq_sort, sortedFields_eq_sort]
      apply AreToldByForms.object
      apply AreToldByForms.flatMap
      exact pairs.imp fun left right told =>
        ⟨told.2.1, fun forms => Prod.ext told.1 (told.2.2 forms)⟩

end Value

/-- Metadata that agree have one canonical text exactly if it shows each number in one type and each
zero with one sign. -/
theorem Metadata.canonicalText_eq_iff_forms {first second : Metadata}
    (firstFormed : first.IsWellFormed) (secondFormed : second.IsWellFormed)
    (firstSerialisable : first.IsSerialisable) (secondSerialisable : second.IsSerialisable)
    (agreeing : first.toValue.agrees second.toValue = true) :
    first.canonicalText = second.canonicalText ↔ first.toValue.forms = second.toValue.forms := by
  rw [canonicalText_eq_iff firstFormed secondFormed firstSerialisable secondSerialisable]
  constructor
  · intro same
    unfold Value.forms
    rw [← Value.map_form_unmarked, same, Value.map_form_unmarked]
  · intro forms
    have told := Value.areToldByForms_sorted
      (toValue_hasDistinctNames firstFormed firstSerialisable.named)
      (toValue_hasDistinctNames secondFormed secondSerialisable.named) agreeing
    rw [told.2 forms]

end CodeGraph

import CodeGraph.Proofs.Agreement
import CodeGraph.Proofs.Sorting
import Mathlib.Data.Int.ConditionallyCompleteOrder

/-!
This file puts the relations of edges in order. Numbers of all types stand on one line with both
infinities at its ends, and only a NaN stands nowhere.
-/

namespace CodeGraph

/-- The place on the line of numbers, counted in units. -/
def Essence.place? : Essence → Option (WithBot (WithTop Int))
  | .infinite true => some ⊥
  | .infinite false => some ((⊤ : WithTop Int) : WithBot (WithTop Int))
  | .amount units => some ((units : WithTop Int) : WithBot (WithTop Int))
  | _ => none

/-- A place belongs to one number alone, whatever its type. -/
theorem Essence.eq_of_place? {first second : Essence} {place : WithBot (WithTop Int)}
    (former : first.place? = some place) (latter : second.place? = some place) :
    first = second := by
  have same := former.trans latter.symm
  cases first with
  | null | text | nan => cases former
  | infinite negative =>
      cases second with
      | null | text | nan => cases latter
      | infinite other => cases negative <;> cases other <;> simp [place?] at same ⊢
      | amount units => cases negative <;> simp [place?] at same
  | amount units =>
      cases second with
      | null | text | nan => cases latter
      | infinite other => cases other <;> simp [place?] at same
      | amount other => simpa [place?] using same

namespace Atom

/-- The first atom is a number and comes before the second one on the line. -/
def IsSmaller (first second : Atom) : Prop :=
  ∃ left right, first.essence.place? = some left ∧ second.essence.place? = some right ∧
    left < right

section Numbers

variable {value other : Int} {number second : Binary64}

theorem isSmaller_iff {first second : Atom} {left right : WithBot (WithTop Int)}
    (former : first.essence.place? = some left) (latter : second.essence.place? = some right) :
    first.IsSmaller second ↔ left < right := by
  simp [IsSmaller, former, latter]

/-- Amounts of units compare like their places. -/
theorem compare_isSmaller_iff {first second : Atom} {left right : Int}
    (former : first.essence = .amount left) (latter : second.essence = .amount right) :
    (some (compare left right) == some Ordering.lt) = true ↔ first.IsSmaller second := by
  rw [isSmaller_iff (congrArg Essence.place? former) (congrArg Essence.place? latter), beq_iff_eq,
    Option.some.injEq, compare_lt_iff_lt]
  simp

/-- All amounts lie between the infinities. -/
theorem isSmaller_infinite_iff {first : Atom} {units : Int}
    (finite : first.essence = .amount units) (negative : Bool) :
    first.IsSmaller (.float (.infinite negative)) ↔ negative = false := by
  cases negative with
  | true =>
      rw [isSmaller_iff (congrArg Essence.place? finite) rfl]
      simp
  | false =>
      exact iff_of_true ⟨_, _, congrArg Essence.place? finite, rfl,
        WithBot.coe_lt_coe.mpr (WithTop.coe_lt_top _)⟩ rfl

theorem infinite_isSmaller_iff {second : Atom} {units : Int}
    (finite : second.essence = .amount units) (negative : Bool) :
    (float (.infinite negative)).IsSmaller second ↔ negative = true := by
  cases negative with
  | true => exact iff_of_true ⟨_, _, rfl, congrArg Essence.place? finite, WithBot.bot_lt_coe _⟩ rfl
  | false =>
      rw [isSmaller_iff rfl (congrArg Essence.place? finite)]
      simp

theorem int_lt_int_iff : (int value).lt (.int other) = true ↔
    (int value).IsSmaller (.int other) := by
  have positive : (0 : Int) < Binary64.unitsPerOne :=
    Int.natCast_pos.mpr Decimal.unitsPerOne_pos
  rw [← compare_isSmaller_iff rfl rfl]
  change (some (compare value other) == some Ordering.lt) = true ↔ _
  rw [beq_iff_eq, beq_iff_eq, Option.some.injEq, Option.some.injEq, compare_lt_iff_lt,
    compare_lt_iff_lt]
  exact (Int.mul_lt_mul_right positive).symm

theorem float_lt_int_iff : (float number).lt (.int value) = true ↔
    (float number).IsSmaller (.int value) := by
  cases number with
  | nan payload => exact iff_of_false Bool.false_ne_true (by rintro ⟨_, _, ⟨⟩, -⟩)
  | infinite negative =>
      rw [infinite_isSmaller_iff rfl]
      cases negative <;> simp [lt, compareNumbers?, Binary64.compareInt?]
  | finite negative units => exact compare_isSmaller_iff rfl rfl

theorem int_lt_float_iff : (int value).lt (.float second) = true ↔
    (int value).IsSmaller (.float second) := by
  cases second with
  | nan payload => exact iff_of_false Bool.false_ne_true (by rintro ⟨_, _, -, ⟨⟩, -⟩)
  | infinite negative =>
      rw [isSmaller_infinite_iff rfl]
      cases negative <;> simp [lt, compareNumbers?, Binary64.compareInt?]
  | finite negative units =>
      have swapped (order : Ordering) : (some order.swap == some Ordering.lt) = true ↔
          order = .gt := by cases order <;> decide
      rw [← compare_isSmaller_iff rfl rfl]
      refine (swapped _).trans ?_
      rw [compare_gt_iff_gt, beq_iff_eq, Option.some.injEq, compare_lt_iff_lt]

theorem float_lt_float_iff : (float number).lt (.float second) = true ↔
    (float number).IsSmaller (.float second) := by
  cases number with
  | nan payload => exact iff_of_false Bool.false_ne_true (by rintro ⟨_, _, ⟨⟩, -⟩)
  | infinite negative =>
      cases second with
      | nan payload =>
          cases negative <;> exact iff_of_false Bool.false_ne_true (by rintro ⟨_, _, -, ⟨⟩, -⟩)
      | infinite other =>
          cases negative <;> cases other <;> rw [isSmaller_iff rfl rfl] <;>
            simp [lt, compareNumbers?, Binary64.compare?]
      | finite other units =>
          rw [infinite_isSmaller_iff rfl]
          cases negative <;> simp [lt, compareNumbers?, Binary64.compare?]
  | finite negative units =>
      cases second with
      | nan payload => exact iff_of_false Bool.false_ne_true (by rintro ⟨_, _, -, ⟨⟩, -⟩)
      | infinite other =>
          rw [isSmaller_infinite_iff rfl]
          cases other <;> simp [lt, compareNumbers?, Binary64.compare?]
      | finite other otherUnits => exact compare_isSmaller_iff rfl rfl

end Numbers

theorem bool_lt (value : Bool) (second : Atom) :
    (bool value).lt second = (int (Value.boolInt value)).lt second := by
  cases second <;> rfl

theorem lt_bool (first : Atom) (value : Bool) :
    first.lt (.bool value) = first.lt (.int (Value.boolInt value)) := by
  cases first <;> rfl

/-- Numbers are in the order of their places. -/
theorem lt_iff_isSmaller {first second : Atom} (former : first.isNumber = true)
    (latter : second.isNumber = true) : first.lt second = true ↔ first.IsSmaller second := by
  cases first with
  | null | text => cases former
  | bool value =>
      rw [bool_lt]
      cases second with
      | null | text => cases latter
      | bool other =>
          rw [lt_bool]
          exact int_lt_int_iff
      | int other => exact int_lt_int_iff
      | float number => exact int_lt_float_iff
  | int value =>
      cases second with
      | null | text => cases latter
      | bool other =>
          rw [lt_bool]
          exact int_lt_int_iff
      | int other => exact int_lt_int_iff
      | float number => exact int_lt_float_iff
  | float number =>
      cases second with
      | null | text => cases latter
      | bool other =>
          rw [lt_bool]
          exact float_lt_int_iff
      | int other => exact float_lt_int_iff
      | float second => exact float_lt_float_iff

/-- Only numbers have a place. -/
theorem isNumber_of_place? {atom : Atom} {place : WithBot (WithTop Int)}
    (placed : atom.essence.place? = some place) : atom.isNumber = true := by
  cases atom <;> first | rfl | cases placed

/-- Texts come before larger texts, and numbers before those that stand farther on the line. -/
theorem lt_iff {first second : Atom} : first.lt second = true ↔
    (∃ value other, first = .text value ∧ second = .text other ∧ value < other) ∨
      first.IsSmaller second := by
  constructor
  · intro smaller
    cases former : first.isNumber with
    | true =>
        cases latter : second.isNumber with
        | true => exact Or.inr ((lt_iff_isSmaller former latter).mp smaller)
        | false => cases first <;> cases second <;> simp_all [lt, compareNumbers?, isNumber]
    | false =>
        cases first with
        | bool | int | float => cases former
        | null => cases second <;> cases smaller
        | text value =>
            cases second with
            | text other => exact Or.inl ⟨value, other, rfl, rfl, of_decide_eq_true smaller⟩
            | null | bool | int | float => cases smaller
  · rintro (⟨value, other, rfl, rfl, smaller⟩ | ⟨left, right, former, latter, less⟩)
    · exact decide_eq_true smaller
    · exact (lt_iff_isSmaller (isNumber_of_place? former) (isNumber_of_place? latter)).mpr
        ⟨_, _, former, latter, less⟩

/-- Relations that agree are not in order. -/
theorem agrees_of_lt {first second : Atom} (smaller : first.lt second = true) :
    first.agrees second = false := by
  rw [Bool.eq_false_iff, ne_eq, agrees_iff]
  intro same
  rcases lt_iff.mp smaller with ⟨value, other, rfl, rfl, less⟩ | ⟨left, right, former, latter, less⟩
  · cases same
    exact String.lt_irrefl _ less
  · rw [same, latter] at former
    cases former
    exact less.false

theorem precedes_iff_lt {first second : Atom} : first.Precedes second ↔ first.lt second = true :=
  ⟨And.right, fun smaller => ⟨agrees_of_lt smaller, smaller⟩⟩

theorem lt_trans {first second third : Atom} (former : first.lt second = true)
    (latter : second.lt third = true) : first.lt third = true := by
  rw [lt_iff] at former latter ⊢
  rcases former with ⟨value, other, rfl, rfl, smaller⟩ | ⟨left, middle, placed, placed', smaller⟩
  · rcases latter with ⟨value', other', same, rfl, smaller'⟩ | ⟨left', right', placed, -, -⟩
    · cases same
      exact Or.inl ⟨_, _, rfl, rfl, String.lt_trans smaller smaller'⟩
    · cases placed
  · rcases latter with ⟨value', other', rfl, rfl, -⟩ | ⟨middle', right, again, placed'', smaller'⟩
    · cases placed'
    · rw [placed'] at again
      cases again
      exact Or.inr ⟨left, right, placed, placed'', smaller.trans smaller'⟩

/-- The atom has a place in an order. -/
def IsOrdered (atom : Atom) : Prop := ∀ payload, atom ≠ .float (.nan payload)

theorem IsOrdered.of_isNaN {number : Binary64} (isNumber : number.isNaN = false) :
    (float number).IsOrdered := by
  rintro payload same
  cases same
  cases isNumber

theorem IsOrdered.exists_place {atom : Atom} (ordered : atom.IsOrdered)
    (number : atom.isNumber = true) : ∃ place, atom.essence.place? = some place := by
  cases atom with
  | null | text => cases number
  | bool | int => exact ⟨_, rfl⟩
  | float value =>
      cases value with
      | nan payload => exact absurd rfl (ordered payload)
      | infinite negative => cases negative <;> exact ⟨_, rfl⟩
      | finite => exact ⟨_, rfl⟩

/-- Of two relations that can be compared and do not agree one comes before the other. -/
theorem lt_connected {first second : Atom} (firstOrdered : first.IsOrdered)
    (secondOrdered : second.IsOrdered) (comparable : first.comparable second = true)
    (apart : first.agrees second = false) :
    first.lt second = true ∨ second.lt first = true := by
  cases former : first.isNumber with
  | true =>
      have latter : second.isNumber = true := by
        cases first <;> cases second <;> simp_all [isNumber, Atom.comparable]
      obtain ⟨left, placed⟩ := firstOrdered.exists_place former
      obtain ⟨right, placed'⟩ := secondOrdered.exists_place latter
      rw [lt_iff_isSmaller former latter, lt_iff_isSmaller latter former,
        isSmaller_iff placed placed', isSmaller_iff placed' placed]
      refine lt_or_gt_of_ne fun same => ?_
      subst same
      rw [agrees_iff.mpr (Essence.eq_of_place? placed placed')] at apart
      cases apart
  | false =>
      cases first with
      | bool | int | float => cases former
      | null => cases second <;> cases comparable
      | text value =>
          cases second with
          | null | bool | int | float => cases comparable
          | text other =>
              have differs : value ≠ other := by simpa [agrees] using apart
              exact (Order.text_connected differs).imp decide_eq_true decide_eq_true

end Atom

namespace Order

variable {α : Type} {precedes : α → α → Bool} {related : α → α → Prop}

/-- Sorting by an order that tells two elements apart only if they are related leaves all elements
related to the later ones. -/
theorem pairwise_sort
    (forth : ∀ first second, precedes first second = true → related first second)
    (back : ∀ first second, precedes first second = false → related second first)
    (transitive : ∀ first second third, related first second → related second third →
      related first third)
    (elements : List α) : (sort precedes elements).Pairwise related := by
  induction elements with
  | nil => exact List.Pairwise.nil
  | cons element others inductionHypothesis =>
      change (insert precedes element (sort precedes others)).Pairwise related
      generalize sort precedes others = sorted at inductionHypothesis
      induction sorted with
      | nil => exact List.pairwise_singleton _ _
      | cons first rest insertion =>
          obtain ⟨least, restSorted⟩ := List.pairwise_cons.mp inductionHypothesis
          unfold insert
          cases order : precedes first element with
          | true =>
              refine List.pairwise_cons.mpr ⟨fun member memberIn => ?_, insertion restSorted⟩
              rcases List.mem_cons.mp ((insert_perm precedes element rest).mem_iff.mp memberIn) with
                rfl | behind
              · exact forth _ _ order
              · exact least member behind
          | false =>
              have smaller : related element first := back _ _ order
              refine List.pairwise_cons.mpr ⟨fun member memberIn => ?_, inductionHypothesis⟩
              rcases List.mem_cons.mp memberIn with rfl | behind
              · exact smaller
              · exact transitive _ _ _ smaller (least member behind)

end Order

namespace Edge

/-- The order of edges by source, target and relation, where relations that are smaller never
agree. -/
theorem precedes_iff_lt {first second : Edge} : first.precedes second = true ↔
    first.source.text < second.source.text ∨
      (first.source = second.source ∧ (first.target.text < second.target.text ∨
        (first.target = second.target ∧ first.relation.lt second.relation = true))) := by
  rw [precedes_iff, Atom.precedes_iff_lt]

/-- Edges that can be compared, none of which agree and none of which has a NaN for its relation,
stand in a strict order. -/
theorem precedes_strict_of_mem {edges : List Edge}
    (ordered : ∀ edge ∈ edges, edge.relation.IsOrdered)
    (comparable : ∀ first ∈ edges, ∀ second ∈ edges, first ≠ second →
      first.comparable second = true)
    (apart : ∀ first ∈ edges, ∀ second ∈ edges, first ≠ second → first.agrees second = false) :
    Order.IsStrict precedes (· ∈ edges) := by
  refine isStrict_precedes (fun edge _ smaller => ?_)
    (fun first second third _ _ _ less less' => ?_)
    fun first second former latter sources targets differs => ?_
  · have unlike := smaller.1
    rw [Atom.agrees_iff.mpr rfl] at unlike
    cases unlike
  · rw [Atom.precedes_iff_lt] at less less' ⊢
    exact Atom.lt_trans less less'
  · have relations : first.relation.comparable second.relation = true := by
      simpa [Edge.comparable, sources, targets] using comparable _ former _ latter differs
    have unlike : first.relation.agrees second.relation = false := by
      simpa [agrees, sources, targets] using apart _ former _ latter differs
    rw [Atom.precedes_iff_lt, Atom.precedes_iff_lt]
    exact Atom.lt_connected (ordered _ former) (ordered _ latter) relations unlike

/-- The first edge does not start behind the second one, and from the same start it does not lead
farther. -/
def EndsBefore (first second : Edge) : Prop :=
  first.source.text < second.source.text ∨
    (first.source = second.source ∧ first.target.text ≤ second.target.text)

theorem EndsBefore.trans {first second third : Edge} (former : first.EndsBefore second)
    (latter : second.EndsBefore third) : first.EndsBefore third := by
  rcases former with less | ⟨sources, less⟩
  · rcases latter with less' | ⟨sources, -⟩
    · exact Or.inl (String.lt_trans less less')
    · exact Or.inl (sources ▸ less)
  · rcases latter with less' | ⟨sources', less'⟩
    · exact Or.inl (sources ▸ less')
    · exact Or.inr ⟨sources.trans sources', String.le_trans less less'⟩

theorem endsBefore_of_precedes {first second : Edge} (smaller : first.precedes second = true) :
    first.EndsBefore second := by
  rcases precedes_iff_lt.mp smaller with less | ⟨sources, less | ⟨targets, -⟩⟩
  · exact Or.inl less
  · exact Or.inr ⟨sources, String.not_lt.mp (String.lt_asymm less)⟩
  · exact Or.inr ⟨sources, String.not_lt.mp (targets ▸ String.lt_irrefl _)⟩

theorem endsBefore_of_not_precedes {first second : Edge}
    (order : first.precedes second = false) : second.EndsBefore first := by
  rw [Bool.eq_false_iff, ne_eq, precedes_iff_lt, not_or, not_and, not_or] at order
  obtain ⟨sources, order⟩ := order
  by_cases same : first.source = second.source
  · exact Or.inr ⟨same.symm, String.not_lt.mp (order same).1⟩
  · exact Or.inl ((Order.text_connected (mt Address.text_injective same)).resolve_left sources)

/-- Whatever relations edges have, they are sorted by their ends. -/
theorem pairwise_sort_ends (edges : List Edge) :
    (Order.sort precedes edges).Pairwise EndsBefore := by
  refine Order.pairwise_sort ?_ ?_ ?_ edges
  · exact fun first second => endsBefore_of_precedes
  · exact fun first second => endsBefore_of_not_precedes
  · exact fun first second third => EndsBefore.trans

/-- Edges can be sorted exactly if any two of them can be compared. -/
theorem incomparable?_eq_none_iff {edges : List Edge} : incomparable? edges = none ↔
    edges.Pairwise fun first second => second.comparable first = true := by
  induction edges with
  | nil => exact iff_of_true rfl List.Pairwise.nil
  | cons first rest inductionHypothesis =>
      rw [List.pairwise_cons, incomparable?]
      split
      · rename_i edge found
        refine iff_of_false (Option.some_ne_none _) fun all => ?_
        have incomparable := List.find?_some found
        rw [all.1 edge (List.mem_of_find?_eq_some found)] at incomparable
        cases incomparable
      · rename_i absent
        refine inductionHypothesis.trans (and_iff_right fun edge member => ?_).symm
        simpa using List.find?_eq_none.mp absent edge member

end Edge

end CodeGraph

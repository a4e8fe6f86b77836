import CodeGraph.Edge
import CodeGraph.Proofs.KeyText
import Mathlib.Data.List.Nodup
import Mathlib.Data.Prod.Lex
import Mathlib.Order.Basic

/-!
This file says that sorting by a strict order gives the increasing list, and that edges whose
relations are texts are in such an order.
-/

namespace CodeGraph

namespace Order

variable {α : Type}

/-- The things with a property stand in a strict order in which any two can be told apart. -/
structure IsStrict (precedes : α → α → Bool) (holds : α → Prop) : Prop where
  irreflexive : ∀ first, holds first → precedes first first = false
  transitive : ∀ first second third, holds first → holds second → holds third →
    precedes first second = true → precedes second third = true → precedes first third = true
  connected : ∀ first second, holds first → holds second → first ≠ second →
    precedes first second = true ∨ precedes second first = true

variable {precedes : α → α → Bool} {holds : α → Prop}

theorem IsStrict.asymmetric (strict : IsStrict precedes holds) {first second : α}
    (firstHolds : holds first) (secondHolds : holds second)
    (smaller : precedes first second = true) : precedes second first = false := by
  cases larger : precedes second first with
  | false => rfl
  | true =>
      have circle := strict.transitive first second first firstHolds secondHolds firstHolds smaller
        larger
      rw [strict.irreflexive first firstHolds] at circle
      cases circle

/-- Things that are compared by their keys, and told apart by them, are in a strict order. -/
theorem IsStrict.of_key {β : Type} [LinearOrder β] {key : α → β}
    (compared : ∀ first second, holds first → holds second →
      (precedes first second = true ↔ key first < key second))
    (apart : ∀ first second, holds first → holds second → key first = key second →
      first = second) : IsStrict precedes holds where
  irreflexive first firstHolds := by
    rw [← Bool.not_eq_true, compared first first firstHolds firstHolds]
    exact lt_irrefl _
  transitive first second third firstHolds secondHolds thirdHolds former latter := by
    rw [compared first second firstHolds secondHolds] at former
    rw [compared second third secondHolds thirdHolds] at latter
    exact (compared first third firstHolds thirdHolds).mpr (former.trans latter)
  connected first second firstHolds secondHolds different := by
    rw [compared first second firstHolds secondHolds, compared second first secondHolds firstHolds]
    exact lt_or_gt_of_ne (mt (apart first second firstHolds secondHolds) different)

/-- Things with different names are in a strict order if the higher rank comes first and, of equal
ranks, the smaller name. -/
theorem IsStrict.of_rank {β γ : Type} [LinearOrder β] [LinearOrder γ] {elements : List α}
    {rank : α → β} {name : α → γ}
    (compared : ∀ first ∈ elements, ∀ second ∈ elements, (precedes first second = true ↔
      rank second < rank first ∨ (rank first = rank second ∧ name first < name second)))
    (distinct : (elements.map name).Nodup) : IsStrict precedes (· ∈ elements) := by
  have keyed (first second : α) (firstIn : first ∈ elements) (secondIn : second ∈ elements) :
      precedes first second = true ↔
        toLex (OrderDual.toDual (rank first), name first) <
          toLex (OrderDual.toDual (rank second), name second) := by
    rw [compared first firstIn second secondIn, Prod.Lex.toLex_lt_toLex]
    rfl
  refine .of_key keyed fun first second firstIn secondIn same => ?_
  exact List.inj_on_of_nodup_map distinct firstIn secondIn (Prod.mk.inj (toLex_inj.mp same)).2

theorem insert_increasing (strict : IsStrict precedes holds) {element : α} {elements : List α}
    (elementHolds : holds element) (allHold : ∀ member ∈ elements, holds member)
    (fresh : element ∉ elements)
    (increasing : elements.Pairwise fun first second => precedes first second = true) :
    (insert precedes element elements).Pairwise fun first second =>
      precedes first second = true := by
  induction elements with
  | nil => simp [insert]
  | cons first rest inductionHypothesis =>
      obtain ⟨smallest, restIncreasing⟩ := List.pairwise_cons.mp increasing
      have firstHolds : holds first := allHold first List.mem_cons_self
      have restHold : ∀ member ∈ rest, holds member := fun member behind =>
        allHold member (List.mem_cons_of_mem _ behind)
      have apart : element ≠ first ∧ element ∉ rest := not_or.mp (mt List.mem_cons.mpr fresh)
      unfold insert
      split
      · rename_i smaller
        refine List.pairwise_cons.mpr ⟨fun member memberIn => ?_,
          inductionHypothesis restHold apart.2 restIncreasing⟩
        rcases List.mem_cons.mp ((insert_perm precedes element rest).mem_iff.mp memberIn) with
          rfl | behind
        · exact smaller
        · exact smallest member behind
      · rename_i notSmaller
        have larger : precedes element first = true :=
          (strict.connected element first elementHolds firstHolds apart.1).resolve_right notSmaller
        refine List.pairwise_cons.mpr ⟨fun member memberIn => ?_, increasing⟩
        rcases List.mem_cons.mp memberIn with rfl | behind
        · exact larger
        · exact strict.transitive element first member elementHolds firstHolds
            (restHold member behind) larger (smallest member behind)

/-- Different things are sorted into increasing order. -/
theorem sort_increasing (strict : IsStrict precedes holds) {elements : List α}
    (allHold : ∀ member ∈ elements, holds member) (distinct : elements.Nodup) :
    (sort precedes elements).Pairwise fun first second => precedes first second = true := by
  induction elements with
  | nil => exact List.Pairwise.nil
  | cons first rest inductionHypothesis =>
      obtain ⟨fresh, restDistinct⟩ := List.nodup_cons.mp distinct
      have restHold : ∀ member ∈ rest, holds member := fun member behind =>
        allHold member (List.mem_cons_of_mem _ behind)
      exact insert_increasing strict (allHold first List.mem_cons_self)
        (fun member memberIn => restHold member (mem_sort.mp memberIn))
        (fun memberIn => fresh (mem_sort.mp memberIn))
        (inductionHypothesis restHold restDistinct)

/-- A list that is increasing already is sorted into itself. -/
theorem sort_of_increasing (strict : IsStrict precedes holds) {elements : List α}
    (allHold : ∀ member ∈ elements, holds member)
    (increasing : elements.Pairwise fun first second => precedes first second = true) :
    sort precedes elements = elements := by
  induction elements with
  | nil => rfl
  | cons first rest inductionHypothesis =>
      obtain ⟨smallest, restIncreasing⟩ := List.pairwise_cons.mp increasing
      have restSorted : sort precedes rest = rest := inductionHypothesis
        (fun member behind => allHold member (List.mem_cons_of_mem _ behind)) restIncreasing
      change insert precedes first (sort precedes rest) = first :: rest
      rw [restSorted]
      cases rest with
      | nil => rfl
      | cons second more =>
          have notBefore := strict.asymmetric (allHold first List.mem_cons_self)
            (allHold second (List.mem_cons_of_mem _ List.mem_cons_self))
            (smallest second List.mem_cons_self)
          unfold insert
          rw [if_neg (by rw [notBefore]; exact Bool.false_ne_true)]

/-- Increasing things differ. -/
theorem nodup_of_increasing (strict : IsStrict precedes holds) {elements : List α}
    (allHold : ∀ member ∈ elements, holds member)
    (increasing : elements.Pairwise fun first second => precedes first second = true) :
    elements.Nodup := by
  refine List.Pairwise.imp_of_mem (fun firstMember _ smaller same => ?_) increasing
  rw [← same, strict.irreflexive _ (allHold _ firstMember)] at smaller
  cases smaller

/-- In an increasing list as many elements come before an element as its place says. -/
theorem countP_of_increasing (strict : IsStrict precedes holds) {elements : List α}
    (allHold : ∀ member ∈ elements, holds member)
    (increasing : elements.Pairwise fun first second => precedes first second = true)
    {place : Nat} {element : α} (found : elements[place]? = some element) :
    elements.countP (fun other => precedes other element) = place := by
  induction elements generalizing place with
  | nil => cases found
  | cons first rest inductionHypothesis =>
      obtain ⟨smallest, restIncreasing⟩ := List.pairwise_cons.mp increasing
      have firstHolds : holds first := allHold first List.mem_cons_self
      have restHold : ∀ member ∈ rest, holds member := fun member behind =>
        allHold member (List.mem_cons_of_mem _ behind)
      cases place with
      | zero =>
          obtain rfl : first = element := by simpa using found
          rw [List.countP_cons_of_neg (by simp [strict.irreflexive first firstHolds]),
            List.countP_eq_zero]
          intro member behind
          simp [strict.asymmetric firstHolds (restHold member behind) (smallest member behind)]
      | succ place =>
          rw [List.getElem?_cons_succ] at found
          have ahead := smallest element (List.mem_of_getElem? found)
          rw [List.countP_cons, if_pos ahead, inductionHypothesis restHold restIncreasing found]

/-- Different things that are sorted come before each other, and they are the given ones. -/
theorem sort_pairwise {elements : List α} (strict : IsStrict precedes (· ∈ elements))
    (distinct : elements.Nodup) : (sort precedes elements).Pairwise fun first second =>
      first ∈ elements ∧ second ∈ elements ∧ precedes first second = true :=
  (sort_increasing strict (fun _ member => member) distinct).imp_of_mem
    fun firstIn secondIn before => ⟨mem_sort.mp firstIn, mem_sort.mp secondIn, before⟩

/-- Things that are numbered one after the other are made from their places. -/
theorem eq_map_zipIdx {β : Type} {number : Nat → List α → List β} {make : α × Nat → β}
    (nil : ∀ first, number first [] = [])
    (cons : ∀ first element rest,
      number first (element :: rest) = make (element, first) :: number (first + 1) rest)
    (first : Nat) (elements : List α) :
    number first elements = (elements.zipIdx first).map make := by
  induction elements generalizing first with
  | nil => exact nil first
  | cons element rest inductionHypothesis =>
      rw [cons, inductionHypothesis, List.zipIdx_cons, List.map_cons]

/-- The order in which different things are given does not matter once they are sorted. -/
theorem sort_eq_of_mem_iff (strict : IsStrict precedes holds) {first second : List α}
    (firstHold : ∀ member ∈ first, holds member) (firstDistinct : first.Nodup)
    (secondDistinct : second.Nodup) (same : ∀ member, member ∈ first ↔ member ∈ second) :
    sort precedes first = sort precedes second := by
  have secondHold : ∀ member ∈ second, holds member := fun member inside =>
    firstHold member ((same member).mpr inside)
  have permuted : (sort precedes first).Perm (sort precedes second) :=
    (sort_perm precedes first).trans (((List.perm_ext_iff_of_nodup firstDistinct
      secondDistinct).mpr same).trans (sort_perm precedes second).symm)
  refine List.Perm.eq_of_pairwise (fun left right leftMember rightMember smaller larger => ?_)
    (sort_increasing strict firstHold firstDistinct)
    (sort_increasing strict secondHold secondDistinct) permuted
  have asymmetric := strict.asymmetric (firstHold left (mem_sort.mp leftMember))
    (secondHold right (mem_sort.mp rightMember)) smaller
  rw [larger] at asymmetric
  cases asymmetric

/-- One of two different texts is smaller. -/
theorem text_connected {first second : String} (apart : first ≠ second) :
    first < second ∨ second < first := by
  by_cases smaller : first < second
  · exact Or.inl smaller
  · by_cases larger : second < first
    · exact Or.inr larger
    · exact absurd (String.le_antisymm (String.not_lt.mp larger) (String.not_lt.mp smaller)) apart

end Order

namespace Atom

/-- The atom is smaller than the other one and does not agree with it. -/
def Precedes (first second : Atom) : Prop :=
  first.agrees second = false ∧ first.lt second = true

theorem text_precedes_iff {first second : String} :
    (text first).Precedes (text second) ↔ first < second := by
  simp only [Precedes, agrees, lt, beq_eq_false_iff_ne, decide_eq_true_eq]
  exact and_iff_right_of_imp fun smaller same => String.lt_irrefl _ (same ▸ smaller)

end Atom

namespace Edge

/-- The relation of the edge is a text, as extractors give it. -/
def IsNamed (edge : Edge) : Prop := ∃ relation, edge.relation = .text relation

/-- The order of edges by source, target and relation. -/
theorem precedes_iff {first second : Edge} : first.precedes second = true ↔
    first.source.text < second.source.text ∨
      (first.source = second.source ∧ (first.target.text < second.target.text ∨
        (first.target = second.target ∧ first.relation.Precedes second.relation))) := by
  unfold precedes Address.precedes Atom.Precedes
  by_cases sources : first.source = second.source
  · rw [if_pos sources, sources]
    by_cases targets : first.target = second.target
    · rw [if_pos targets, targets]
      simp
    · rw [if_neg targets, decide_eq_true_eq]
      simp [targets]
  · rw [if_neg sources, decide_eq_true_eq]
    simp [sources]

/-- Edges are in a strict order if the relations of edges with the same ends are. -/
theorem isStrict_precedes {holds : Edge → Prop}
    (irreflexive : ∀ edge, holds edge → ¬ edge.relation.Precedes edge.relation)
    (transitive : ∀ first second third, holds first → holds second → holds third →
      first.relation.Precedes second.relation → second.relation.Precedes third.relation →
      first.relation.Precedes third.relation)
    (connected : ∀ first second, holds first → holds second → first.source = second.source →
      first.target = second.target → first ≠ second →
      first.relation.Precedes second.relation ∨ second.relation.Precedes first.relation) :
    Order.IsStrict precedes holds where
  irreflexive edge held := by
    rw [Bool.eq_false_iff, ne_eq, precedes_iff]
    rintro (less | ⟨-, less | ⟨-, less⟩⟩)
    · exact String.lt_irrefl _ less
    · exact String.lt_irrefl _ less
    · exact irreflexive edge held less
  transitive first second third firstHeld secondHeld thirdHeld former latter := by
    rw [precedes_iff] at former latter ⊢
    rcases former with less | ⟨sources, former⟩
    · rcases latter with less' | ⟨sources, -⟩
      · exact Or.inl (String.lt_trans less less')
      · exact Or.inl (sources ▸ less)
    · rcases latter with less' | ⟨sources', latter⟩
      · exact Or.inl (sources ▸ less')
      · refine Or.inr ⟨sources.trans sources', ?_⟩
        rcases former with less | ⟨targets, less⟩
        · rcases latter with less' | ⟨targets, -⟩
          · exact Or.inl (String.lt_trans less less')
          · exact Or.inl (targets ▸ less)
        · rcases latter with less' | ⟨targets', less'⟩
          · exact Or.inl (targets ▸ less')
          · exact Or.inr ⟨targets.trans targets',
              transitive first second third firstHeld secondHeld thirdHeld less less'⟩
  connected first second firstHeld secondHeld apart := by
    rw [precedes_iff, precedes_iff]
    by_cases sources : first.source = second.source
    · by_cases targets : first.target = second.target
      · rcases connected first second firstHeld secondHeld sources targets apart with
          less | greater
        · exact Or.inl (Or.inr ⟨sources, Or.inr ⟨targets, less⟩⟩)
        · exact Or.inr (Or.inr ⟨sources.symm, Or.inr ⟨targets.symm, greater⟩⟩)
      · rcases Order.text_connected (mt Address.text_injective targets) with less | greater
        · exact Or.inl (Or.inr ⟨sources, Or.inl less⟩)
        · exact Or.inr (Or.inr ⟨sources.symm, Or.inl greater⟩)
    · rcases Order.text_connected (mt Address.text_injective sources) with less | greater
      · exact Or.inl (Or.inl less)
      · exact Or.inr (Or.inl greater)

/-- Edges with texts for relations are in a strict order. -/
theorem precedes_strict : Order.IsStrict precedes IsNamed := by
  refine isStrict_precedes ?_ ?_ ?_
  · rintro edge ⟨relation, named⟩
    rw [named, Atom.text_precedes_iff]
    exact String.lt_irrefl _
  · rintro first second third ⟨_, firstNamed⟩ ⟨_, secondNamed⟩ ⟨_, thirdNamed⟩
    rw [firstNamed, secondNamed, thirdNamed, Atom.text_precedes_iff, Atom.text_precedes_iff,
      Atom.text_precedes_iff]
    exact String.lt_trans
  · rintro first second ⟨relation, firstNamed⟩ ⟨other, secondNamed⟩ sources targets apart
    rw [firstNamed, secondNamed, Atom.text_precedes_iff, Atom.text_precedes_iff]
    refine Order.text_connected fun same => apart ?_
    cases first
    cases second
    simp_all

/-- Edges with texts for relations agree only if they are equal. -/
theorem agrees_iff {first second : Edge} (firstNamed : first.IsNamed)
    (secondNamed : second.IsNamed) : first.agrees second = true ↔ first = second := by
  obtain ⟨firstRelation, firstNamed⟩ := firstNamed
  obtain ⟨secondRelation, secondNamed⟩ := secondNamed
  cases first
  cases second
  cases firstNamed
  cases secondNamed
  simp [agrees, Atom.agrees, and_assoc]

theorem incomparable?_eq_none {edges : List Edge} (named : ∀ edge ∈ edges, edge.IsNamed) :
    incomparable? edges = none := by
  induction edges with
  | nil => rfl
  | cons first rest inductionHypothesis =>
      have absent : (rest.find? fun edge => !edge.comparable first) = none := by
        refine List.find?_eq_none.mpr fun edge member => ?_
        obtain ⟨relation, firstNamed⟩ := named first List.mem_cons_self
        obtain ⟨other, edgeNamed⟩ := named edge (List.mem_cons_of_mem _ member)
        simp [comparable, firstNamed, edgeNamed, Atom.comparable]
      unfold incomparable?
      rw [absent]
      exact inductionHypothesis fun edge member => named edge (List.mem_cons_of_mem _ member)

/-- Edges with texts for relations can be sorted. -/
theorem sort_named {edges : List Edge} (named : ∀ edge ∈ edges, edge.IsNamed) :
    sort edges = .ok (Order.sort precedes edges) := by
  unfold sort
  rw [incomparable?_eq_none named]

end Edge

end CodeGraph

import CodeGraph.Walk
import Mathlib.Algebra.BigOperators.Group.List.Basic
import Mathlib.Data.List.Nodup
import Mathlib.Data.List.Perm.Subperm
import Mathlib.Logic.Relation

/-!
This file measures how far places are apart. The distance of a place is the length of the shortest
path to it, and the layers of a breadth-first walk are the places of each distance.
-/

namespace CodeGraph.Walk

variable {α : Type} {joins : α → α → Prop} {start place : α}

/-- A path of the given number of steps leads from one place to another. -/
inductive Path (joins : α → α → Prop) : Nat → α → α → Prop where
  | here (place : α) : Path joins 0 place place
  | onward {steps : Nat} {start before place : α} (front : Path joins steps start before)
      (last : joins before place) : Path joins (steps + 1) start place

/-- The shortest path has the given number of steps. -/
structure IsDistance (joins : α → α → Prop) (steps : Nat) (start place : α) : Prop where
  path : Path joins steps start place
  shortest : ∀ other, Path joins other start place → steps ≤ other

theorem isDistance_zero_iff : IsDistance joins 0 start place ↔ place = start := by
  constructor
  · rintro ⟨path, -⟩
    cases path
    rfl
  · rintro rfl
    exact ⟨.here place, fun other _ => Nat.zero_le other⟩

theorem IsDistance.unique {first second : Nat} (former : IsDistance joins first start place)
    (latter : IsDistance joins second start place) : first = second :=
  Nat.le_antisymm (former.shortest second latter.path) (latter.shortest first former.path)

/-- Where a path leads there is a shortest one. -/
theorem Path.exists_distance {steps : Nat} (path : Path joins steps start place) :
    ∃ distance ≤ steps, IsDistance joins distance start place := by
  induction steps using Nat.strongRecOn with
  | ind steps inductionHypothesis =>
      by_cases shorter : ∃ other < steps, Path joins other start place
      · obtain ⟨other, smaller, otherPath⟩ := shorter
        obtain ⟨distance, within, isDistance⟩ := inductionHypothesis other smaller otherPath
        exact ⟨distance, Nat.le_trans within (Nat.le_of_lt smaller), isDistance⟩
      · refine ⟨steps, Nat.le_refl steps, path, fun other otherPath => ?_⟩
        exact Nat.le_of_not_lt fun smaller => shorter ⟨other, smaller, otherPath⟩

/-- The place before the last one of a shortest path is one step nearer. -/
theorem IsDistance.before {steps : Nat} (isDistance : IsDistance joins (steps + 1) start place) :
    ∃ before, IsDistance joins steps start before ∧ joins before place := by
  obtain ⟨path, shortest⟩ := isDistance
  cases path with
  | onward front last =>
      refine ⟨_, ⟨front, fun other otherPath => ?_⟩, last⟩
      have longer := shortest (other + 1) (.onward otherPath last)
      omega

/-- The places of the next distance are one step away from those of this one, and no nearer. -/
theorem isDistance_succ_iff {steps : Nat} : IsDistance joins (steps + 1) start place ↔
    (∃ before, IsDistance joins steps start before ∧ joins before place) ∧
      ∀ nearer ≤ steps, ¬IsDistance joins nearer start place := by
  constructor
  · intro isDistance
    refine ⟨isDistance.before, fun nearer within other => ?_⟩
    have same := other.unique isDistance
    omega
  · rintro ⟨⟨before, reached, last⟩, fresh⟩
    refine ⟨.onward reached.path last, fun other path => ?_⟩
    obtain ⟨distance, within, isDistance⟩ := path.exists_distance
    have beyond : ¬distance ≤ steps := fun near => fresh distance near isDistance
    omega

/-- Where a place has some distance, every smaller distance has a place too. -/
theorem IsDistance.exists_nearer {steps nearer : Nat}
    (isDistance : IsDistance joins steps start place) (within : nearer ≤ steps) :
    ∃ other, IsDistance joins nearer start other := by
  induction steps generalizing place with
  | zero => exact ⟨place, Nat.le_zero.mp within ▸ isDistance⟩
  | succ steps inductionHypothesis =>
      rcases Nat.lt_or_ge steps nearer with last | near
      · exact ⟨place, Nat.le_antisymm within last ▸ isDistance⟩
      · obtain ⟨before, reached, -⟩ := isDistance.before
        exact inductionHypothesis reached near

/-- A path of any length is what it means that one place leads to another. -/
theorem reflTransGen_iff_path :
    Relation.ReflTransGen joins start place ↔ ∃ steps, Path joins steps start place := by
  constructor
  · intro leads
    induction leads with
    | refl => exact ⟨0, .here start⟩
    | tail _ last inductionHypothesis =>
        obtain ⟨steps, path⟩ := inductionHypothesis
        exact ⟨steps + 1, .onward path last⟩
  · rintro ⟨steps, path⟩
    induction path with
    | here place => exact .refl
    | onward _ last inductionHypothesis => exact inductionHypothesis.tail last

/-- The layers are the places of the distances from the first one on, each place once. They end at
the given number or where no place is left. -/
structure IsLayered (joins : α → α → Prop) (start : α) (first steps : Nat)
    (layers : List (List α)) : Prop where
  exact : ∀ index layer, layers[index]? = some layer →
    layer ≠ [] ∧ layer.Nodup ∧ ∀ place, place ∈ layer ↔ IsDistance joins (first + index) start place
  complete : ∀ index place, index < steps → IsDistance joins (first + index) start place →
    index < layers.length
  bounded : layers.length ≤ steps

/-- Without steps there are no layers. -/
theorem isLayered_zero (joins : α → α → Prop) (start : α) (first : Nat) :
    IsLayered joins start first 0 [] :=
  ⟨fun _ _ found => by simp at found, fun _ _ inside => absurd inside (Nat.not_lt_zero _),
    Nat.le_refl 0⟩

/-- Where no place has the first distance, none has a greater one. -/
theorem isLayered_nil {first : Nat} (steps : Nat)
    (empty : ∀ place, ¬IsDistance joins first start place) :
    IsLayered joins start first steps [] := by
  refine ⟨fun _ _ found => by simp at found, fun index place _ isDistance => ?_, Nat.zero_le steps⟩
  obtain ⟨other, isFirst⟩ := isDistance.exists_nearer (Nat.le_add_right first index)
  exact absurd isFirst (empty other)

/-- One layer in front of the layers behind it. -/
theorem IsLayered.cons {first steps : Nat} {layer : List α} {layers : List (List α)}
    (rest : IsLayered joins start (first + 1) steps layers) (some : layer ≠ [])
    (distinct : layer.Nodup)
    (members : ∀ place, place ∈ layer ↔ IsDistance joins first start place) :
    IsLayered joins start first (steps + 1) (layer :: layers) := by
  have shifted (index : Nat) : first + 1 + index = first + (index + 1) := by omega
  refine ⟨fun index other found => ?_, fun index place inside isDistance => ?_, ?_⟩
  · cases index with
    | zero =>
        cases found
        exact ⟨some, distinct, members⟩
    | succ index =>
        have behind := rest.exact index other found
        rw [shifted] at behind
        exact behind
  · cases index with
    | zero => exact Nat.zero_lt_succ _
    | succ index =>
        rw [← shifted] at isDistance
        exact Nat.succ_lt_succ
          (rest.complete index place (Nat.lt_of_succ_lt_succ inside) isDistance)
  · exact Nat.succ_le_succ rest.bounded

namespace IsLayered

variable {first steps : Nat} {layers : List (List α)}

/-- The order within the layers does not count. -/
theorem map {order : List α → List α} (layered : IsLayered joins start first steps layers)
    (members : ∀ layer place, place ∈ order layer ↔ place ∈ layer)
    (distinct : ∀ layer, (order layer).Nodup) :
    IsLayered joins start first steps (layers.map order) := by
  refine ⟨fun index layer found => ?_, fun index place inside isDistance => ?_, ?_⟩
  · rw [List.getElem?_map, Option.map_eq_some_iff] at found
    obtain ⟨old, oldFound, rfl⟩ := found
    obtain ⟨some, -, oldMembers⟩ := layered.exact index old oldFound
    refine ⟨fun empty => ?_, distinct old,
      fun place => (members old place).trans (oldMembers place)⟩
    obtain ⟨place, member⟩ := List.exists_mem_of_ne_nil old some
    rw [← members, empty] at member
    exact List.not_mem_nil member
  · rw [List.length_map]
    exact layered.complete index place inside isDistance
  · rw [List.length_map]
    exact layered.bounded

/-- All places of the distances from the first one on are met. -/
theorem mem_flatten_iff (layered : IsLayered joins start first steps layers) :
    place ∈ layers.flatten ↔ ∃ index < steps, IsDistance joins (first + index) start place := by
  rw [List.mem_flatten]
  constructor
  · rintro ⟨layer, member, inside⟩
    obtain ⟨index, found⟩ := List.mem_iff_getElem?.mp member
    have short : index < layers.length := (List.getElem?_eq_some_iff.mp found).1
    exact ⟨index, Nat.lt_of_lt_of_le short layered.bounded,
      ((layered.exact index layer found).2.2 place).mp inside⟩
  · rintro ⟨index, inside, isDistance⟩
    have found := List.getElem?_eq_getElem (layered.complete index place inside isDistance)
    exact ⟨_, List.mem_iff_getElem?.mpr ⟨index, found⟩,
      ((layered.exact index _ found).2.2 place).mpr isDistance⟩

/-- No place is met twice. -/
theorem nodup_flatten (layered : IsLayered joins start first steps layers) :
    layers.flatten.Nodup := by
  rw [List.nodup_flatten]
  constructor
  · intro layer member
    obtain ⟨index, found⟩ := List.mem_iff_getElem?.mp member
    exact (layered.exact index layer found).2.1
  · rw [List.pairwise_iff_getElem]
    intro left right leftInside rightInside smaller place inLeft inRight
    have leftDistance := ((layered.exact left _ (List.getElem?_eq_getElem leftInside)).2.2
      place).mp inLeft
    have rightDistance := ((layered.exact right _ (List.getElem?_eq_getElem rightInside)).2.2
      place).mp inRight
    have same := leftDistance.unique rightDistance
    omega

/-- No layer is empty, so there are no more layers than places. -/
theorem length_le_flatten (layered : IsLayered joins start first steps layers) :
    layers.length ≤ layers.flatten.length := by
  have filled : ∀ size ∈ layers.map List.length, 1 ≤ size := by
    intro size member
    obtain ⟨layer, inside, rfl⟩ := List.mem_map.mp member
    obtain ⟨index, found⟩ := List.mem_iff_getElem?.mp inside
    exact List.length_pos_iff.mpr (layered.exact index layer found).1
  have bound := List.length_le_sum_of_one_le (layers.map List.length) filled
  rw [List.length_map] at bound
  rw [List.length_flatten]
  exact bound

/-- Among finitely many places there are fewer layers than places, as the start is in none. -/
theorem length_lt (layered : IsLayered joins start 1 steps layers) {places : List α}
    (startInside : start ∈ places) (closed : ∀ before place, joins before place → place ∈ places) :
    layers.length < places.length := by
  have apart : start ∉ layers.flatten := by
    intro member
    obtain ⟨index, -, isDistance⟩ := layered.mem_flatten_iff.mp member
    have same := isDistance.unique (isDistance_zero_iff.mpr rfl)
    omega
  have inside : start :: layers.flatten ⊆ places := by
    intro place member
    rcases List.mem_cons.mp member with rfl | met
    · exact startInside
    · obtain ⟨index, -, isDistance⟩ := layered.mem_flatten_iff.mp met
      rw [Nat.add_comm] at isDistance
      obtain ⟨before, -, last⟩ := isDistance.before
      exact closed before place last
  have distinct : (start :: layers.flatten).Nodup :=
    List.nodup_cons.mpr ⟨apart, layered.nodup_flatten⟩
  have fewer := (List.subperm_of_subset distinct inside).length_le
  rw [List.length_cons] at fewer
  exact Nat.lt_of_le_of_lt layered.length_le_flatten fewer

end IsLayered

/-- After so many steps a walk has visited the places up to this distance, and those of exactly this
distance are its frontier. -/
structure HasWalked (joins : α → α → Prop) (start : α) (steps : Nat) (visited frontier : List α) :
    Prop where
  visited : ∀ place, place ∈ visited ↔ ∃ nearer ≤ steps, IsDistance joins nearer start place
  frontier : ∀ place, place ∈ frontier ↔ IsDistance joins steps start place

/-- A walk begins with its start. -/
theorem hasWalked_start (joins : α → α → Prop) (start : α) :
    HasWalked joins start 0 [start] [start] := by
  refine ⟨fun place => ?_, fun place => ?_⟩
  · simp only [List.mem_singleton, Nat.le_zero, exists_eq_left, isDistance_zero_iff]
  · rw [List.mem_singleton, isDistance_zero_iff]

variable [DecidableEq α] {next : α → List α}

/-- The places that one more step reaches are those of the next distance. -/
theorem HasWalked.mem_reached (leads : ∀ before place, place ∈ next before ↔ joins before place)
    {steps : Nat} {visited frontier : List α}
    (walked : HasWalked joins start steps visited frontier) :
    place ∈ reached next visited frontier ↔ IsDistance joins (steps + 1) start place := by
  rw [Walk.mem_reached, isDistance_succ_iff, walked.visited]
  simp only [walked.frontier, leads, not_exists, not_and]

/-- One more step keeps what a walk knows. -/
theorem HasWalked.onward (leads : ∀ before place, place ∈ next before ↔ joins before place)
    {steps : Nat} {visited frontier : List α}
    (walked : HasWalked joins start steps visited frontier) :
    HasWalked joins start (steps + 1) (reached next visited frontier ++ visited)
      (reached next visited frontier) := by
  refine ⟨fun place => ?_, fun place => walked.mem_reached leads⟩
  rw [List.mem_append, walked.mem_reached leads, walked.visited]
  constructor
  · rintro (last | ⟨nearer, within, isDistance⟩)
    · exact ⟨steps + 1, Nat.le_refl _, last⟩
    · exact ⟨nearer, Nat.le_succ_of_le within, isDistance⟩
  · rintro ⟨nearer, within, isDistance⟩
    rcases Nat.lt_or_ge steps nearer with last | near
    · exact Or.inl (Nat.le_antisymm within last ▸ isDistance)
    · exact Or.inr ⟨nearer, near, isDistance⟩

/-- Wherever a walk stands, its further layers are the places of the further distances. -/
theorem HasWalked.layersFrom (leads : ∀ before place, place ∈ next before ↔ joins before place)
    (more : Nat) {steps : Nat} {visited frontier : List α}
    (walked : HasWalked joins start steps visited frontier) :
    IsLayered joins start (steps + 1) more (layersFrom next more visited frontier) := by
  induction more generalizing steps visited frontier with
  | zero => exact isLayered_zero joins start (steps + 1)
  | succ more inductionHypothesis =>
      unfold Walk.layersFrom
      dsimp only
      split
      · rename_i empty
        refine isLayered_nil (more + 1) fun place isDistance => ?_
        rw [← walked.mem_reached leads, List.isEmpty_iff.mp empty] at isDistance
        exact List.not_mem_nil isDistance
      · rename_i filled
        exact (inductionHypothesis (walked.onward leads)).cons (mt List.isEmpty_iff.mpr filled)
          (Order.nodup_distinct _) fun place => walked.mem_reached leads

/-- The layers around a start are the places of each distance. -/
theorem layers_isLayered (leads : ∀ before place, place ∈ next before ↔ joins before place)
    (steps : Nat) (start : α) : IsLayered joins start 1 steps (layers next steps start) :=
  (hasWalked_start joins start).layersFrom leads steps

/-- A walk with as many steps as there are places meets every place to which the start leads. -/
theorem mem_flatten_layers_iff (leads : ∀ before place, place ∈ next before ↔ joins before place)
    {places : List α} (startInside : start ∈ places)
    (closed : ∀ before place, joins before place → place ∈ places) :
    place ∈ (layers next places.length start).flatten ↔
      place ≠ start ∧ Relation.ReflTransGen joins start place := by
  have layered := layers_isLayered leads places.length start
  rw [layered.mem_flatten_iff, reflTransGen_iff_path]
  constructor
  · rintro ⟨index, -, isDistance⟩
    refine ⟨fun same => ?_, _, isDistance.path⟩
    have zero := isDistance.unique (isDistance_zero_iff.mpr same)
    omega
  · rintro ⟨apart, steps, path⟩
    obtain ⟨distance, -, isDistance⟩ := path.exists_distance
    cases distance with
    | zero => exact absurd (isDistance_zero_iff.mp isDistance) apart
    | succ index =>
        -- A walk of exactly this many steps shows that the distance is less than the places.
        rw [Nat.add_comm] at isDistance
        have exactly := layers_isLayered leads (index + 1) start
        have inside := exactly.complete index place (Nat.lt_succ_self index) isDistance
        have fewer := exactly.length_lt startInside closed
        exact ⟨index, Nat.lt_trans inside fewer, isDistance⟩

end CodeGraph.Walk

import CodeGraph.Proofs.CommittedSnapshot
import CodeGraph.Proofs.Adjacency
import CodeGraph.Report.Neighbors
import Mathlib.Algebra.Order.BigOperators.Group.Finset
import Mathlib.Algebra.BigOperators.Group.Finset.Basic

/-!
This file says that the callers and the callees of entities are the two sides of the same edges.
-/

namespace CodeGraph

namespace Order

theorem distinct_sublist {α : Type} [DecidableEq α] (elements : List α) :
    (distinct elements).Sublist elements := by
  induction elements with
  | nil => exact List.Sublist.refl []
  | cons first rest inductionHypothesis =>
      exact (List.filter_sublist.trans inductionHypothesis).cons_cons first

end Order

/-- Each element belongs to exactly one of different groups. -/
theorem sum_length_filter {α β : Type} [DecidableEq β] (group : α → β) {elements : List α}
    {groups : List β} (distinct : groups.Nodup)
    (covered : ∀ element ∈ elements, group element ∈ groups) :
    (groups.map fun name =>
      (elements.filter fun element => decide (group element = name)).length).sum =
        elements.length := by
  have members (name : β) (member : name ∈ (elements.map group : Multiset β)) :
      name ∈ groups.toFinset := by
    obtain ⟨element, inside, rfl⟩ := List.mem_map.mp (Multiset.mem_coe.mp member)
    exact List.mem_toFinset.mpr (covered element inside)
  have counted := Multiset.sum_count_eq_card members
  rw [List.sum_toFinset _ distinct] at counted
  simpa [List.count, List.countP_eq_length_filter, List.filter_map, Function.comp_def,
    beq_eq_decide] using counted

namespace Neighbor

/-- The neighbours are different entities, or their relations do not agree. -/
def Differs (first second : Neighbor) : Prop :=
  first.address ≠ second.address ∨ first.relation.agrees second.relation = false

/-- The order of neighbours by their keys, and then by the relations to them. -/
def IsBefore (first second : Neighbor) : Prop :=
  first.address.text < second.address.text ∨
    (first.address = second.address ∧ first.relation.lt second.relation = true)

end Neighbor

namespace Snapshot

variable {snapshot : Snapshot} {address other : Address}

theorem mem_callees {relation : Atom} : ⟨other, relation⟩ ∈ snapshot.callees address ↔
    ⟨address, other, relation⟩ ∈ snapshot.edges := by
  unfold callees
  rw [List.mem_map]
  constructor
  · rintro ⟨edge, member, same⟩
    obtain ⟨inside, source⟩ := List.mem_filter.mp member
    obtain ⟨rfl, rfl⟩ := Neighbor.mk.inj same
    exact of_decide_eq_true source ▸ inside
  · intro inside
    exact ⟨_, List.mem_filter.mpr ⟨inside, decide_eq_true rfl⟩, rfl⟩

theorem mem_callers {relation : Atom} : ⟨other, relation⟩ ∈ snapshot.callers address ↔
    ⟨other, address, relation⟩ ∈ snapshot.edges := by
  unfold callers
  rw [List.mem_map]
  constructor
  · rintro ⟨edge, member, same⟩
    obtain ⟨inside, target⟩ := List.mem_filter.mp member
    obtain ⟨rfl, rfl⟩ := Neighbor.mk.inj same
    exact of_decide_eq_true target ▸ inside
  · intro inside
    exact ⟨_, List.mem_filter.mpr ⟨inside, decide_eq_true rfl⟩, rfl⟩

/-- What holds between any two edges with one end in common holds between the neighbours at their
other ends. -/
theorem pairwise_neighbors {related : Neighbor → Neighbor → Prop} {between : Edge → Edge → Prop}
    (near far : Edge → Address) {edges : List Edge} (pairwise : edges.Pairwise between)
    (step : ∀ first second, between first second → near first = near second →
      related ⟨far first, first.relation⟩ ⟨far second, second.relation⟩) (address : Address) :
    ((edges.filter fun edge => decide (near edge = address)).map fun edge =>
      (⟨far edge, edge.relation⟩ : Neighbor)).Pairwise related := by
  refine List.pairwise_map.mpr ((pairwise.filter _).imp_of_mem fun first second holding => ?_)
  have firstNear := of_decide_eq_true (List.mem_filter.mp first).2
  have secondNear := of_decide_eq_true (List.mem_filter.mp second).2
  exact step _ _ holding (firstNear.trans secondNear.symm)

theorem pairwise_callees {related : Neighbor → Neighbor → Prop} {between : Edge → Edge → Prop}
    (edges : snapshot.edges.Pairwise between)
    (step : ∀ first second, between first second → first.source = second.source →
      related ⟨first.target, first.relation⟩ ⟨second.target, second.relation⟩) (address : Address) :
    (snapshot.callees address).Pairwise related :=
  pairwise_neighbors Edge.source Edge.target edges step address

theorem pairwise_callers {related : Neighbor → Neighbor → Prop} {between : Edge → Edge → Prop}
    (edges : snapshot.edges.Pairwise between)
    (step : ∀ first second, between first second → first.target = second.target →
      related ⟨first.source, first.relation⟩ ⟨second.source, second.relation⟩) (address : Address) :
    (snapshot.callers address).Pairwise related :=
  pairwise_neighbors Edge.target Edge.source edges step address

/-- Addresses in the order of their keys are strictly increasing once each is kept only once. -/
theorem increasing_distinct {addresses : List Address}
    (ordered : addresses.Pairwise fun first second => first.text ≤ second.text) :
    Address.IsIncreasing (Order.distinct addresses) := by
  have distinct := Order.nodup_distinct addresses
  refine ((ordered.sublist (Order.distinct_sublist addresses)).and distinct).imp ?_
  rintro first second ⟨notLarger, apart⟩
  exact (Order.text_connected (mt Address.text_injective apart)).resolve_right
    (String.not_lt.mpr notLarger)

theorem IsCommitted.increasing_calleeAddresses (committed : snapshot.IsCommitted)
    (address : Address) : Address.IsIncreasing (snapshot.calleeAddresses address) := by
  refine increasing_distinct (List.pairwise_map.mpr
    (pairwise_callees committed.pairwise_ends (fun first second ends same => ?_) address))
  rcases ends with less | ⟨-, notLarger⟩
  · exact absurd (same ▸ less) (String.lt_irrefl _)
  · exact notLarger

/-- The edges are sorted by their sources first, so callers need no sorting of their own. -/
theorem IsCommitted.increasing_callerAddresses (committed : snapshot.IsCommitted)
    (address : Address) : Address.IsIncreasing (snapshot.callerAddresses address) := by
  refine increasing_distinct (List.pairwise_map.mpr
    (pairwise_callers committed.pairwise_ends (fun first second ends same => ?_) address))
  rcases ends with less | ⟨sources, -⟩
  · exact String.not_lt.mp (String.lt_asymm less)
  · exact String.not_lt.mp (sources ▸ String.lt_irrefl _)

/-- The relative is the entity of the neighbour, with the same relation. -/
def IsRelative (snapshot : Snapshot) (neighbor : Neighbor) (relative : Relative) : Prop :=
  snapshot.entity? neighbor.address = some relative.entity ∧ relative.relation = neighbor.relation

/-- The entities behind neighbours are looked up without a failure if all of them are present. -/
theorem exists_relatives {neighbors : List Neighbor}
    (present : ∀ neighbor ∈ neighbors, neighbor.address ∈ snapshot.addresses) :
    ∃ relatives, neighbors.mapM (Relative.ofNeighbor snapshot) = .ok relatives ∧
      List.Forall₂ snapshot.IsRelative neighbors relatives := by
  have found (neighbor : Neighbor) (member : neighbor ∈ neighbors) :
      ∃ relative, Relative.ofNeighbor snapshot neighbor = .ok relative := by
    obtain ⟨entity, found⟩ := exists_entity (present neighbor member)
    exact ⟨_, Outcome.map_ok_iff.mpr ⟨entity, entityAt_eq_ok_iff.mpr found, rfl⟩⟩
  obtain ⟨relatives, made⟩ := Outcome.exists_mapM_ok found
  refine ⟨relatives, made, (Outcome.mapM_ok made).imp fun neighbor relative converted => ?_⟩
  obtain ⟨entity, looked, rfl⟩ := Outcome.map_ok converted
  exact ⟨entityAt_eq_ok_iff.mp looked, rfl⟩

/-- Both sides of all edges are shown exactly. -/
structure HasExactAdjacency (snapshot : Snapshot) : Prop where
  transposed : ∀ first second relation,
    (⟨second, relation⟩ ∈ snapshot.callees first ↔ ⟨first, second, relation⟩ ∈ snapshot.edges) ∧
    (⟨first, relation⟩ ∈ snapshot.callers second ↔ ⟨first, second, relation⟩ ∈ snapshot.edges)
  once : ∀ address, (snapshot.callees address).Pairwise Neighbor.Differs ∧
    (snapshot.callers address).Pairwise Neighbor.Differs
  /-- A NaN is in no order to any relation. -/
  increasing : (∀ edge ∈ snapshot.edges, edge.relation.IsOrdered) → ∀ address,
    (snapshot.callees address).Pairwise Neighbor.IsBefore ∧
    (snapshot.callers address).Pairwise Neighbor.IsBefore
  calleeAddresses : ∀ address, Address.IsIncreasing (snapshot.calleeAddresses address) ∧
    ∀ other, other ∈ snapshot.calleeAddresses address ↔ snapshot.Joins address other
  callerAddresses : ∀ address, Address.IsIncreasing (snapshot.callerAddresses address) ∧
    ∀ other, other ∈ snapshot.callerAddresses address ↔ snapshot.Joins other address
  neighborAddresses : ∀ address, Address.IsIncreasing (snapshot.neighborAddresses address) ∧
    ∀ other, other ∈ snapshot.neighborAddresses address ↔
      snapshot.Joins other address ∨ snapshot.Joins address other
  selfLoops : ∀ address, address ∈ snapshot.selfLoops ↔ snapshot.Joins address address
  degrees : (snapshot.addresses.map snapshot.inDegree).sum = snapshot.edgeCount ∧
    (snapshot.addresses.map snapshot.outDegree).sum = snapshot.edgeCount
  present : ∀ address, ∀ neighbor ∈ snapshot.callers address ++ snapshot.callees address,
    neighbor.address ∈ snapshot.addresses
  found : ∀ vocabulary key address, snapshot.resolve vocabulary key = .ok address →
    ∃ callers callees, Relative.callers vocabulary snapshot key = .ok callers ∧
      Relative.callees vocabulary snapshot key = .ok callees ∧
      List.Forall₂ snapshot.IsRelative (snapshot.callers address) callers ∧
      List.Forall₂ snapshot.IsRelative (snapshot.callees address) callees

theorem IsCommitted.differ_neighbors (committed : snapshot.IsCommitted) (address : Address) :
    (snapshot.callees address).Pairwise Neighbor.Differs ∧
      (snapshot.callers address).Pairwise Neighbor.Differs := by
  constructor
  · refine pairwise_callees committed.differ (fun first second apart same => ?_) address
    by_cases targets : first.target = second.target
    · exact Or.inr (by simpa [Edge.Differs, Edge.agrees, same, targets] using apart)
    · exact Or.inl targets
  · refine pairwise_callers committed.differ (fun first second apart same => ?_) address
    by_cases sources : first.source = second.source
    · exact Or.inr (by simpa [Edge.Differs, Edge.agrees, same, sources] using apart)
    · exact Or.inl sources

/-- Callees are sorted by the order of the edges, and so are callers, since edges with one target
are in the order of their sources. -/
theorem IsCommitted.increasing_neighbors (committed : snapshot.IsCommitted)
    (ordered : ∀ edge ∈ snapshot.edges, edge.relation.IsOrdered) (address : Address) :
    (snapshot.callees address).Pairwise Neighbor.IsBefore ∧
      (snapshot.callers address).Pairwise Neighbor.IsBefore := by
  have increasing := committed.pairwise_precedes ordered
  constructor
  · refine pairwise_callees increasing (fun first second smaller same => ?_) address
    rcases Edge.precedes_iff_lt.mp smaller with less | ⟨-, ends⟩
    · exact absurd (same ▸ less) (String.lt_irrefl _)
    · exact ends
  · refine pairwise_callers increasing (fun first second smaller same => ?_) address
    rcases Edge.precedes_iff_lt.mp smaller with less | ⟨sources, less | ⟨-, less⟩⟩
    · exact Or.inl less
    · exact absurd (same ▸ less) (String.lt_irrefl _)
    · exact Or.inr ⟨sources, less⟩

theorem neighbor_present {neighbor : Neighbor}
    (member : neighbor ∈ snapshot.callers address ++ snapshot.callees address) :
    neighbor.address ∈ snapshot.addresses := by
  rcases List.mem_append.mp member with caller | callee
  · exact mem_addresses_iff.mpr (snapshot.endpointsPresent _ (mem_callers.mp caller)).1
  · exact mem_addresses_iff.mpr (snapshot.endpointsPresent _ (mem_callees.mp callee)).2

theorem sum_degrees (snapshot : Snapshot) :
    (snapshot.addresses.map snapshot.inDegree).sum = snapshot.edgeCount ∧
      (snapshot.addresses.map snapshot.outDegree).sum = snapshot.edgeCount := by
  have distinct := snapshot.increasing_addresses.nodup
  have targets := sum_length_filter Edge.target distinct fun edge member =>
    mem_addresses_iff.mpr (snapshot.endpointsPresent edge member).2
  have sources := sum_length_filter Edge.source distinct fun edge member =>
    mem_addresses_iff.mpr (snapshot.endpointsPresent edge member).1
  unfold inDegree outDegree callers callees
  simp only [List.length_map]
  exact ⟨targets, sources⟩

/-- In every committed snapshot the callers and the callees are the two sides of its edges. -/
theorem IsCommitted.hasExactAdjacency (committed : snapshot.IsCommitted) :
    snapshot.HasExactAdjacency where
  transposed _ _ _ := ⟨mem_callees, mem_callers⟩
  once := committed.differ_neighbors
  increasing := committed.increasing_neighbors
  calleeAddresses address := ⟨committed.increasing_calleeAddresses address, fun _ =>
    mem_calleeAddresses⟩
  callerAddresses address := ⟨committed.increasing_callerAddresses address, fun _ =>
    mem_callerAddresses⟩
  neighborAddresses address := by
    refine ⟨increasing_orderAddresses _, fun other => ?_⟩
    rw [neighborAddresses, mem_orderAddresses, List.mem_append, mem_callerAddresses,
      mem_calleeAddresses]
  selfLoops _ := mem_selfLoops
  degrees := snapshot.sum_degrees
  present _ _ := neighbor_present
  found vocabulary key address resolved := by
    obtain ⟨callers, callersMade, callersShown⟩ := exists_relatives fun neighbor member =>
      neighbor_present (List.mem_append_left (snapshot.callees address) member)
    obtain ⟨callees, calleesMade, calleesShown⟩ := exists_relatives fun neighbor member =>
      neighbor_present (List.mem_append_right (snapshot.callers address) member)
    refine ⟨callers, callees, ?_, ?_, callersShown, calleesShown⟩
    · rw [Relative.callers, resolved]
      exact callersMade
    · rw [Relative.callees, resolved]
      exact calleesMade

/-- A function that is tied to itself twice is its own caller, once for each tie and in their
order. -/
theorem hasExactAdjacency_recursive :
    ∃ snapshot : Snapshot, snapshot.IsCommitted ∧ snapshot.HasExactAdjacency ∧
      (∀ address, (snapshot.callers address).Pairwise Neighbor.IsBefore) ∧
      snapshot.callers recursiveAddress =
        [⟨recursiveAddress, .text "calls"⟩, ⟨recursiveAddress, .text "uses"⟩] := by
  obtain ⟨snapshot, committed, -, edges, -⟩ := exists_committed
    [recursiveEdge "uses", recursiveEdge "calls"] (by simp [recursiveEdge])
    (by unfold Edge.Differs; decide) (by decide)
  have sorted : Order.sort Edge.precedes [recursiveEdge "uses", recursiveEdge "calls"] =
      [recursiveEdge "calls", recursiveEdge "uses"] := by decide
  rw [sorted] at edges
  have exact := committed.hasExactAdjacency
  have ordered : ∀ edge ∈ snapshot.edges, edge.relation.IsOrdered := by
    rw [edges]
    simp [recursiveEdge, Atom.IsOrdered]
  refine ⟨snapshot, committed, exact, fun address => (exact.increasing ordered address).2, ?_⟩
  rw [callers, edges]
  decide

end Snapshot

end CodeGraph

import CodeGraph.Proofs.Adjacency
import CodeGraph.Proofs.Distance
import CodeGraph.Proofs.Sorting
import CodeGraph.Report.Cycles

/-!
This file says which entities stand on the cycles of a snapshot. The components are the classes of
entities that lead to each other, and the reported cycles are those in which a path comes back.
-/

namespace CodeGraph

open Relation

namespace Snapshot

variable {snapshot : Snapshot} {first second third : Address}

/-- Each of two addresses leads to the other. -/
def AreMutual (snapshot : Snapshot) (first second : Address) : Prop :=
  ReflTransGen snapshot.Joins first second ∧ ReflTransGen snapshot.Joins second first

theorem AreMutual.refl (address : Address) : snapshot.AreMutual address address := ⟨.refl, .refl⟩

theorem AreMutual.symm (both : snapshot.AreMutual first second) :
    snapshot.AreMutual second first := ⟨both.2, both.1⟩

theorem AreMutual.trans (former : snapshot.AreMutual first second)
    (latter : snapshot.AreMutual second third) : snapshot.AreMutual first third :=
  ⟨former.1.trans latter.1, latter.2.trans former.2⟩

/-- Where an entity leads there is an entity. -/
theorem mem_addresses_of_leads (leads : ReflTransGen snapshot.Joins first second)
    (inside : first ∈ snapshot.addresses) : second ∈ snapshot.addresses := by
  rcases ReflTransGen.cases_tail leads with rfl | ⟨before, -, joins⟩
  · exact inside
  · exact joins.target_mem

/-- Two different addresses that lead to each other are on a path back to themselves. -/
theorem AreMutual.returns (both : snapshot.AreMutual first second) (apart : second ≠ first) :
    TransGen snapshot.Joins first first := by
  rcases Relation.reflTransGen_iff_eq_or_transGen.mp both.1 with same | leads
  · exact absurd same apart
  · exact leads.trans_left both.2

/-- A path back is shared by all addresses that lead to each other. -/
theorem AreMutual.returns_of_returns (both : snapshot.AreMutual first second)
    (returns : TransGen snapshot.Joins second second) : TransGen snapshot.Joins first first :=
  (returns.trans_left both.2).trans_right both.1

end Snapshot

namespace CycleReport

variable {snapshot : Snapshot} {first second : Address} {members : List Address}

/-- Exactly the other entities to which an entity leads lie ahead of it. -/
theorem mem_ahead_iff (inside : first ∈ snapshot.addresses) : second ∈ ahead snapshot first ↔
    second ≠ first ∧ ReflTransGen snapshot.Joins first second := by
  unfold ahead
  rw [← Snapshot.length_addresses]
  exact Walk.mem_flatten_layers_iff (fun _ _ => Snapshot.mem_calleeAddresses) inside
    fun _ _ joins => joins.target_mem

theorem nodup_ahead (snapshot : Snapshot) (address : Address) : (ahead snapshot address).Nodup :=
  (Walk.layers_isLayered (fun _ _ => Snapshot.mem_calleeAddresses) _ address).nodup_flatten

/-- The horizons tell whether two entities lead to each other. -/
theorem areMutual_iff (firstInside : first ∈ snapshot.addresses)
    (secondInside : second ∈ snapshot.addresses) :
    areMutual (first, ahead snapshot first) (second, ahead snapshot second) = true ↔
      snapshot.AreMutual first second := by
  unfold areMutual
  rw [Bool.or_eq_true, decide_eq_true_eq, Bool.and_eq_true, List.contains_iff_mem,
    List.contains_iff_mem, mem_ahead_iff firstInside, mem_ahead_iff secondInside]
  constructor
  · rintro (rfl | ⟨⟨-, onward⟩, -, back⟩)
    · exact .refl first
    · exact ⟨onward, back⟩
  · rintro ⟨onward, back⟩
    by_cases same : first = second
    · exact Or.inl same
    · exact Or.inr ⟨⟨fun equal => same equal.symm, onward⟩, same, back⟩

/-- The component of an entity. -/
def componentOf (snapshot : Snapshot) (address : Address) : List Address :=
  component (horizons snapshot) (address, ahead snapshot address)

theorem componentOf_eq_filter (snapshot : Snapshot) (address : Address) :
    componentOf snapshot address = snapshot.addresses.filter fun other =>
      areMutual (address, ahead snapshot address) (other, ahead snapshot other) := by
  unfold componentOf component horizons
  rw [List.filter_map, List.map_map]
  exact List.map_id _

theorem mem_componentOf (inside : first ∈ snapshot.addresses) :
    second ∈ componentOf snapshot first ↔ snapshot.AreMutual first second := by
  rw [componentOf_eq_filter, List.mem_filter]
  constructor
  · rintro ⟨other, both⟩
    exact (areMutual_iff inside other).mp both
  · intro both
    have other := Snapshot.mem_addresses_of_leads both.1 inside
    exact ⟨other, (areMutual_iff inside other).mpr both⟩

theorem mem_components_iff : members ∈ components snapshot ↔
    ∃ address ∈ snapshot.addresses, members = componentOf snapshot address := by
  unfold components
  rw [Order.mem_distinct, horizons, List.map_map, List.mem_map]
  exact exists_congr fun address => and_congr_right fun _ => eq_comm

/-- All entities that lead to each other, in the order of their keys. -/
structure IsComponent (snapshot : Snapshot) (members : List Address) : Prop where
  some : ∃ address ∈ snapshot.addresses, address ∈ members
  increasing : Address.IsIncreasing members
  exact : ∀ first ∈ members, ∀ second, second ∈ members ↔ snapshot.AreMutual first second

theorem componentOf_isComponent (inside : first ∈ snapshot.addresses) :
    IsComponent snapshot (componentOf snapshot first) where
  some := ⟨first, inside, (mem_componentOf inside).mpr (.refl first)⟩
  increasing := by
    rw [componentOf_eq_filter]
    exact List.Pairwise.filter _ (Snapshot.increasing_addresses snapshot)
  exact := by
    intro second member third
    have both := (mem_componentOf inside).mp member
    rw [mem_componentOf inside]
    exact ⟨both.symm.trans, both.trans⟩

theorem isComponent_of_mem (member : members ∈ components snapshot) :
    IsComponent snapshot members := by
  obtain ⟨address, inside, rfl⟩ := mem_components_iff.mp member
  exact componentOf_isComponent inside

namespace IsComponent

theorem exists_head (isComponent : IsComponent snapshot members) :
    ∃ address, address ∈ members.head? := by
  obtain ⟨address, -, member⟩ := isComponent.some
  cases members with
  | nil => cases member
  | cons head _ => exact ⟨head, rfl⟩

/-- Components with a common member are equal. -/
theorem eq_of_mem {other : List Address} (former : IsComponent snapshot members)
    (latter : IsComponent snapshot other) (inside : first ∈ members) (outside : first ∈ other) :
    members = other :=
  former.increasing.eq_of_mem_iff latter.increasing fun address =>
    (former.exact first inside address).trans (latter.exact first outside address).symm

/-- A component is a cycle exactly if a path leads from a member back to itself. -/
theorem isCycle_iff (isComponent : IsComponent snapshot members) (member : first ∈ members) :
    isCycle snapshot members = true ↔ TransGen snapshot.Joins first first := by
  have distinct := isComponent.increasing.nodup
  unfold isCycle
  rw [Bool.or_eq_true, decide_eq_true_eq, List.any_eq_true]
  constructor
  · rintro (several | ⟨loop, inside, loops⟩)
    · have more : members ≠ [first] := fun only => by simp [only] at several
      obtain ⟨other, inside, apart⟩ :=
        ((distinct.ne_singleton_iff first).mp more).resolve_left (List.ne_nil_of_mem member)
      exact ((isComponent.exact first member other).mp inside).returns apart
    · have joins := Snapshot.mem_selfLoops.mp (List.contains_iff_mem.mp loops)
      exact ((isComponent.exact first member loop).mp inside).returns_of_returns (.single joins)
  · intro returns
    obtain ⟨other, joins, back⟩ := TransGen.head'_iff.mp returns
    by_cases same : other = first
    · subst same
      exact Or.inr ⟨other, member, List.contains_iff_mem.mpr (Snapshot.mem_selfLoops.mpr joins)⟩
    · have inside := (isComponent.exact first member other).mpr ⟨.single joins, back⟩
      have pair : [other, first] ⊆ members := by simp [member, inside]
      exact Or.inl (List.subperm_of_subset (by simp [same]) pair).length_le

end IsComponent

end CycleReport

end CodeGraph

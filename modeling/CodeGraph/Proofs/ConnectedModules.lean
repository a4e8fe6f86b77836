import CodeGraph.Proofs.SeedGroups

/-!
This file says what it means to merge the modules that chains of dense joins connect. However these
are listed, their clusters are a partition of the source tree, and the order of clusters is strict,
so it does not show how they were listed. A lower threshold keeps the entities of a cluster
together.
-/

namespace CodeGraph

open Relation

namespace Cluster

/-- The larger cluster comes first, then the one with the smaller label, then the one with the
smaller first key. -/
def IsBefore (first second : Cluster) : Prop :=
  second.size < first.size ∨ (first.size = second.size ∧
    (first.label < second.label ∨
      (first.label = second.label ∧ first.firstKey < second.firstKey)))

variable {first second : Cluster}

theorem precedes_iff : first.precedes second = true ↔ first.IsBefore second := by
  unfold precedes IsBefore
  by_cases sizes : first.size = second.size
  · by_cases labels : first.label = second.label
    · simp [sizes, labels]
    · simp [sizes, labels]
  · simp [sizes]

/-- Clusters that can be told apart by their first keys are in a strict order. -/
theorem precedes_strict {clusters : List Cluster}
    (apart : ∀ first ∈ clusters, ∀ second ∈ clusters,
      first.firstKey = second.firstKey → first = second) :
    Order.IsStrict precedes (· ∈ clusters) := by
  have compared (first second : Cluster) : first.precedes second = true ↔
      toLex (OrderDual.toDual first.size, toLex (first.label, first.firstKey)) <
        toLex (OrderDual.toDual second.size, toLex (second.label, second.firstKey)) := by
    rw [precedes_iff, IsBefore, Prod.Lex.toLex_lt_toLex, Prod.Lex.toLex_lt_toLex]
    rfl
  refine .of_key (fun first second _ _ => compared first second)
    fun first second firstIn secondIn same => ?_
  have places := (Prod.mk.inj (toLex_inj.mp same)).2
  exact apart first firstIn second secondIn (Prod.mk.inj (toLex_inj.mp places)).2

end Cluster

namespace Snapshot

/-- The addresses of the entities in the source tree. -/
def sourceAddresses (snapshot : Snapshot) : List Address :=
  (snapshot.entities.rows.filter fun entity => !entity.isExternal).map Entity.address

/-- The cluster that modules make up. -/
def merged (snapshot : Snapshot) (part : List SourceModule) : Cluster :=
  let modules := Order.sort SourceModule.precedes part
  let members := orderAddresses (modules.flatMap snapshot.seedGroup)
  ⟨modules, members, (Clustering.internalArcs snapshot members).length⟩

/-- The modules with entities are listed in parts, and a part has all modules that are joined to one
of its modules by a chain. -/
structure AreComponents (snapshot : Snapshot) (threshold : Binary64)
    (parts : List (List SourceModule)) : Prop where
  some : [] ∉ parts
  distinct : parts.flatten.Nodup
  all : ∀ module, module ∈ parts.flatten ↔ snapshot.seedGroup module ≠ []
  exact : ∀ part ∈ parts, ∀ first ∈ part, ∀ second,
    second ∈ part ↔ ReflTransGen (snapshot.DenselyJoined threshold) first second

variable {snapshot : Snapshot} {address : Address} {module : SourceModule}

theorem mem_seedGroup : address ∈ snapshot.seedGroup module ↔
    ∃ entity ∈ snapshot.entities.rows, entity.isExternal = false ∧
      SourceModule.ofEntity entity = .ok module ∧ entity.address = address := by
  simp [seedGroup, and_assoc]

/-- No entity belongs to two modules. -/
theorem eq_of_mem_seedGroup {first second : SourceModule}
    (former : address ∈ snapshot.seedGroup first) (latter : address ∈ snapshot.seedGroup second) :
    first = second := by
  obtain ⟨left, leftIn, -, leftModule, leftHere⟩ := mem_seedGroup.mp former
  obtain ⟨right, rightIn, -, rightModule, rightHere⟩ := mem_seedGroup.mp latter
  have same := List.inj_on_of_nodup_map snapshot.increasing_addresses.nodup leftIn rightIn
    (leftHere.trans rightHere.symm)
  rw [same, rightModule] at leftModule
  exact (Except.ok.inj leftModule).symm

theorem mem_sourceAddresses (paths : snapshot.HasSourcePaths) :
    address ∈ snapshot.sourceAddresses ↔ ∃ module, address ∈ snapshot.seedGroup module := by
  simp only [mem_seedGroup, sourceAddresses, List.mem_map, List.mem_filter, Bool.not_eq_true']
  constructor
  · rintro ⟨entity, ⟨inside, internal⟩, here⟩
    obtain ⟨module, homed⟩ := SourceModule.exists_ofEntity_iff.mpr (paths entity inside internal)
    exact ⟨module, entity, inside, internal, homed, here⟩
  · rintro ⟨module, entity, inside, internal, -, here⟩
    exact ⟨entity, ⟨inside, internal⟩, here⟩

theorem mem_members_merged {part : List SourceModule} :
    address ∈ (snapshot.merged part).members ↔
      ∃ module ∈ part, address ∈ snapshot.seedGroup module := by
  unfold merged
  simp only [mem_orderAddresses, List.mem_flatMap, Order.mem_sort]

theorem nodup_members_merged (snapshot : Snapshot) (part : List SourceModule) :
    (snapshot.merged part).members.Nodup := (increasing_orderAddresses _).nodup

namespace AreComponents

variable {threshold : Binary64} {parts : List (List SourceModule)} {first second : SourceModule}

section Parts

variable (areComponents : AreComponents snapshot threshold parts)
include areComponents

/-- Parts with a common module are the same. -/
theorem eq_of_mem {left right : List SourceModule} (leftIn : left ∈ parts) (rightIn : right ∈ parts)
    (former : module ∈ left) (latter : module ∈ right) : left = right := by
  by_contra apart
  have disjoint := (List.nodup_flatten.mp areComponents.distinct).2
  have : Std.Symm (@List.Disjoint SourceModule) := ⟨fun _ _ => List.Disjoint.symm⟩
  exact disjoint.forall leftIn rightIn apart former latter

theorem exists_part (full : snapshot.seedGroup module ≠ []) : ∃ part ∈ parts, module ∈ part :=
  List.mem_flatten.mp ((areComponents.all module).mpr full)

/-- A part has a module with entities. -/
theorem exists_module {part : List SourceModule} (member : part ∈ parts) :
    ∃ module ∈ part, snapshot.seedGroup module ≠ [] := by
  have full : part ≠ [] := fun empty => areComponents.some (empty ▸ member)
  obtain ⟨module, inside⟩ := List.exists_mem_of_ne_nil _ full
  exact ⟨module, inside, (areComponents.all module).mp (List.mem_flatten.mpr ⟨_, member, inside⟩)⟩

/-- Two modules are in one part exactly if a chain joins them. -/
theorem exists_common_part_iff (full : snapshot.seedGroup first ≠ []) :
    (∃ part ∈ parts, first ∈ part ∧ second ∈ part) ↔
      ReflTransGen (snapshot.DenselyJoined threshold) first second := by
  constructor
  · rintro ⟨part, member, inside, other⟩
    exact (areComponents.exact part member first inside second).mp other
  · intro chained
    obtain ⟨part, member, inside⟩ := areComponents.exists_part full
    exact ⟨part, member, inside, (areComponents.exact part member first inside second).mpr chained⟩

/-- Parts with a common entity are the same. -/
theorem eq_of_mem_members {left right : List SourceModule} (leftIn : left ∈ parts)
    (rightIn : right ∈ parts) (former : address ∈ (snapshot.merged left).members)
    (latter : address ∈ (snapshot.merged right).members) : left = right := by
  obtain ⟨module, inside, here⟩ := mem_members_merged.mp former
  obtain ⟨other, otherInside, there⟩ := mem_members_merged.mp latter
  exact areComponents.eq_of_mem leftIn rightIn inside (eq_of_mem_seedGroup here there ▸ otherInside)

theorem exists_first {part : List SourceModule} (member : part ∈ parts) :
    ∃ address ∈ (snapshot.merged part).members,
      (snapshot.merged part).firstKey = address.text := by
  obtain ⟨module, inside, full⟩ := areComponents.exists_module member
  obtain ⟨address, here⟩ := List.exists_mem_of_ne_nil _ full
  have some := mem_members_merged.mpr ⟨module, inside, here⟩
  unfold Cluster.firstKey
  cases members : (snapshot.merged part).members with
  | nil =>
      rw [members] at some
      cases some
  | cons first rest => exact ⟨first, List.mem_cons_self, rfl⟩

/-- The first keys tell the clusters apart. -/
theorem eq_of_firstKey {left right : List SourceModule} (leftIn : left ∈ parts)
    (rightIn : right ∈ parts)
    (same : (snapshot.merged left).firstKey = (snapshot.merged right).firstKey) : left = right := by
  obtain ⟨former, formerIn, formerKey⟩ := areComponents.exists_first leftIn
  obtain ⟨latter, latterIn, latterKey⟩ := areComponents.exists_first rightIn
  rw [formerKey, latterKey] at same
  exact areComponents.eq_of_mem_members leftIn rightIn formerIn
    (Address.text_injective same ▸ latterIn)

theorem nodup_parts : parts.Nodup := by
  obtain ⟨-, disjoint⟩ := List.nodup_flatten.mp areComponents.distinct
  refine List.Pairwise.imp_of_mem (fun {left _} leftIn _ apart same => ?_) disjoint
  obtain ⟨module, inside, -⟩ := areComponents.exists_module leftIn
  exact apart inside (same ▸ inside)

theorem nodup_clusters : (parts.map snapshot.merged).Nodup :=
  areComponents.nodup_parts.map_on fun _ leftIn _ rightIn same =>
    areComponents.eq_of_firstKey leftIn rightIn (congrArg Cluster.firstKey same)

theorem clusters_strict : Order.IsStrict Cluster.precedes (· ∈ parts.map snapshot.merged) := by
  apply Cluster.precedes_strict
  intro first firstIn second secondIn same
  obtain ⟨left, leftIn, rfl⟩ := List.mem_map.mp firstIn
  obtain ⟨right, rightIn, rfl⟩ := List.mem_map.mp secondIn
  rw [areComponents.eq_of_firstKey leftIn rightIn same]

/-- Each entity of the source tree is in one cluster, and there are no others in the clusters. -/
theorem members_perm (paths : snapshot.HasSourcePaths) :
    ((parts.map snapshot.merged).flatMap Cluster.members).Perm snapshot.sourceAddresses := by
  rw [List.flatMap_map]
  have distinct : (parts.flatMap fun part => (snapshot.merged part).members).Nodup := by
    refine List.nodup_flatMap.mpr ⟨fun part _ => snapshot.nodup_members_merged part, ?_⟩
    refine areComponents.nodup_parts.imp_of_mem fun leftIn rightIn apart address former latter => ?_
    exact apart (areComponents.eq_of_mem_members leftIn rightIn former latter)
  have different : snapshot.sourceAddresses.Nodup :=
    snapshot.increasing_addresses.nodup.sublist (List.filter_sublist.map _)
  refine (List.perm_ext_iff_of_nodup distinct different).mpr fun address => ?_
  rw [List.mem_flatMap, mem_sourceAddresses paths]
  constructor
  · rintro ⟨part, -, member⟩
    obtain ⟨module, -, here⟩ := mem_members_merged.mp member
    exact ⟨module, here⟩
  · rintro ⟨module, here⟩
    obtain ⟨part, member, inside⟩ := areComponents.exists_part (List.ne_nil_of_mem here)
    exact ⟨part, member, mem_members_merged.mpr ⟨module, inside, here⟩⟩

/-- Entities share a cluster exactly if a chain joins their modules. -/
theorem exists_common_cluster_iff {left right : Address} (former : left ∈ snapshot.seedGroup first)
    (latter : right ∈ snapshot.seedGroup second) :
    (∃ cluster ∈ parts.map snapshot.merged, left ∈ cluster.members ∧ right ∈ cluster.members) ↔
      ReflTransGen (snapshot.DenselyJoined threshold) first second := by
  rw [← areComponents.exists_common_part_iff (List.ne_nil_of_mem former)]
  have within {address : Address} {module : SourceModule} {part : List SourceModule}
      (here : address ∈ snapshot.seedGroup module) :
      address ∈ (snapshot.merged part).members ↔ module ∈ part := by
    rw [mem_members_merged]
    constructor
    · rintro ⟨other, inside, there⟩
      exact eq_of_mem_seedGroup here there ▸ inside
    · exact fun inside => ⟨module, inside, here⟩
  simp only [List.mem_map, exists_exists_and_eq_and, within former, within latter]

end Parts

/-- A part is also one of any other list of the parts, with its modules in some order. -/
theorem mem_clusters_of_mem {others : List (List SourceModule)}
    (areComponents : AreComponents snapshot threshold parts)
    (areOthers : AreComponents snapshot threshold others) {cluster : Cluster}
    (member : cluster ∈ parts.map snapshot.merged) : cluster ∈ others.map snapshot.merged := by
  obtain ⟨part, partIn, rfl⟩ := List.mem_map.mp member
  obtain ⟨module, inside, full⟩ := areComponents.exists_module partIn
  obtain ⟨other, otherIn, otherInside⟩ := areOthers.exists_part full
  have same : Order.sort SourceModule.precedes other = Order.sort SourceModule.precedes part := by
    refine Order.sort_eq_of_mem_iff SourceModule.precedes_strict (fun _ _ => trivial)
      ((List.nodup_flatten.mp areOthers.distinct).1 other otherIn)
      ((List.nodup_flatten.mp areComponents.distinct).1 part partIn) fun second => ?_
    rw [areOthers.exact other otherIn module otherInside,
      areComponents.exact part partIn module inside]
  refine List.mem_map.mpr ⟨other, otherIn, ?_⟩
  unfold merged
  rw [same]

/-- The order in which the parts are listed does not show in the clusters. -/
theorem sort_clusters_eq {others : List (List SourceModule)}
    (areComponents : AreComponents snapshot threshold parts)
    (areOthers : AreComponents snapshot threshold others) :
    Order.sort Cluster.precedes (parts.map snapshot.merged) =
      Order.sort Cluster.precedes (others.map snapshot.merged) :=
  Order.sort_eq_of_mem_iff areComponents.clusters_strict (fun _ member => member)
    areComponents.nodup_clusters areOthers.nodup_clusters fun _ =>
      ⟨areComponents.mem_clusters_of_mem areOthers, areOthers.mem_clusters_of_mem areComponents⟩

/-- A lower threshold keeps the entities of a cluster together. -/
theorem exists_cluster_of_le {lower : Binary64} {others : List (List SourceModule)}
    (areComponents : AreComponents snapshot threshold parts)
    (areOthers : AreComponents snapshot lower others) (smaller : lower.le threshold = true)
    {cluster : Cluster} (member : cluster ∈ parts.map snapshot.merged) :
    ∃ other ∈ others.map snapshot.merged, cluster.members ⊆ other.members := by
  obtain ⟨part, partIn, rfl⟩ := List.mem_map.mp member
  obtain ⟨module, inside, full⟩ := areComponents.exists_module partIn
  obtain ⟨other, otherIn, otherInside⟩ := areOthers.exists_part full
  refine ⟨_, List.mem_map_of_mem otherIn, fun address within => ?_⟩
  obtain ⟨second, secondInside, here⟩ := mem_members_merged.mp within
  have chained := (areComponents.exact part partIn module inside second).mp secondInside
  have looser : ReflTransGen (snapshot.DenselyJoined lower) module second :=
    ReflTransGen.mono (fun _ _ joined => ⟨joined.1, Binary64.le_trans smaller joined.2⟩) _ _ chained
  exact mem_members_merged.mpr
    ⟨second, (areOthers.exact other otherIn module otherInside second).mpr looser, here⟩

end AreComponents

end Snapshot

end CodeGraph

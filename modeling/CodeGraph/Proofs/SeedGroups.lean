import CodeGraph.Proofs.ClusterPartition
import CodeGraph.Proofs.RoundedOrder

/-!
This file says which entities a module groups together before any modules are merged, and how dense
two modules are joined. The pairs that are counted are those of an entity of either module with an
edge between them, whatever its direction.
-/

namespace CodeGraph

open Relation

namespace Snapshot

/-- The entities of the source tree that belong to a module, in the order of their keys. -/
def seedGroup (snapshot : Snapshot) (module : SourceModule) : List Address :=
  (snapshot.entities.rows.filter fun entity =>
    !entity.isExternal && decide (SourceModule.ofEntity entity = .ok module)).map Entity.address

/-- The pairs of an entity of the first module and one of the second that an edge joins. -/
def joinedPairs (snapshot : Snapshot) (first second : SourceModule) : List (Address × Address) :=
  (snapshot.seedGroup first ×ˢ snapshot.seedGroup second).filter fun pair =>
    decide (snapshot.Adjoins pair.1 pair.2)

/-- The share of joined pairs among all pairs of an entity of either module. -/
def mutualDensity (snapshot : Snapshot) (first second : SourceModule) : Binary64 :=
  Density.quotient (snapshot.joinedPairs first second).length (snapshot.seedGroup first).length
    (snapshot.seedGroup second).length

variable {snapshot : Snapshot} {first second : SourceModule}

theorem nodup_seedGroup (snapshot : Snapshot) (module : SourceModule) :
    (snapshot.seedGroup module).Nodup :=
  snapshot.increasing_addresses.nodup.sublist (List.filter_sublist.map _)

theorem mem_joinedPairs {pair : Address × Address} :
    pair ∈ snapshot.joinedPairs first second ↔ pair.1 ∈ snapshot.seedGroup first ∧
      pair.2 ∈ snapshot.seedGroup second ∧ snapshot.Adjoins pair.1 pair.2 := by
  rw [joinedPairs, List.mem_filter, List.mem_product, decide_eq_true_eq, and_assoc]

theorem nodup_joinedPairs (snapshot : Snapshot) (first second : SourceModule) :
    (snapshot.joinedPairs first second).Nodup :=
  ((snapshot.nodup_seedGroup first).product (snapshot.nodup_seedGroup second)).filter _

/-- A module without entities has no density. -/
theorem mutualDensity_of_empty (empty : snapshot.seedGroup first = [] ∨
    snapshot.seedGroup second = []) : snapshot.mutualDensity first second = Binary64.zero := by
  unfold mutualDensity Density.quotient
  rcases empty with empty | empty <;> simp [empty]

/-- Two different modules are joined at least as densely as the threshold says. -/
def DenselyJoined (snapshot : Snapshot) (threshold : Binary64) (first second : SourceModule) :
    Prop :=
  first ≠ second ∧ threshold.le (snapshot.mutualDensity first second) = true

/-- The path of each entity in the source tree is a text. -/
def HasSourcePaths (snapshot : Snapshot) : Prop :=
  ∀ entity ∈ snapshot.entities.rows, entity.isExternal = false →
    ∃ path, entity.filePath = .text path

end Snapshot

namespace Homes

variable {homes : Homes} {address : Address} {module : SourceModule}

/-- The members of a module are its entities. -/
theorem members_ofSnapshot {snapshot : Snapshot} (found : ofSnapshot snapshot = .ok homes)
    (module : SourceModule) : homes.members module = snapshot.seedGroup module := by
  rw [members, ((ofEntities_eq_ok_iff.mp found).ofModule module).addresses, List.filter_filter]
  simp only [Snapshot.seedGroup, Bool.and_comm]

/-- Where each address has one home, it is the one that is found. -/
theorem find?_eq_some_iff (distinct : (homes.map Prod.fst).Nodup) :
    homes.find? address = some module ↔ (address, module) ∈ homes := by
  unfold find?
  rw [Option.map_eq_some_iff]
  constructor
  · rintro ⟨home, found, rfl⟩
    have here : home.1 = address := by simpa using List.find?_some found
    exact here ▸ List.mem_of_find?_eq_some found
  · intro member
    have present : (List.find? (fun home => decide (home.1 = address)) homes).isSome = true :=
      List.find?_isSome.mpr ⟨_, member, by simp⟩
    obtain ⟨home, found⟩ := Option.isSome_iff_exists.mp present
    have here : home.1 = address := by simpa using List.find?_some found
    have same := List.inj_on_of_nodup_map distinct (List.mem_of_find?_eq_some found) member here
    exact ⟨home, found, congrArg Prod.snd same⟩

theorem mem_modules_iff : module ∈ homes.modules ↔ homes.members module ≠ [] := by
  simp [modules, members, Order.mem_distinct, List.filter_eq_nil_iff]

end Homes

namespace Clustering

variable {snapshot : Snapshot} {homes : Homes} {first second : SourceModule}

/-- A span is an edge between two homes. -/
theorem span?_eq_some_iff (distinct : (homes.map Prod.fst).Nodup) {edge : Edge} {span : Span} :
    span? homes edge = some span ↔ span.source ∈ homes ∧ span.target ∈ homes ∧
      edge.source = span.source.1 ∧ edge.target = span.target.1 := by
  obtain ⟨⟨source, sourceModule⟩, ⟨target, targetModule⟩⟩ := span
  rw [← Homes.find?_eq_some_iff distinct, ← Homes.find?_eq_some_iff distinct]
  unfold span?
  constructor
  · intro made
    split at made
    · rename_i sourceFound targetFound
      cases made
      exact ⟨sourceFound, targetFound, rfl, rfl⟩
    · cases made
  · rintro ⟨sourceFound, targetFound, rfl, rfl⟩
    rw [sourceFound, targetFound]

/-- A span crosses from one module to another if its ends belong to them in either order. -/
theorem crossing?_eq_some_iff (apart : first ≠ second) {span : Span} {pair : Address × Address} :
    crossing? first second span = some pair ↔
      span.source = (pair.1, first) ∧ span.target = (pair.2, second) ∨
        span.source = (pair.2, second) ∧ span.target = (pair.1, first) := by
  obtain ⟨⟨source, sourceModule⟩, ⟨target, targetModule⟩⟩ := span
  unfold crossing?
  grind

/-- The pairs that are counted for two modules are those that an edge joins. -/
theorem mem_crossPairs (distinct : (homes.map Prod.fst).Nodup) (apart : first ≠ second)
    {pair : Address × Address} :
    pair ∈ crossPairs (snapshot.edges.filterMap (span? homes)) first second ↔
      pair.1 ∈ homes.members first ∧ pair.2 ∈ homes.members second ∧
        snapshot.Adjoins pair.1 pair.2 := by
  rw [crossPairs, Order.mem_distinct, Homes.mem_members, Homes.mem_members]
  simp only [List.mem_filterMap, crossing?_eq_some_iff apart, span?_eq_some_iff distinct]
  constructor
  · rintro ⟨span, ⟨edge, inside, sourceHome, targetHome, source, target⟩, crossed⟩
    rcases crossed with ⟨fromFirst, toSecond⟩ | ⟨fromSecond, toFirst⟩
    · rw [fromFirst] at sourceHome source
      rw [toSecond] at targetHome target
      exact ⟨sourceHome, targetHome, .inl ⟨edge, inside, source, target⟩⟩
    · rw [fromSecond] at sourceHome source
      rw [toFirst] at targetHome target
      exact ⟨targetHome, sourceHome, .inr ⟨edge, inside, source, target⟩⟩
  · rintro ⟨firstHome, secondHome, ⟨edge, inside, source, target⟩ | ⟨edge, inside, source, target⟩⟩
    · exact ⟨⟨_, _⟩, ⟨edge, inside, firstHome, secondHome, source, target⟩, .inl ⟨rfl, rfl⟩⟩
    · exact ⟨⟨_, _⟩, ⟨edge, inside, secondHome, firstHome, source, target⟩, .inr ⟨rfl, rfl⟩⟩

/-- The counted pairs are the joined ones. -/
theorem crossPairs_perm (found : Homes.ofSnapshot snapshot = .ok homes) (apart : first ≠ second) :
    (crossPairs (snapshot.edges.filterMap (span? homes)) first second).Perm
      (snapshot.joinedPairs first second) := by
  have counted : (crossPairs (snapshot.edges.filterMap (span? homes)) first second).Nodup :=
    Order.nodup_distinct _
  refine (List.perm_ext_iff_of_nodup counted
    (snapshot.nodup_joinedPairs first second)).mpr fun pair => ?_
  rw [mem_crossPairs (Snapshot.nodup_homes found) apart, Homes.members_ofSnapshot found,
    Homes.members_ofSnapshot found, Snapshot.mem_joinedPairs]

/-- The density between two modules is the share of joined pairs. -/
theorem density_eq_mutualDensity (found : Homes.ofSnapshot snapshot = .ok homes)
    (apart : first ≠ second) :
    density homes (snapshot.edges.filterMap (span? homes)) first second =
      snapshot.mutualDensity first second := by
  unfold density Snapshot.mutualDensity
  rw [(crossPairs_perm found apart).length_eq, Homes.members_ofSnapshot found,
    Homes.members_ofSnapshot found]

/-- Modules are linked exactly if they are joined densely. -/
theorem mem_links_iff_denselyJoined (found : Homes.ofSnapshot snapshot = .ok homes)
    {threshold : Threshold} (positive : Binary64.zero.lt threshold.number = true) :
    (first, second) ∈ links homes (snapshot.edges.filterMap (span? homes)) threshold ↔
      snapshot.DenselyJoined threshold.number first second := by
  rw [mem_links, Snapshot.DenselyJoined]
  constructor
  · rintro ⟨-, -, apart, dense⟩
    exact ⟨apart, density_eq_mutualDensity found apart ▸ dense⟩
  · rintro ⟨apart, dense⟩
    -- A positive threshold is out of reach for modules without entities, so both are in the list.
    have present (module : SourceModule) (full : snapshot.seedGroup module ≠ []) :
        module ∈ homes.modules := by
      rw [← Homes.members_ofSnapshot found] at full
      exact Homes.mem_modules_iff.mpr full
    have full : snapshot.seedGroup first ≠ [] ∧ snapshot.seedGroup second ≠ [] := by
      rw [← not_or]
      intro empty
      rw [Snapshot.mutualDensity_of_empty empty] at dense
      rw [Binary64.lt_eq_false_of_le dense] at positive
      cases positive
    refine ⟨present first full.1, present second full.2, apart, ?_⟩
    rw [density_eq_mutualDensity found apart]
    exact dense

/-- A chain of links is a chain of modules that are joined densely. -/
theorem chained_iff (found : Homes.ofSnapshot snapshot = .ok homes) {threshold : Threshold}
    (positive : Binary64.zero.lt threshold.number = true) :
    Chained (links homes (snapshot.edges.filterMap (span? homes)) threshold) first second ↔
      ReflTransGen (snapshot.DenselyJoined threshold.number) first second := by
  unfold Chained
  simp only [mem_links_iff_denselyJoined found positive]

end Clustering

end CodeGraph

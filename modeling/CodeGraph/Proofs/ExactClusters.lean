import CodeGraph.Proofs.BlastDistance
import CodeGraph.Proofs.ConnectedModules

/-!
This file says that the clusters of a snapshot are the modules that chains of dense joins connect,
at every threshold and on every snapshot whose entities in the source tree have texts for paths.
-/

namespace CodeGraph

open Relation

namespace Threshold

/-- The value is a number above zero and of at most one. -/
inductive IsShare : Value → Binary64 → Prop
  | whole {value : Int} (positive : 0 < value) (atMost : value ≤ 1) :
      IsShare (.int value) (Binary64.ofInt value)
  | part {value : Binary64} (positive : Binary64.zero.lt value = true)
      (atMost : value.le (Binary64.ofInt 1) = true) : IsShare (.float value) value

variable {given : Value} {number : Binary64}

/-- Every such value is accepted as a threshold. -/
theorem IsShare.accepted (isShare : IsShare given number) :
    ofValue? given = some ⟨given, number⟩ := by
  cases isShare with
  | @whole value positive atMost =>
      obtain rfl : value = 1 := by omega
      rfl
  | part positive atMost => simp [ofValue?, positive, atMost]

theorem IsShare.positive (isShare : IsShare given number) :
    Binary64.zero.lt number = true := by
  cases isShare with
  | @whole value positive atMost =>
      obtain rfl : value = 1 := by omega
      decide +kernel
  | part positive _ => exact positive

end Threshold

namespace Clustering

variable {snapshot : Snapshot} {homes : Homes}

/-- The components that are found are all of the modules with entities. -/
theorem components_areComponents (found : Homes.ofSnapshot snapshot = .ok homes)
    {threshold : Threshold} (positive : Binary64.zero.lt threshold.number = true) :
    snapshot.AreComponents threshold.number
      (components homes (links homes (snapshot.edges.filterMap (span? homes)) threshold)) := by
  have areLinks := links_areLinks homes (snapshot.edges.filterMap (span? homes)) threshold
  have spread := flatten_components_perm areLinks
  exact {
    some := fun empty => by
      obtain ⟨module, inside, none⟩ := mem_components.mp empty
      have own := (areLinks.mem_component inside).mpr .refl
      rw [none] at own
      cases own
    distinct := spread.nodup_iff.mpr (Order.nodup_distinct _)
    all := fun module => by
      rw [spread.mem_iff, Homes.mem_modules_iff, Homes.members_ofSnapshot found]
    exact := fun part member first inside second => by
      obtain ⟨module, moduleIn, rfl⟩ := mem_components.mp member
      have own := (areLinks.mem_component moduleIn).mp inside
      rw [areLinks.mem_component moduleIn, ← chained_iff found positive]
      exact ⟨(areLinks.chained_symm own).trans, own.trans⟩ }

/-- A component is described as the cluster of its modules. -/
theorem describe_component (found : Homes.ofSnapshot snapshot = .ok homes)
    {threshold : Threshold} {part : List SourceModule}
    (member : part ∈ components homes
      (links homes (snapshot.edges.filterMap (span? homes)) threshold)) :
    describe snapshot homes part = snapshot.merged part := by
  obtain ⟨module, inside, rfl⟩ := mem_components.mp member
  have areLinks := links_areLinks homes (snapshot.edges.filterMap (span? homes)) threshold
  have sorted : Order.sort SourceModule.precedes (component _ homes.modules.length module) =
      component _ homes.modules.length module :=
    Order.sort_of_increasing SourceModule.precedes_strict (fun _ _ => trivial)
      (Order.sort_increasing SourceModule.precedes_strict (fun _ _ => trivial)
        (areLinks.nodup_unsorted inside))
  have groups : homes.members = snapshot.seedGroup :=
    funext (Homes.members_ofSnapshot found)
  unfold describe Snapshot.merged
  rw [sorted, groups]

/-- The clusters are those of the components, in order. -/
theorem clusters_ofHomes (found : Homes.ofSnapshot snapshot = .ok homes) (threshold : Threshold) :
    (ofHomes snapshot homes threshold).clusters = Order.sort Cluster.precedes
      ((components homes (links homes (snapshot.edges.filterMap (span? homes)) threshold)).map
        snapshot.merged) :=
  congrArg (Order.sort Cluster.precedes) (List.map_congr_left fun _ => describe_component found)

theorem numbered_eq_map (number : Nat) (clusters : List Cluster) :
    numbered number clusters =
      (clusters.zipIdx number).map fun entry => entry.1.toValue entry.2 :=
  Order.eq_map_zipIdx (fun _ => rfl) (fun _ _ _ => rfl) number clusters

/-- The clusters are a partition of the source tree, and two entities are in one of them exactly if
a chain of dense joins leads from the module of the first to that of the second. The clusters are
ordered and numbered, and the order in which the modules that belong together are listed does not
show in them. -/
structure IsPartition (snapshot : Snapshot) (threshold : Binary64) (clustering : Clustering) :
    Prop where
  seeded : ∀ address ∈ snapshot.sourceAddresses, ∃! module, address ∈ snapshot.seedGroup module
  members : (clustering.clusters.flatMap Cluster.members).Perm snapshot.sourceAddresses
  outside : ∀ cluster ∈ clustering.clusters, ∀ address ∈ cluster.members,
    address.isExternal = false
  counted : (clustering.clusters.map Cluster.size).sum + clustering.external =
    snapshot.entityCount
  together : ∀ first second left right, left ∈ snapshot.seedGroup first →
    right ∈ snapshot.seedGroup second →
    ((∃ cluster ∈ clustering.clusters, left ∈ cluster.members ∧ right ∈ cluster.members) ↔
      ReflTransGen (snapshot.DenselyJoined threshold) first second)
  ordered : clustering.clusters.Pairwise Cluster.IsBefore
  listable : ∃ parts, snapshot.AreComponents threshold parts
  anyOrder : ∀ parts, snapshot.AreComponents threshold parts →
    clustering.clusters = Order.sort Cluster.precedes (parts.map snapshot.merged)
  shown : clustering.toValue.field? "external_entity_count" = some (.int clustering.external) ∧
    clustering.toValue.field? "clusters" = some (.list ((clustering.clusters.zipIdx 1).map
      fun entry => entry.1.toValue entry.2))
  identified : ∀ number, ∀ cluster ∈ clustering.clusters,
    (cluster.toValue number).field? "cluster_id" =
        some (.text ("cluster-" ++ Decimal.naturalText number)) ∧
      (cluster.toValue number).field? "size" = some (.int cluster.members.length) ∧
      (cluster.toValue number).field? "entities" =
        some (.list (cluster.members.map fun address => .text address.text))

theorem ofHomes_isPartition (found : Homes.ofSnapshot snapshot = .ok homes)
    {threshold : Threshold} (positive : Binary64.zero.lt threshold.number = true) :
    IsPartition snapshot threshold.number (ofHomes snapshot homes threshold) := by
  have areComponents := components_areComponents found positive
  have paths := Homes.exists_ofEntities_iff.mp ⟨homes, found⟩
  have sorted := Order.sort_perm Cluster.precedes
    ((components homes (links homes (snapshot.edges.filterMap (span? homes)) threshold)).map
      snapshot.merged)
  rw [← clusters_ofHomes found] at sorted
  have members := (sorted.flatMap_right Cluster.members).trans (areComponents.members_perm paths)
  obtain ⟨external, counted⟩ := Snapshot.clusters_exact found threshold
  exact {
    seeded := fun address inside => by
      obtain ⟨module, here⟩ := (Snapshot.mem_sourceAddresses paths).mp inside
      exact ⟨module, here, fun _ there => Snapshot.eq_of_mem_seedGroup there here⟩
    members := members
    outside := fun cluster clusterIn address here => by
      have inside := members.mem_iff.mp (List.mem_flatMap.mpr ⟨cluster, clusterIn, here⟩)
      obtain ⟨entity, internal, rfl⟩ := List.mem_map.mp inside
      simpa [Entity.isExternal] using (List.mem_filter.mp internal).2
    counted := by rw [external, counted]
    together := fun first second left right former latter => by
      simp only [sorted.mem_iff]
      exact areComponents.exists_common_cluster_iff former latter
    ordered := by
      rw [clusters_ofHomes found]
      exact (Order.sort_increasing areComponents.clusters_strict (fun _ member => member)
        areComponents.nodup_clusters).imp Cluster.precedes_iff.mp
    listable := ⟨_, areComponents⟩
    anyOrder := fun parts areParts => by
      rw [clusters_ofHomes found]
      exact areComponents.sort_clusters_eq areParts
    shown := ⟨rfl, congrArg (fun values => some (Value.list values)) (numbered_eq_map 1 _)⟩
    identified := fun _ _ _ => ⟨rfl, rfl, rfl⟩ }

theorem ofRequest_eq_ok_iff {given : Value} {number : Binary64}
    (isShare : Threshold.IsShare given number) {clustering : Clustering} :
    ofRequest snapshot given = .ok clustering ↔
      ∃ homes, Homes.ofSnapshot snapshot = .ok homes ∧
        ofHomes snapshot homes ⟨given, number⟩ = clustering := by
  rw [ofRequest, isShare.accepted]
  exact Outcome.map_ok_iff

/-- A cluster lies within one of a lower threshold. -/
theorem exists_wider_cluster {first second : Threshold} {others : Homes}
    (found : Homes.ofSnapshot snapshot = .ok homes)
    (othersFound : Homes.ofSnapshot snapshot = .ok others)
    (firstPositive : Binary64.zero.lt first.number = true)
    (secondPositive : Binary64.zero.lt second.number = true)
    (smaller : second.number.le first.number = true) {cluster : Cluster}
    (member : cluster ∈ (ofHomes snapshot homes first).clusters) :
    ∃ other ∈ (ofHomes snapshot others second).clusters, cluster.members ⊆ other.members := by
  rw [clusters_ofHomes found, Order.mem_sort] at member
  simp only [clusters_ofHomes othersFound, Order.mem_sort]
  exact (components_areComponents found firstPositive).exists_cluster_of_le
    (components_areComponents othersFound secondPositive) smaller member

/-- The source tree is partitioned into clusters at every threshold above zero and up to one, where
its paths are texts, and each cluster lies within a cluster of a lower threshold. -/
theorem ofRequest_isPartition {given : Value} {number : Binary64}
    (isShare : Threshold.IsShare given number) (snapshot : Snapshot) :
    ((∃ clustering, ofRequest snapshot given = .ok clustering) ↔ snapshot.HasSourcePaths) ∧
      ∀ clustering, ofRequest snapshot given = .ok clustering →
        IsPartition snapshot number clustering ∧
          ∀ lower lesser wider, Threshold.IsShare lower lesser → lesser.le number = true →
            ofRequest snapshot lower = .ok wider → ∀ cluster ∈ clustering.clusters,
              ∃ other ∈ wider.clusters, cluster.members ⊆ other.members := by
  simp only [ofRequest_eq_ok_iff isShare]
  constructor
  · rw [Snapshot.HasSourcePaths, ← Homes.exists_ofEntities_iff]
    simp [Homes.ofSnapshot]
  · rintro clustering ⟨homes, found, rfl⟩
    refine ⟨@ofHomes_isPartition _ _ found ⟨given, number⟩ isShare.positive, ?_⟩
    intro lower lesser wider isLower smaller answered cluster member
    obtain ⟨others, othersFound, rfl⟩ := (ofRequest_eq_ok_iff isLower).mp answered
    exact exists_wider_cluster found othersFound isShare.positive isLower.positive smaller member

/-- A function of the first directory. -/
def fetch : Entity where
  address := ⟨.python, .function, "fetch",
    .source ⟨"a_x.py", 3, 19, by decide, by decide, by decide, by decide⟩, by decide⟩
  filePath := .text "a/x.py"
  metadata := Metadata.empty

/-- Two functions of the second directory. -/
def parse : Entity where
  address := ⟨.python, .function, "parse",
    .source ⟨"b_y.py", 2, 11, by decide, by decide, by decide, by decide⟩, by decide⟩
  filePath := .text "b/y.py"
  metadata := Metadata.empty

def store : Entity where
  address := ⟨.python, .function, "store",
    .source ⟨"b_y.py", 14, 30, by decide, by decide, by decide, by decide⟩, by decide⟩
  filePath := .text "b/y.py"
  metadata := Metadata.empty

/-- One of the two functions in the second directory calls the one in the first and the other way
round, so half of the pairs are joined. -/
def directories : Snapshot where
  entities := Table.ofList [fetch, parse, store, Entity.sentinel BlastRadius.loader]
  edges := [⟨fetch.address, parse.address, .text Edge.defaultRelation⟩,
    ⟨fetch.address, BlastRadius.loader, .text Edge.defaultRelation⟩,
    ⟨parse.address, fetch.address, .text Edge.defaultRelation⟩]
  changeSets := Table.empty
  id := ""
  createdAt := .null
  generation := 1
  endpointsPresent := by decide +kernel

/-- At the largest threshold the directories stay apart, and at the usual one they are merged. -/
theorem ofRequest_isPartition_directories : ∃ clustering wider,
    ofRequest directories (.int 1) = .ok clustering ∧
      ofRequest directories Threshold.defaultValue = .ok wider ∧
      IsPartition directories (Binary64.ofInt 1) clustering ∧
      (∀ cluster ∈ clustering.clusters,
        ∃ other ∈ wider.clusters, cluster.members ⊆ other.members) ∧
      clustering.clusters.map Cluster.members =
        [[parse.address, store.address], [fetch.address]] ∧
      wider.clusters.map Cluster.members =
        [[fetch.address, parse.address, store.address]] := by
  have apart : (ofRequest directories (.int 1)).toOption.any (fun clustering =>
      decide (clustering.clusters.map Cluster.members =
        [[parse.address, store.address], [fetch.address]])) = true := by decide +kernel
  have joined : (ofRequest directories Threshold.defaultValue).toOption.any (fun wider =>
      decide (wider.clusters.map Cluster.members =
        [[fetch.address, parse.address, store.address]])) = true := by decide +kernel
  obtain ⟨clustering, answered, separate⟩ := Outcome.exists_of_any apart
  obtain ⟨wider, answeredWider, together⟩ := Outcome.exists_of_any joined
  have whole : Threshold.IsShare (.int 1) (Binary64.ofInt 1) := .whole (by decide) (by decide)
  have usual : Threshold.IsShare Threshold.defaultValue (Binary64.ofQuotient false 2 10) :=
    .part (by decide +kernel) (by decide +kernel)
  obtain ⟨partition, within⟩ := (ofRequest_isPartition whole directories).2 clustering answered
  exact ⟨clustering, wider, answered, answeredWider, partition,
    within _ _ wider usual (by decide +kernel) answeredWider,
    of_decide_eq_true separate, of_decide_eq_true together⟩

end Clustering

end CodeGraph

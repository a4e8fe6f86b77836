import CodeGraph.Proofs.ExactClusters
import Mathlib.Data.List.OffDiag

/-!
This file says that clustering counts pairs of entities, each once, however many edges join them and
whatever their directions and relations. So no density and no cohesion is above one.
-/

namespace CodeGraph

namespace Clustering

variable {snapshot : Snapshot} {homes : Homes} {first second : SourceModule}

/-- The number of pairs that are counted between two modules. -/
def crossCount (snapshot : Snapshot) (homes : Homes) (first second : SourceModule) : Nat :=
  (crossPairs (snapshot.edges.filterMap (span? homes)) first second).length

/-- The number of counted pairs is that of the pairs of an entity of the first module and one of the
second with an edge between them, and the density of the modules is the share of these pairs. -/
structure IsExactCount (snapshot : Snapshot) (homes : Homes) (first second : SourceModule) :
    Prop where
  counted : crossCount snapshot homes first second =
    ((snapshot.seedGroup first ×ˢ snapshot.seedGroup second).filter fun pair =>
      decide (snapshot.Adjoins pair.1 pair.2)).length
  bounded : crossCount snapshot homes first second ≤
    (snapshot.seedGroup first).length * (snapshot.seedGroup second).length
  full : crossCount snapshot homes first second =
      (snapshot.seedGroup first).length * (snapshot.seedGroup second).length ↔
    ∀ left ∈ snapshot.seedGroup first, ∀ right ∈ snapshot.seedGroup second,
      snapshot.Adjoins left right
  used : density homes (snapshot.edges.filterMap (span? homes)) first second =
    Density.quotient (crossCount snapshot homes first second)
      (snapshot.seedGroup first).length (snapshot.seedGroup second).length
  share : (density homes (snapshot.edges.filterMap (span? homes)) first second).le
    (Binary64.ofInt 1) = true

theorem quotient_le_one {pairs firstSize secondSize : Nat}
    (bounded : pairs ≤ firstSize * secondSize) :
    (Density.quotient pairs firstSize secondSize).le (Binary64.ofInt 1) = true := by
  unfold Density.quotient
  dsimp only
  split
  · decide +kernel
  · rename_i some
    have positive : 0 < firstSize * secondSize := by
      apply Nat.pos_of_ne_zero
      exact_mod_cast some
    have notNegative : ¬ (pairs : Int) < 0 := by omega
    have possible : ¬ (firstSize : Int) * secondSize < 0 := by
      rw [← Int.natCast_mul]
      omega
    rw [decide_eq_false notNegative, decide_eq_false possible, ← Int.natCast_mul,
      Int.natAbs_natCast, Int.natAbs_natCast]
    exact Binary64.ofQuotient_le_one bounded positive

theorem isExactCount (found : Homes.ofSnapshot snapshot = .ok homes) (apart : first ≠ second) :
    IsExactCount snapshot homes first second := by
  have counted : crossCount snapshot homes first second =
      (snapshot.joinedPairs first second).length := (crossPairs_perm found apart).length_eq
  have pairs : (snapshot.seedGroup first ×ˢ snapshot.seedGroup second).length =
      (snapshot.seedGroup first).length * (snapshot.seedGroup second).length :=
    List.length_product _ _
  have bounded : crossCount snapshot homes first second ≤
      (snapshot.seedGroup first).length * (snapshot.seedGroup second).length := by
    rw [counted, ← pairs]
    exact List.length_filter_le _ _
  have used : density homes (snapshot.edges.filterMap (span? homes)) first second =
      Density.quotient (crossCount snapshot homes first second)
        (snapshot.seedGroup first).length (snapshot.seedGroup second).length := by
    rw [← Homes.members_ofSnapshot found, ← Homes.members_ofSnapshot found]
    rfl
  exact {
    counted := counted
    bounded := bounded
    full := by
      rw [counted, ← pairs, Snapshot.joinedPairs, List.length_filter_eq_length_iff]
      simp only [decide_eq_true_eq, Prod.forall]
      constructor
      · intro all left leftIn right rightIn
        exact all left right (List.mem_product.mpr ⟨leftIn, rightIn⟩)
      · intro all left right member
        obtain ⟨leftIn, rightIn⟩ := List.mem_product.mp member
        exact all left leftIn right rightIn
    used := used
    share := by
      rw [used]
      exact quotient_le_one bounded }

end Clustering

namespace Cluster

/-- The internal edges of a cluster are the ordered pairs of different members with an edge from the
first to the second. -/
structure HasExactEdges (snapshot : Snapshot) (cluster : Cluster) : Prop where
  distinct : cluster.members.Nodup
  counted : cluster.internalEdges =
    ((cluster.members ×ˢ cluster.members).filter fun pair =>
      decide (pair.1 ≠ pair.2 ∧ snapshot.Joins pair.1 pair.2)).length
  bounded : cluster.internalEdges ≤ cluster.size * (cluster.size - 1)
  share : cluster.cohesion.le (Binary64.ofInt 1) = true
  shown : ∀ number, (cluster.toValue number).field? "size" = some (.int cluster.size) ∧
    (cluster.toValue number).field? "internal_edges" = some (.int cluster.internalEdges) ∧
    (cluster.toValue number).field? "cohesion" = some (.float cluster.cohesion)

theorem cohesion_le_one {cluster : Cluster}
    (bounded : cluster.internalEdges ≤ cluster.size * (cluster.size - 1)) :
    cluster.cohesion.le (Binary64.ofInt 1) = true := by
  unfold cohesion
  dsimp only
  split
  · decide +kernel
  · rename_i some
    have share := Binary64.ofQuotient_le_one bounded (Nat.pos_of_ne_zero some)
    have one : (Binary64.ofInt 1).roundPlaces cohesionPlaces = Binary64.ofInt 1 := by
      decide +kernel
    rw [← one]
    exact Binary64.roundPlaces_le cohesionPlaces share

end Cluster

namespace Clustering

variable {snapshot : Snapshot}

/-- An arc joins two addresses if some edge does. -/
theorem mem_internalArcs {members : List Address} {pair : Address × Address} :
    pair ∈ internalArcs snapshot members ↔
      pair.1 ∈ members ∧ pair.2 ∈ members ∧ pair.1 ≠ pair.2 ∧
        snapshot.Joins pair.1 pair.2 := by
  obtain ⟨source, target⟩ := pair
  simp only [internalArcs, Snapshot.arcs, List.mem_filter, Order.mem_distinct, List.mem_map,
    Prod.mk.injEq, Bool.and_eq_true, Bool.not_eq_true', decide_eq_false_iff_not,
    List.contains_iff_mem, Snapshot.Joins]
  tauto

/-- The counted arcs are the pairs of different members that an edge joins. -/
theorem internalArcs_perm {members : List Address} (distinct : members.Nodup) :
    (internalArcs snapshot members).Perm
      ((members ×ˢ members).filter fun pair =>
        decide (pair.1 ≠ pair.2 ∧ snapshot.Joins pair.1 pair.2)) := by
  have once : (internalArcs snapshot members).Nodup := (Order.nodup_distinct _).filter _
  refine (List.perm_ext_iff_of_nodup once ((distinct.product distinct).filter _)).mpr ?_
  intro pair
  rw [mem_internalArcs, List.mem_filter, List.mem_product, decide_eq_true_eq, and_assoc]

theorem length_internalArcs_le {members : List Address} (distinct : members.Nodup) :
    (internalArcs snapshot members).length ≤ members.length * (members.length - 1) := by
  have once : (internalArcs snapshot members).Nodup := (Order.nodup_distinct _).filter _
  have inside : internalArcs snapshot members ⊆ members.offDiag := by
    intro pair member
    obtain ⟨left, right, apart, -⟩ := mem_internalArcs.mp member
    exact distinct.mem_offDiag.mpr ⟨left, right, apart⟩
  rw [← List.length_offDiag']
  exact (once.subperm inside).length_le

theorem describe_hasExactEdges (snapshot : Snapshot) (homes : Homes)
    (modules : List SourceModule) : (describe snapshot homes modules).HasExactEdges snapshot := by
  have distinct : (describe snapshot homes modules).members.Nodup :=
    (Snapshot.increasing_orderAddresses _).nodup
  have bounded := @length_internalArcs_le snapshot _ distinct
  exact {
    distinct := distinct
    counted := (internalArcs_perm distinct).length_eq
    bounded := bounded
    share := Cluster.cohesion_le_one bounded
    shown := fun _ => ⟨rfl, rfl, rfl⟩ }

/-- Where the paths of the source tree are texts, the pairs between each two of its modules are
counted exactly, and so are the internal edges of each cluster at every threshold. -/
theorem counts_exact (snapshot : Snapshot) :
    ((∃ homes, Homes.ofSnapshot snapshot = .ok homes) ↔ snapshot.HasSourcePaths) ∧
      ∀ homes, Homes.ofSnapshot snapshot = .ok homes →
        (∀ first second, first ≠ second → IsExactCount snapshot homes first second) ∧
          ∀ given number, Threshold.IsShare given number → ∃ clustering,
            ofRequest snapshot given = .ok clustering ∧
              ∀ cluster ∈ clustering.clusters, cluster.HasExactEdges snapshot := by
  refine ⟨Homes.exists_ofEntities_iff, fun homes found => ⟨fun first second apart =>
    isExactCount found apart, fun given number isShare => ?_⟩⟩
  refine ⟨_, (ofRequest_eq_ok_iff isShare).mpr ⟨homes, found, rfl⟩, fun cluster member => ?_⟩
  obtain ⟨modules, -, rfl⟩ := List.mem_map.mp (Order.mem_sort.mp member)
  exact describe_hasExactEdges snapshot homes modules

/-- The function of the first directory calls itself, and it is tied to a function of the second one
by three edges. That function calls the other one of its directory. -/
def repeatedCalls : Snapshot where
  entities := Table.ofList [fetch, parse, store, Entity.sentinel BlastRadius.loader]
  edges := [⟨fetch.address, fetch.address, .text Edge.defaultRelation⟩,
    ⟨fetch.address, parse.address, .text Edge.defaultRelation⟩,
    ⟨fetch.address, parse.address, .text "uses"⟩,
    ⟨parse.address, fetch.address, .text Edge.defaultRelation⟩,
    ⟨parse.address, store.address, .text Edge.defaultRelation⟩,
    ⟨parse.address, BlastRadius.loader, .text Edge.defaultRelation⟩]
  changeSets := Table.empty
  id := ""
  createdAt := .null
  generation := 1
  endpointsPresent := by decide +kernel

/-- One of two pairs is counted between the directories, and the cluster of both has three internal
edges. -/
theorem counts_exact_repeatedCalls : ∃ homes clustering,
    Homes.ofSnapshot repeatedCalls = .ok homes ∧
      IsExactCount repeatedCalls homes ⟨.python, "a"⟩ ⟨.python, "b"⟩ ∧
      crossCount repeatedCalls homes ⟨.python, "a"⟩ ⟨.python, "b"⟩ = 1 ∧
      ofRequest repeatedCalls Threshold.defaultValue = .ok clustering ∧
      (∀ cluster ∈ clustering.clusters, cluster.HasExactEdges repeatedCalls) ∧
      clustering.clusters.map Cluster.internalEdges = [3] := by
  have one : (Homes.ofSnapshot repeatedCalls).toOption.any (fun homes =>
      decide (crossCount repeatedCalls homes ⟨.python, "a"⟩ ⟨.python, "b"⟩ = 1)) = true := by
    decide +kernel
  have three : (ofRequest repeatedCalls Threshold.defaultValue).toOption.any (fun clustering =>
      decide (clustering.clusters.map Cluster.internalEdges = [3])) = true := by decide +kernel
  obtain ⟨homes, found, counted⟩ := Outcome.exists_of_any one
  obtain ⟨pairs, edges⟩ := (counts_exact repeatedCalls).2 homes found
  have usual : Threshold.IsShare Threshold.defaultValue (Binary64.ofQuotient false 2 10) :=
    .part (by decide +kernel) (by decide +kernel)
  obtain ⟨clustering, answered, exact⟩ := edges _ _ usual
  refine ⟨homes, clustering, found, pairs _ _ (by decide), of_decide_eq_true counted, answered,
    exact, ?_⟩
  rw [answered] at three
  exact of_decide_eq_true three

end Clustering

end CodeGraph

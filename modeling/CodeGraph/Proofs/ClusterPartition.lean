import CodeGraph.Proofs.Distance
import CodeGraph.Proofs.ExactAdjacency
import CodeGraph.Report.Clusters
import Mathlib.Data.Prod.Lex
import Mathlib.Data.String.Basic

/-!
This file says how the modules of a snapshot are spread over clusters. Links between modules are
mutual, and the modules that a chain of links joins make up one cluster, so each module is in
exactly one, and so is each entity of the source tree.
-/

namespace CodeGraph

open Relation

/-- Modules are in a strict order. -/
theorem SourceModule.precedes_strict : Order.IsStrict precedes fun _ => True := by
  have compared (first second : SourceModule) : first.precedes second = true ↔
      toLex (first.language.name, first.path) < toLex (second.language.name, second.path) := by
    rw [Prod.Lex.toLex_lt_toLex, precedes]
    by_cases same : first.language = second.language
    · simp [same]
    · simp [same, mt Language.name_injective same]
  refine .of_key (fun first second _ _ => compared first second) fun first second _ _ same => ?_
  obtain ⟨names, paths⟩ := Prod.mk.inj (toLex_inj.mp same)
  cases first
  cases second
  rw [mk.injEq]
  exact ⟨Language.name_injective names, paths⟩

namespace Clustering

variable {homes : Homes} {spans : List Span} {threshold : Threshold}
  {first second : SourceModule}

/-- A span that joins two modules joins them the other way round as well. -/
theorem crossing?_swap (apart : first ≠ second) (span : Span) :
    crossing? second first span = (crossing? first second span).map Prod.swap := by
  unfold crossing?
  by_cases forth : span.source.2 = first ∧ span.target.2 = second
  · have back : ¬(span.source.2 = second ∧ span.target.2 = first) :=
      fun back => apart (forth.1.symm.trans back.1)
    rw [if_pos forth, if_neg back, if_pos forth]
    rfl
  · rw [if_neg forth, if_neg forth]
    split <;> rfl

/-- Two modules are joined by as many pairs in both directions. -/
theorem length_crossPairs_comm (apart : first ≠ second) :
    (crossPairs spans second first).length = (crossPairs spans first second).length := by
  have swapped : (crossPairs spans second first).Perm
      ((crossPairs spans first second).map Prod.swap) := by
    apply (List.perm_ext_iff_of_nodup (Order.nodup_distinct _)
      ((Order.nodup_distinct _).map Prod.swap_injective)).mpr
    intro pair
    simp only [Order.mem_distinct, List.mem_map, List.mem_filterMap,
      crossing?_swap apart, Option.map_eq_some_iff]
    constructor
    · rintro ⟨span, member, joined, crossed, rfl⟩
      exact ⟨joined, ⟨span, member, crossed⟩, rfl⟩
    · rintro ⟨joined, ⟨span, member, crossed⟩, rfl⟩
      exact ⟨span, member, joined, crossed, rfl⟩
  rw [swapped.length_eq, List.length_map]

/-- The density between two modules does not depend on their order. -/
theorem density_comm (apart : first ≠ second) :
    density homes spans second first = density homes spans first second := by
  unfold density Density.quotient
  rw [length_crossPairs_comm apart, Int.mul_comm]

/-- Two modules are linked if they are joined densely enough. -/
theorem mem_links : (first, second) ∈ links homes spans threshold ↔
    first ∈ homes.modules ∧ second ∈ homes.modules ∧ first ≠ second ∧
      threshold.number.le (density homes spans first second) = true := by
  simp only [links, List.mem_flatMap, List.mem_map, List.mem_filter, Bool.and_eq_true,
    Bool.not_eq_true', decide_eq_false_iff_not, Prod.mk.injEq]
  constructor
  · rintro ⟨_, firstIn, _, ⟨secondIn, apart, dense⟩, rfl, rfl⟩
    exact ⟨firstIn, secondIn, apart, dense⟩
  · rintro ⟨firstIn, secondIn, apart, dense⟩
    exact ⟨first, firstIn, second, ⟨secondIn, apart, dense⟩, rfl, rfl⟩

/-- The links are mutual, and they join the given modules. -/
structure AreLinks (modules : List SourceModule) (links : List (SourceModule × SourceModule)) :
    Prop where
  inside : ∀ first second, (first, second) ∈ links → second ∈ modules
  back : ∀ first second, (first, second) ∈ links → (second, first) ∈ links

theorem links_areLinks (homes : Homes) (spans : List Span) (threshold : Threshold) :
    AreLinks homes.modules (links homes spans threshold) where
  inside _ _ linked := (mem_links.mp linked).2.1
  back _ _ linked := by
    obtain ⟨firstIn, secondIn, apart, dense⟩ := mem_links.mp linked
    exact mem_links.mpr ⟨secondIn, firstIn, apart.symm, density_comm apart ▸ dense⟩

/-- A chain of links leads from the first module to the second. -/
def Chained (links : List (SourceModule × SourceModule)) : SourceModule → SourceModule → Prop :=
  ReflTransGen fun first second => (first, second) ∈ links

section Components

variable {modules : List SourceModule} {links : List (SourceModule × SourceModule)}
  {third : SourceModule}

theorem mem_linked : second ∈ linked links first ↔ (first, second) ∈ links := by
  simp [linked]

theorem AreLinks.chained_symm (areLinks : AreLinks modules links)
    (chained : Chained links first second) : Chained links second first := by
  induction chained with
  | refl => exact .refl
  | tail _ last inductionHypothesis => exact .head (areLinks.back _ _ last) inductionHypothesis

theorem AreLinks.mem_of_chained (areLinks : AreLinks modules links) (inside : first ∈ modules)
    (chained : Chained links first second) : second ∈ modules := by
  rcases ReflTransGen.cases_tail chained with rfl | ⟨before, -, linked⟩
  · exact inside
  · exact areLinks.inside before second linked

/-- The component of a module holds what a chain of links joins to it. -/
theorem AreLinks.mem_component (areLinks : AreLinks modules links) (inside : first ∈ modules) :
    second ∈ component links modules.length first ↔ Chained links first second := by
  unfold component
  rw [Order.mem_sort, List.mem_cons,
    Walk.mem_flatten_layers_iff (fun _ _ => mem_linked) inside areLinks.inside]
  by_cases same : second = first
  · subst same
    exact iff_of_true (.inl rfl) .refl
  · simp [same, Chained]

/-- A component has each of its modules once. -/
theorem AreLinks.nodup_unsorted (areLinks : AreLinks modules links) (inside : first ∈ modules) :
    (first :: (Walk.layers (linked links) modules.length first).flatten).Nodup := by
  have leads (before place : SourceModule) := @mem_linked before place links
  refine List.nodup_cons.mpr ⟨fun member => ?_,
    (Walk.layers_isLayered leads modules.length first).nodup_flatten⟩
  exact ((Walk.mem_flatten_layers_iff leads inside areLinks.inside).mp member).1 rfl

theorem AreLinks.nodup_component (areLinks : AreLinks modules links) (inside : first ∈ modules) :
    (component links modules.length first).Nodup :=
  (Order.sort_perm _ _).nodup_iff.mpr (areLinks.nodup_unsorted inside)

/-- Modules that a chain of links joins have one component. -/
theorem AreLinks.component_eq (areLinks : AreLinks modules links) (inside : first ∈ modules)
    (chained : Chained links first second) :
    component links modules.length first = component links modules.length second := by
  have other := areLinks.mem_of_chained inside chained
  refine Order.sort_eq_of_mem_iff SourceModule.precedes_strict (fun _ _ => trivial)
    (areLinks.nodup_unsorted inside) (areLinks.nodup_unsorted other) fun module => ?_
  have former : module ∈ component links modules.length first ↔ Chained links first module :=
    areLinks.mem_component inside
  have latter : module ∈ component links modules.length second ↔ Chained links second module :=
    areLinks.mem_component other
  rw [component, Order.mem_sort] at former latter
  rw [former, latter]
  exact ⟨(areLinks.chained_symm chained).trans, chained.trans⟩

end Components

/-- The components are those of the modules. -/
theorem mem_components {links : List (SourceModule × SourceModule)}
    {members : List SourceModule} : members ∈ components homes links ↔
      ∃ module ∈ homes.modules, component links homes.modules.length module = members := by
  unfold components
  rw [Order.mem_distinct, List.mem_map]

/-- Each module is in exactly one component. -/
theorem flatten_components_perm {links : List (SourceModule × SourceModule)}
    (areLinks : AreLinks homes.modules links) :
    (components homes links).flatten.Perm homes.modules := by
  have distinct : (components homes links).flatten.Nodup := by
    rw [List.nodup_flatten]
    constructor
    · intro members member
      obtain ⟨module, inside, rfl⟩ := mem_components.mp member
      exact areLinks.nodup_component inside
    · refine (Order.nodup_distinct _).imp_of_mem fun firstIn secondIn apart => ?_
      obtain ⟨first, firstInside, rfl⟩ := mem_components.mp firstIn
      obtain ⟨second, secondInside, rfl⟩ := mem_components.mp secondIn
      intro module inFirst inSecond
      have former := (areLinks.mem_component firstInside).mp inFirst
      have latter := (areLinks.mem_component secondInside).mp inSecond
      exact apart ((areLinks.component_eq firstInside former).trans
        (areLinks.component_eq secondInside latter).symm)
  refine (List.perm_ext_iff_of_nodup distinct (Order.nodup_distinct _)).mpr fun module => ?_
  rw [List.mem_flatten]
  constructor
  · rintro ⟨members, member, inside⟩
    obtain ⟨start, startInside, rfl⟩ := mem_components.mp member
    exact areLinks.mem_of_chained startInside ((areLinks.mem_component startInside).mp inside)
  · intro inside
    exact ⟨_, mem_components.mpr ⟨module, inside, rfl⟩, (areLinks.mem_component inside).mpr .refl⟩

end Clustering

/-- An entity has a module exactly if its path is a text. -/
theorem SourceModule.exists_ofEntity_iff {entity : Entity} :
    (∃ module, ofEntity entity = .ok module) ↔ ∃ path, entity.filePath = .text path := by
  unfold ofEntity
  cases entity.filePath <;> simp [crash]

namespace Homes

variable {entities : List Entity} {homes : Homes}

/-- Each entity has its home at its place of the list. -/
def AreHomes : List Entity → Homes → Prop :=
  List.Forall₂ fun entity home => entity.address = home.1 ∧
    SourceModule.ofEntity entity = .ok home.2

theorem AreHomes.addresses (areHomes : AreHomes entities homes) :
    homes.map Prod.fst = entities.map Entity.address := by
  have same : List.Forall₂ Eq (entities.map Entity.address) (homes.map Prod.fst) := by
    rw [List.forall₂_map_left_iff, List.forall₂_map_right_iff]
    exact areHomes.imp fun _ _ both => both.1
  rw [List.forall₂_eq_eq_eq] at same
  exact same.symm

/-- The entities of a module and the homes in it belong to each other. -/
theorem AreHomes.ofModule (areHomes : AreHomes entities homes) (module : SourceModule) :
    AreHomes (entities.filter fun entity => decide (SourceModule.ofEntity entity = .ok module))
      (homes.filter fun home => decide (home.2 = module)) := by
  refine List.rel_filter (fun entity home both => ?_) areHomes
  simp [both.2]

/-- Entities have homes exactly if their paths are texts. -/
theorem exists_areHomes_iff : (∃ homes, AreHomes entities homes) ↔
    ∀ entity ∈ entities, ∃ path, entity.filePath = .text path := by
  induction entities with
  | nil => simp [AreHomes]
  | cons entity rest inductionHypothesis =>
      rw [List.forall_mem_cons, ← inductionHypothesis, ← SourceModule.exists_ofEntity_iff]
      simp only [AreHomes, List.forall₂_cons_left_iff]
      constructor
      · rintro ⟨_, home, others, ⟨-, homed⟩, areHomes, -⟩
        exact ⟨⟨home.2, homed⟩, others, areHomes⟩
      · rintro ⟨⟨module, homed⟩, others, areHomes⟩
        exact ⟨_, (entity.address, module), others, ⟨rfl, homed⟩, areHomes, rfl⟩

/-- The homes are those of the entities in the source tree. -/
theorem ofEntities_eq_ok_iff : ofEntities entities = .ok homes ↔
    AreHomes (entities.filter fun entity => !entity.isExternal) homes := by
  induction entities generalizing homes with
  | nil => simp [ofEntities, AreHomes, eq_comm]
  | cons entity rest inductionHypothesis =>
      unfold ofEntities
      cases external : entity.isExternal with
      | true =>
          rw [List.filter_cons_of_neg (by simp [external])]
          exact inductionHypothesis
      | false =>
          rw [List.filter_cons_of_pos (by simp [external]), AreHomes, List.forall₂_cons_left_iff]
          constructor
          · intro found
            obtain ⟨module, homed, found⟩ := Outcome.bind_ok found
            obtain ⟨others, othersFound, found⟩ := Outcome.bind_ok found
            cases found
            exact ⟨(entity.address, module), others, ⟨rfl, homed⟩,
              inductionHypothesis.mp othersFound, rfl⟩
          · rintro ⟨⟨_, module⟩, others, ⟨rfl, homed⟩, areHomes, rfl⟩
            change (SourceModule.ofEntity entity >>= _) = _
            rw [homed, inductionHypothesis.mpr areHomes]
            rfl

theorem exists_ofEntities_iff : (∃ homes, ofEntities entities = .ok homes) ↔
    ∀ entity ∈ entities, entity.isExternal = false → ∃ path, entity.filePath = .text path := by
  simp [ofEntities_eq_ok_iff, exists_areHomes_iff, List.mem_filter]

/-- The entities with homes are those in the source tree. -/
theorem ofEntities_addresses (found : ofEntities entities = .ok homes) :
    homes.map Prod.fst =
      (entities.filter fun entity => !entity.isExternal).map Entity.address :=
  (ofEntities_eq_ok_iff.mp found).addresses

theorem length_add_external (found : ofEntities entities = .ok homes) :
    homes.length + entities.countP Entity.isExternal = entities.length := by
  have lengths := congrArg List.length (ofEntities_addresses found)
  rw [List.length_map, List.length_map, ← List.countP_eq_length_filter] at lengths
  have split := List.length_eq_countP_add_countP Entity.isExternal (l := entities)
  simp only [Bool.not_eq_true, Bool.decide_eq_false] at split
  omega

/-- Each home is in the members of its module. -/
theorem sum_members (homes : Homes) :
    (homes.modules.map fun module => (homes.members module).length).sum = homes.length := by
  simp only [members, List.length_map]
  refine sum_length_filter Prod.snd (Order.nodup_distinct _) fun home member => ?_
  exact Order.mem_distinct.mpr (List.mem_map_of_mem member)

theorem mem_members {module : SourceModule} {address : Address} :
    address ∈ homes.members module ↔ (address, module) ∈ homes := by
  simp [members]

/-- Different modules have different members. -/
theorem nodup_flatMap_members (distinct : (homes.map Prod.fst).Nodup)
    {modules : List SourceModule} (apart : modules.Nodup) :
    (modules.flatMap homes.members).Nodup := by
  rw [List.nodup_flatMap]
  constructor
  · intro module _
    exact distinct.sublist (List.filter_sublist.map _)
  · refine apart.imp fun {first second} different address inFirst inSecond => different ?_
    have same := List.inj_on_of_nodup_map distinct (mem_members.mp inFirst)
      (mem_members.mp inSecond) rfl
    exact congrArg Prod.snd same

end Homes

/-- Different addresses are as many when they are put in order. -/
theorem Snapshot.length_orderAddresses {addresses : List Address} (distinct : addresses.Nodup) :
    (orderAddresses addresses).length = addresses.length :=
  ((List.perm_ext_iff_of_nodup (increasing_orderAddresses addresses).nodup distinct).mpr
    fun _ => mem_orderAddresses).length_eq

namespace Clustering

variable {snapshot : Snapshot} {homes : Homes}

theorem size_describe (distinct : (homes.map Prod.fst).Nodup) {modules : List SourceModule}
    (apart : modules.Nodup) : (describe snapshot homes modules).size =
      (modules.map fun module => (homes.members module).length).sum := by
  show (Snapshot.orderAddresses (modules.flatMap homes.members)).length = _
  rw [Snapshot.length_orderAddresses (homes.nodup_flatMap_members distinct apart),
    List.length_flatMap]

/-- Each entity of the source tree is counted in exactly one cluster. -/
theorem sum_sizes (distinct : (homes.map Prod.fst).Nodup) (threshold : Threshold) :
    ((ofHomes snapshot homes threshold).clusters.map Cluster.size).sum = homes.length := by
  have areLinks := links_areLinks homes (snapshot.edges.filterMap (span? homes)) threshold
  generalize made : links homes (snapshot.edges.filterMap (span? homes)) threshold = joined
  rw [made] at areLinks
  have sorted : ((ofHomes snapshot homes threshold).clusters.map Cluster.size).Perm
      (((components homes joined).map (describe snapshot homes)).map Cluster.size) := by
    rw [← made]
    exact (Order.sort_perm _ _).map _
  have sizes : ((components homes joined).map (describe snapshot homes)).map Cluster.size =
      (components homes joined).map fun modules =>
        (modules.map fun module => (homes.members module).length).sum := by
    rw [List.map_map]
    refine List.map_congr_left fun modules member => ?_
    obtain ⟨module, inside, rfl⟩ := mem_components.mp member
    exact size_describe distinct (areLinks.nodup_component inside)
  calc ((ofHomes snapshot homes threshold).clusters.map Cluster.size).sum
      = ((components homes joined).map fun modules =>
          (modules.map fun module => (homes.members module).length).sum).sum := by
        rw [sorted.sum_eq, sizes]
    _ = ((components homes joined).flatten.map fun module =>
          (homes.members module).length).sum := by
        rw [List.map_flatten, List.sum_flatten, List.map_map]
        rfl
    _ = (homes.modules.map fun module => (homes.members module).length).sum :=
        ((flatten_components_perm areLinks).map _).sum_eq
    _ = homes.length := homes.sum_members

end Clustering

namespace Snapshot

variable {snapshot : Snapshot} {homes : Homes}

/-- Each entity has at most one home. -/
theorem nodup_homes (found : Homes.ofSnapshot snapshot = .ok homes) :
    (homes.map Prod.fst).Nodup := by
  rw [Homes.ofEntities_addresses found]
  exact snapshot.increasing_addresses.nodup.sublist (List.filter_sublist.map _)

/-- The clusters of a snapshot hold its entities in the source tree, and the others are counted. -/
theorem clusters_exact (found : Homes.ofSnapshot snapshot = .ok homes) (threshold : Threshold) :
    (Clustering.ofHomes snapshot homes threshold).external =
        snapshot.entities.rows.countP Entity.isExternal ∧
      ((Clustering.ofHomes snapshot homes threshold).clusters.map Cluster.size).sum +
        snapshot.entities.rows.countP Entity.isExternal = snapshot.entityCount := by
  have split : homes.length + snapshot.entities.rows.countP Entity.isExternal =
      snapshot.entityCount := Homes.length_add_external found
  constructor
  · show snapshot.entityCount - homes.length = _
    omega
  · rw [Clustering.sum_sizes (nodup_homes found) threshold]
    exact split

end Snapshot

end CodeGraph

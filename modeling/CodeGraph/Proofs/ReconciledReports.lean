import CodeGraph.Proofs.AnsweredReports
import CodeGraph.Proofs.ClusterPartition
import CodeGraph.Proofs.HotspotRanks

/-!
This file says that the reports of one snapshot reconcile. They count the same entities and edges by
kinds, languages and relations, by ranks, by clusters and by files, and come to the same numbers.
-/

namespace CodeGraph

namespace Overview

/-- The numbers by name add up to the number of names. -/
theorem sum_tally (names : List String) : ((tally names).map Prod.snd).sum = names.length := by
  have distinct := (Table.ofList names : TextSet).nodup_rows
  have counted := sum_length_filter id distinct fun name member =>
    (Table.mem_ofList_iff Function.injective_id).mpr member
  rw [← counted, tally, List.map_map]
  apply congrArg
  apply List.map_congr_left
  intro name _
  show names.count name = _
  rw [List.count_eq_length_filter]
  simp [beq_eq_decide]

/-- Texts agree if they are the same. -/
theorem agrees_of_isText {first second : Atom} (firstText : first.isText = true)
    (secondText : second.isText = true) : first.agrees second = decide (second = first) := by
  cases first with
  | text name =>
      cases second with
      | text other => simp [Atom.agrees, eq_comm, beq_eq_decide]
      | _ => cases secondText
  | _ => cases firstText

/-- The first of texts that agree are the different texts. -/
theorem firstAtoms_eq_distinct {atoms : List Atom} (texts : ∀ atom ∈ atoms, atom.isText = true) :
    firstAtoms atoms = Order.distinct atoms := by
  induction atoms with
  | nil => rfl
  | cons first rest inductionHypothesis =>
      obtain ⟨firstText, others⟩ := List.forall_mem_cons.mp texts
      rw [firstAtoms, Order.distinct, inductionHypothesis others]
      apply congrArg
      apply List.filter_congr
      intro other member
      rw [agrees_of_isText firstText (others other (Order.mem_distinct.mp member))]

/-- The numbers by relation add up to the number of relations. -/
theorem sum_tallyRelations {relations : List Atom} {tallied : List (Atom × Nat)}
    (texts : ∀ relation ∈ relations, relation.isText = true)
    (counted : tallyRelations relations = .ok tallied) :
    (tallied.map Prod.snd).sum = relations.length := by
  let entry (name : Atom) : Atom × Nat :=
    (name, relations.countP fun relation => name.agrees relation)
  have named : ∀ counting ∈ (Order.distinct relations).map entry, counting.1.isText = true := by
    intro counting member
    obtain ⟨name, inside, rfl⟩ := List.mem_map.mp member
    exact texts name (Order.mem_distinct.mp inside)
  have sorted : tallied.Perm ((Order.distinct relations).map entry) := by
    rw [tallyRelations, firstAtoms_eq_distinct texts, NameOrder.sort_of_texts named] at counted
    cases counted
    exact Order.sort_perm _ _
  have fibers := sum_length_filter id (Order.nodup_distinct relations) fun relation member =>
    Order.mem_distinct.mpr member
  rw [(sorted.map Prod.snd).sum_eq, ← fibers, List.map_map]
  apply congrArg
  apply List.map_congr_left
  intro name inside
  have isText := texts name (Order.mem_distinct.mp inside)
  show relations.countP (fun relation => name.agrees relation) = _
  rw [List.countP_eq_length_filter]
  apply congrArg
  apply List.filter_congr
  intro relation member
  exact agrees_of_isText isText (texts relation member)

end Overview

namespace Snapshot

/-- The addresses in all groups. -/
def grouped (groups : List (Atom × List Address)) : Nat :=
  (groups.map fun group => group.2.length).sum

theorem grouped_addToFile (path : Atom) (address : Address)
    (groups : List (Atom × List Address)) :
    grouped (addToFile path address groups) = grouped groups + 1 := by
  induction groups with
  | nil => rfl
  | cons group rest inductionHypothesis =>
      unfold addToFile
      split
      · simp only [grouped, List.map_cons, List.sum_cons, List.length_append,
          List.length_singleton]
        omega
      · simp only [grouped, List.map_cons, List.sum_cons] at inductionHypothesis ⊢
        omega

/-- The groups have different paths. -/
def HaveDifferentPaths (groups : List (Atom × List Address)) : Prop :=
  groups.Pairwise fun first second => first.1.agrees second.1 = false

theorem path_of_mem_addToFile {path : Atom} {address : Address}
    {groups : List (Atom × List Address)} {group : Atom × List Address}
    (member : group ∈ addToFile path address groups) :
    group.1 = path ∨ ∃ other ∈ groups, other.1 = group.1 := by
  induction groups with
  | nil => exact .inl (congrArg Prod.fst (List.mem_singleton.mp member))
  | cons first rest inductionHypothesis =>
      unfold addToFile at member
      split at member
      · rcases List.mem_cons.mp member with here | behind
        · exact .inr ⟨first, List.mem_cons_self, (congrArg Prod.fst here).symm⟩
        · exact .inr ⟨group, List.mem_cons_of_mem _ behind, rfl⟩
      · rcases List.mem_cons.mp member with here | behind
        · exact .inr ⟨first, List.mem_cons_self, (congrArg Prod.fst here).symm⟩
        · rcases inductionHypothesis behind with same | ⟨other, inside, same⟩
          · exact .inl same
          · exact .inr ⟨other, List.mem_cons_of_mem _ inside, same⟩

theorem HaveDifferentPaths.addToFile {groups : List (Atom × List Address)}
    (different : HaveDifferentPaths groups) (path : Atom) (address : Address) :
    HaveDifferentPaths (addToFile path address groups) := by
  induction groups with
  | nil => exact List.pairwise_singleton _ _
  | cons first rest inductionHypothesis =>
      obtain ⟨apart, restDifferent⟩ := List.pairwise_cons.mp different
      unfold Snapshot.addToFile
      split
      · exact List.pairwise_cons.mpr ⟨apart, restDifferent⟩
      · rename_i other
        refine List.pairwise_cons.mpr ⟨?_, inductionHypothesis restDifferent⟩
        intro group member
        rcases path_of_mem_addToFile member with same | ⟨old, inside, same⟩
        · rw [same]
          exact Bool.eq_false_iff.mpr other
        · rw [← same]
          exact apart old inside

/-- Each entity of the source tree is in exactly one group. -/
theorem groupFiles_exact {entities : List Entity} {groups files : List (Atom × List Address)}
    (made : groupFiles groups entities = .ok files) (different : HaveDifferentPaths groups) :
    grouped files + entities.countP Entity.isExternal = grouped groups + entities.length ∧
      HaveDifferentPaths files := by
  induction entities generalizing groups with
  | nil =>
      cases made
      exact ⟨rfl, different⟩
  | cons entity rest inductionHypothesis =>
      unfold groupFiles at made
      split at made
      · rename_i external
        obtain ⟨counted, apart⟩ := inductionHypothesis made different
        refine ⟨?_, apart⟩
        rw [List.countP_cons_of_pos external, List.length_cons]
        omega
      · rename_i internal
        split at made
        · cases made
        · rename_i path _
          obtain ⟨counted, apart⟩ := inductionHypothesis made (different.addToFile path _)
          rw [grouped_addToFile] at counted
          refine ⟨?_, apart⟩
          rw [List.countP_cons_of_neg internal, List.length_cons]
          omega

end Snapshot

namespace Hotspot

variable {snapshot : Snapshot}

/-- A list with room for all entities has all of them. -/
theorem measure_full {top : Nat} (full : snapshot.entityCount ≤ top) :
    measure snapshot top = number snapshot 1 (ranked snapshot) := by
  have short : (ranked snapshot).length ≤ top := by
    rw [(ranked_perm snapshot).length_eq]
    exact full
  rw [measure, List.take_of_length_le short]

theorem sum_inbound {top : Nat} (full : snapshot.entityCount ≤ top) :
    ((measure snapshot top).map inbound).sum = snapshot.edgeCount := by
  rw [measure_full full, map_number (fun _ _ => rfl), ← snapshot.sum_degrees.1,
    Snapshot.addresses, List.map_map]
  exact ((ranked_perm snapshot).map _).sum_eq

theorem sum_outbound {top : Nat} (full : snapshot.entityCount ≤ top) :
    ((measure snapshot top).map outbound).sum = snapshot.edgeCount := by
  rw [measure_full full, map_number (fun _ _ => rfl), ← snapshot.sum_degrees.2,
    Snapshot.addresses, List.map_map]
  exact ((ranked_perm snapshot).map _).sum_eq

end Hotspot

/-- The reports count the same entities and edges, and show what they count. -/
structure Reconcile (overview : Overview) (hotspots : List Hotspot) (clustering : Clustering)
    (files : List (Atom × List Address)) : Prop where
  kinds : (overview.byKind.map Prod.snd).sum = overview.entities
  languages : (overview.byLanguage.map Prod.snd).sum = overview.entities
  ranked : hotspots.length = overview.entities
  relations : (overview.byRelation.map Prod.snd).sum = overview.edges
  inbound : (hotspots.map Hotspot.inbound).sum = overview.edges
  outbound : (hotspots.map Hotspot.outbound).sum = overview.edges
  external : clustering.external = overview.externalEntities
  clustered : (clustering.clusters.map Cluster.size).sum + overview.externalEntities =
    overview.entities
  filed : (files.map fun file => file.2.length).sum + overview.externalEntities =
    overview.entities
  paths : files.length = overview.files ∧ Snapshot.HaveDifferentPaths files
  counted : overview.toValue.field? "entity_count" = some (.int overview.entities) ∧
    overview.toValue.field? "edge_count" = some (.int overview.edges) ∧
    overview.toValue.field? "file_count" = some (.int overview.files) ∧
    overview.toValue.field? "external_entity_count" = some (.int overview.externalEntities)
  tallied : overview.toValue.field? "entities_by_type" =
      some (.object (overview.byKind.map fun entry => (entry.1, .int entry.2))) ∧
    overview.toValue.field? "entities_by_language" =
      some (.object (overview.byLanguage.map fun entry => (entry.1, .int entry.2))) ∧
    overview.toValue.field? "edges_by_relation" =
      some (.object (overview.byRelation.map fun entry => (entry.1.fieldName, .int entry.2)))
  degrees : ∀ hotspot ∈ hotspots, hotspot.toValue.field? "inbound_count" =
      some (.int hotspot.inbound) ∧
    hotspot.toValue.field? "outbound_count" = some (.int hotspot.outbound)
  sizes : clustering.toValue.field? "external_entity_count" = some (.int clustering.external) ∧
    ∀ cluster ∈ clustering.clusters, ∀ number,
      (cluster.toValue number).field? "size" = some (.int cluster.size)

namespace Snapshot

variable {snapshot : Snapshot}

/-- The summary of a snapshot counts its entities and edges, and its files. -/
theorem summary_exact {overview : Overview} (texts : snapshot.HasTexts)
    (measured : Overview.measure snapshot = .ok overview) :
    overview.entities = snapshot.entityCount ∧ overview.edges = snapshot.edgeCount ∧
      overview.externalEntities = snapshot.entities.rows.countP Entity.isExternal ∧
      (overview.byKind.map Prod.snd).sum = snapshot.entityCount ∧
      (overview.byLanguage.map Prod.snd).sum = snapshot.entityCount ∧
      (overview.byRelation.map Prod.snd).sum = snapshot.edgeCount ∧
      ∃ files, snapshot.files = .ok files ∧ files.length = overview.files := by
  obtain ⟨files, grouped, measured⟩ := Outcome.bind_ok measured
  obtain ⟨relations, counted, measured⟩ := Outcome.bind_ok measured
  cases measured
  refine ⟨rfl, rfl, rfl, ?_, ?_, ?_, files, grouped, rfl⟩
  · rw [Overview.sum_tally, List.length_map]
    rfl
  · rw [Overview.sum_tally, List.length_map]
    rfl
  · rw [Overview.sum_tallyRelations texts.isText counted, List.length_map]
    rfl

end Snapshot

/-- All reports of a snapshot that is built from records exist and reconcile, at every threshold of
the clusters and with every number of hotspots that leaves room for all entities. -/
theorem Manager.build_reconcile {setting : Setting} {feed : Feed} {manager : Manager}
    {snapshot : Snapshot} (built : manager.build setting feed = .ok snapshot) {given : Value}
    {threshold : Threshold} (accepted : Threshold.ofValue? given = some threshold) {top : Nat}
    (positive : 0 < top) (full : snapshot.entityCount ≤ top) :
    ∃ overview hotspots clustering files, Overview.measure snapshot = .ok overview ∧
      Hotspot.ofRequest snapshot (.int top) = .ok hotspots ∧
      Clustering.ofRequest snapshot given = .ok clustering ∧ snapshot.files = .ok files ∧
      Reconcile overview hotspots clustering files := by
  have texts := build_hasTexts built
  obtain ⟨overview, measured⟩ := Overview.exists_measure texts
  obtain ⟨entities, edges, external, kinds, languages, relations, files, grouped, paths⟩ :=
    Snapshot.summary_exact texts measured
  obtain ⟨homes, found⟩ := Homes.exists_ofEntities texts.paths
  obtain ⟨outside, clustered⟩ := Snapshot.clusters_exact found threshold
  obtain ⟨filed, different⟩ := Snapshot.groupFiles_exact grouped List.Pairwise.nil
  have asked : Hotspot.ofRequest snapshot (.int top) = .ok (Hotspot.measure snapshot top) := by
    simp [Hotspot.ofRequest, Argument.positive?, positive]
  have merged : Clustering.ofRequest snapshot given =
      .ok (Clustering.ofHomes snapshot homes threshold) := by
    rw [Clustering.ofRequest, accepted]
    exact Outcome.map_ok_iff.mpr ⟨homes, found, rfl⟩
  refine ⟨overview, _, _, files, measured, asked, merged, grouped, ?_⟩
  exact {
    kinds := by rw [kinds, entities]
    languages := by rw [languages, entities]
    ranked := by
      rw [Hotspot.measure_full full, Hotspot.length_number,
        (Hotspot.ranked_perm snapshot).length_eq, entities]
      rfl
    relations := by rw [relations, edges]
    inbound := by rw [Hotspot.sum_inbound full, edges]
    outbound := by rw [Hotspot.sum_outbound full, edges]
    external := by rw [outside, external]
    clustered := by rw [external, clustered, entities]
    filed := by
      rw [external, entities]
      exact filed.trans (Nat.zero_add _)
    paths := ⟨paths, different⟩
    counted := ⟨rfl, rfl, rfl, rfl⟩
    tallied := ⟨rfl, rfl, congrArg (some ∘ Value.object) List.map_map⟩
    degrees := fun _ _ => ⟨rfl, rfl⟩
    sizes := ⟨rfl, fun _ _ _ => rfl⟩ }

namespace Manager

/-- A document with two functions in two directories, one of which calls the other twice and a
function that is not in the source tree. -/
def twoFolders : Value := .object [
  ("entities", .list [
    .object [("language", .text "python"), ("entity_type", .text "function"), ("name", .text "f"),
      ("file_path", .text "a/x.py"), ("line_range", .list [.int 1, .int 2])],
    .object [("language", .text "python"), ("entity_type", .text "function"), ("name", .text "g"),
      ("file_path", .text "b/y.py"), ("line_range", .list [.int 1, .int 2])]]),
  ("edges", .list [
    .object [("source", .text "python:function:f:a_x.py:1-2"),
      ("target", .text "python:function:g:b_y.py:1-2"), ("relation", .text "calls")],
    .object [("source", .text "python:function:f:a_x.py:1-2"),
      ("target", .text "python:function:g:b_y.py:1-2"), ("relation", .text "uses")],
    .object [("source", .text "python:function:f:a_x.py:1-2"),
      ("target", .text "python:function:print:unknown:0-0"), ("relation", .text "calls")]])]

/-- The snapshot of these functions has three entities, of which one is external. -/
theorem build_reconcile_twoFolders :
    ∃ (setting : Setting) (feed : Feed) (manager : Manager) (snapshot : Snapshot)
      (threshold : Threshold), manager.build setting feed = .ok snapshot ∧
      Threshold.ofValue? (.int 1) = some threshold ∧ snapshot.entityCount ≤ 3 ∧
      ∃ overview hotspots clustering files, Overview.measure snapshot = .ok overview ∧
        Hotspot.ofRequest snapshot (.int (3 : Nat)) = .ok hotspots ∧
        Clustering.ofRequest snapshot (.int 1) = .ok clustering ∧ snapshot.files = .ok files ∧
        Reconcile overview hotspots clustering files := by
  have passes : (build ⟨Vocabulary.initial, "2024-01-02T00:00:00+00:00", 1000⟩
      (Feed.ofDocument twoFolders) initial).toOption.any (fun snapshot =>
        decide (snapshot.entityCount = 3)) = true := by decide +kernel
  obtain ⟨snapshot, built, three⟩ := Outcome.exists_of_any passes
  have full : snapshot.entityCount ≤ 3 := (of_decide_eq_true three).le
  have accepted : Threshold.ofValue? (.int 1) = some ⟨.int 1, Binary64.ofInt 1⟩ := rfl
  exact ⟨_, _, _, snapshot, _, built, accepted, full,
    build_reconcile built accepted (by decide) full⟩

end Manager

end CodeGraph

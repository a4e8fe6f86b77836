import CodeGraph.Proofs.SourcePaths
import CodeGraph.Report.Overview

/-!
This file says what a snapshot has in common with all others that are built from records: its paths
and relations are texts. So it can be grouped by files and summed up.
-/

namespace CodeGraph

namespace Snapshot

/-- The paths of entities and the relations of edges are texts. -/
structure HasTexts (snapshot : Snapshot) : Prop where
  paths : ∀ entity ∈ snapshot.entities.rows, ∃ path, entity.filePath = .text path
  relations : ∀ edge ∈ snapshot.edges, edge.IsNamed

theorem HasTexts.isText {snapshot : Snapshot} (texts : snapshot.HasTexts) :
    ∀ relation ∈ snapshot.edges.map Edge.relation, relation.isText = true := by
  intro relation member
  obtain ⟨edge, inside, rfl⟩ := List.mem_map.mp member
  obtain ⟨text, isText⟩ := texts.relations edge inside
  rw [isText]
  rfl

/-- Entities can be grouped by their files if the paths in the source tree are texts. -/
theorem groupFiles_ok {entities : List Entity}
    (paths : ∀ entity ∈ entities, entity.isExternal = false → ∃ path, entity.filePath = .text path)
    (groups : List (Atom × List Address)) : ∃ files, groupFiles groups entities = .ok files := by
  induction entities generalizing groups with
  | nil => exact ⟨groups, rfl⟩
  | cons entity rest inductionHypothesis =>
      obtain ⟨here, others⟩ := List.forall_mem_cons.mp paths
      unfold groupFiles
      split
      · exact inductionHypothesis others groups
      · rename_i inside
        obtain ⟨path, isText⟩ := here (Bool.eq_false_iff.mpr inside)
        rw [isText]
        exact inductionHypothesis others _

theorem HasTexts.files {snapshot : Snapshot} (texts : snapshot.HasTexts) :
    ∃ files, snapshot.files = .ok files :=
  groupFiles_ok (fun entity member _ => texts.paths entity member) []

end Snapshot

/-- The path of an entity that is placed is a text. -/
theorem Entity.IsPlaced.path {entity : Entity} (placed : entity.IsPlaced) :
    ∃ path, entity.filePath = .text path := by
  unfold IsPlaced Address.Fits at placed
  split at placed
  · obtain ⟨path, isText, -⟩ := placed
    exact ⟨path, isText⟩
  · exact ⟨_, placed⟩

/-- A snapshot that is built from records has texts for paths and relations. -/
theorem Manager.build_hasTexts {setting : Setting} {feed : Feed} {manager : Manager}
    {snapshot : Snapshot} (built : manager.build setting feed = .ok snapshot) :
    snapshot.HasTexts := by
  obtain ⟨builder, isFrom, -, shown⟩ := build_ok built
  refine ⟨fun entity member => (build_isPlaced built entity member).path, fun edge member => ?_⟩
  obtain ⟨relation, isText, -⟩ := (build_edges isFrom shown).2 edge member
  exact ⟨relation, isText⟩

namespace Overview

theorem firstAtoms_subset (atoms : List Atom) : firstAtoms atoms ⊆ atoms := by
  induction atoms with
  | nil => exact List.Subset.refl _
  | cons first rest inductionHypothesis =>
      intro atom member
      rcases List.mem_cons.mp member with rfl | behind
      · exact List.mem_cons_self
      · exact List.mem_cons_of_mem _ (inductionHypothesis (List.mem_of_mem_filter behind))

/-- Relations that are texts can be counted. -/
theorem tallyRelations_ok {relations : List Atom}
    (texts : ∀ relation ∈ relations, relation.isText = true) :
    ∃ tally, tallyRelations relations = .ok tally := by
  refine ⟨_, NameOrder.sort_of_texts fun entry member => ?_⟩
  obtain ⟨name, first, rfl⟩ := List.mem_map.mp member
  exact texts name (firstAtoms_subset relations first)

/-- A snapshot with texts for paths and relations can be summed up. -/
theorem exists_measure {snapshot : Snapshot} (texts : snapshot.HasTexts) :
    ∃ overview, measure snapshot = .ok overview := by
  obtain ⟨files, grouped⟩ := texts.files
  obtain ⟨tally, counted⟩ := tallyRelations_ok texts.isText
  unfold measure
  rw [grouped, counted]
  exact ⟨_, rfl⟩

end Overview

end CodeGraph

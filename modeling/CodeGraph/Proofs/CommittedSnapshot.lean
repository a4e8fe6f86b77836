import CodeGraph.Proofs.BuilderHistory
import CodeGraph.Proofs.RelationOrder
import CodeGraph.Manager
import CodeGraph.Snapshot.Restore
import Mathlib.Data.List.Pairwise

/-!
This file says what all committed snapshots have in common, whether extractors or stored data
brought the items. No two edges of a snapshot agree, and they stand in the order of their ends.
-/

namespace CodeGraph

namespace Edge

theorem agrees_symm {first second : Edge} (same : first.agrees second = true) :
    second.agrees first = true := by
  unfold agrees at same ⊢
  simp only [Bool.and_eq_true, decide_eq_true_eq, Atom.agrees_iff] at same ⊢
  exact ⟨⟨same.1.1.symm, same.1.2.symm⟩, same.2.symm⟩

theorem agrees_refl (edge : Edge) : edge.agrees edge = true := by
  simp [agrees, Atom.agrees_iff]

theorem comparable_symm {first second : Edge} (ordered : first.comparable second = true) :
    second.comparable first = true := by
  have relations (first second : Atom) : first.comparable second = second.comparable first := by
    cases first <;> cases second <;> rfl
  unfold comparable at ordered ⊢
  rw [relations]
  simpa only [eq_comm] using ordered

/-- The edges differ in an end or in their relations. -/
def Differs (first second : Edge) : Prop := first.agrees second = false

theorem Differs.symm {first second : Edge} (differs : first.Differs second) :
    second.Differs first := by
  unfold Differs at differs ⊢
  rw [Bool.eq_false_iff] at differs ⊢
  exact fun same => differs (agrees_symm same)

instance : Std.Symm Differs := ⟨fun _ _ => Differs.symm⟩

theorem nodup_of_differ {edges : List Edge} (differ : edges.Pairwise Differs) : edges.Nodup := by
  refine differ.imp fun apart same => ?_
  rw [same, Differs, agrees_refl] at apart
  cases apart

end Edge

namespace Builder

/-- A builder comes about by staging items one after the other, whoever brings them, and a commit
may close it. -/
inductive IsReached : Builder → Prop where
  | created (generation : Int) (external : Bool) : IsReached (create generation external)
  | entity {builder next : Builder} {entity : Entity} (before : IsReached builder)
      (staged : builder.stageEntity entity = .ok next) : IsReached next
  | edge {builder next : Builder} {edge : Edge} (before : IsReached builder)
      (staged : builder.stageEdge edge = .ok next) : IsReached next
  | change {builder : Builder} (before : IsReached builder) (change : ChangeSet) :
      IsReached (builder.stageChange change)
  | closed {builder : Builder} (before : IsReached builder) : IsReached builder.closed

/-- No two staged edges agree. -/
theorem IsReached.differ {builder : Builder} (reached : builder.IsReached) :
    builder.edges.Pairwise Edge.Differs := by
  induction reached with
  | created generation external => exact List.Pairwise.nil
  | entity before staged inductionHypothesis =>
      rw [stageEntity_ok staged]
      exact inductionHypothesis
  | edge before staged inductionHypothesis =>
      obtain ⟨-, ⟨-, same⟩ | ⟨fresh, same⟩⟩ := stageEdge_ok staged <;> rw [same]
      · exact inductionHypothesis
      · refine List.pairwise_append.mpr ⟨inductionHypothesis, List.pairwise_singleton _ _, ?_⟩
        intro other member last latest
        rw [List.mem_singleton.mp latest]
        have disagrees := List.any_eq_false.mp fresh other member
        exact Edge.Differs.symm (by simpa [Edge.Differs] using disagrees)
  | change before change inductionHypothesis => exact inductionHypothesis
  | closed before inductionHypothesis => exact List.Pairwise.nil

/-- Every staged edge has a relation. -/
theorem IsReached.related {builder : Builder} (reached : builder.IsReached) :
    ∀ edge ∈ builder.edges, edge.relation.toValue.isTruthy = true := by
  induction reached with
  | created generation external => exact fun _ member => absurd member List.not_mem_nil
  | entity before staged inductionHypothesis =>
      rw [stageEntity_ok staged]
      exact inductionHypothesis
  | edge before staged inductionHypothesis =>
      obtain ⟨related, ⟨-, same⟩ | ⟨-, same⟩⟩ := stageEdge_ok staged <;> rw [same]
      · exact inductionHypothesis
      · intro edge member
        rcases List.mem_append.mp member with former | last
        · exact inductionHypothesis edge former
        · rw [List.mem_singleton.mp last]
          exact related
  | change before change inductionHypothesis => exact inductionHypothesis
  | closed before inductionHypothesis => exact fun _ member => absurd member List.not_mem_nil

/-- Every call on a builder leads to a builder that can come about. -/
theorem IsReached.perform {builder : Builder} (reached : builder.IsReached) (call : BuilderCall) :
    (builder.perform call).2.IsReached := by
  cases call with
  | putEntities batch =>
      refine whenOpen_keeps reached (stageAll_keeps (fun offer _ between next before staged => ?_)
        0 reached)
      cases offer with
      | item entity => exact before.entity staged
      | foreign typeName => cases staged
  | putEdges batch =>
      refine whenOpen_keeps reached (stageAll_keeps (fun offer _ between next before staged => ?_)
        0 reached)
      cases offer with
      | item edge => exact before.edge staged
      | foreign typeName => cases staged
  | putChangeSets batch =>
      refine whenOpen_keeps reached (stageAll_keeps (fun offer _ between next before staged => ?_)
        0 reached)
      cases offer with
      | item change =>
          cases staged
          exact before.change change
      | foreign typeName => cases staged
  | commit now createdAt =>
      rcases commit_cases builder now createdAt with
        ⟨-, ended⟩ | ⟨-, fault, -, ended⟩ | ⟨-, -, snapshot, -, ended⟩ |
          ⟨-, -, snapshot, -, ended⟩ <;> simp only [Builder.perform, ended]
      · exact reached
      · exact reached
      · exact reached.closed
      · exact reached.closed

theorem IsReached.stageFeed {builder : Builder} (reached : builder.IsReached)
    (vocabulary : Vocabulary) (size : Int) (feed : Feed) :
    (builder.stageFeed vocabulary size feed).2.IsReached := by
  suffices kept : ∀ batch, KeptBy IsReached batch from
    putBatches_keeps (fun batch _ => kept batch) _ _ reached
  refine fun batch => ⟨?_, ?_, ?_⟩
  · exact fun _ _ _ _ before staged => before.entity staged
  · exact fun _ _ _ _ before staged => before.edge staged
  · exact fun change _ _ before => before.change change

end Builder

/-- A builder that holds edges alone. -/
def Builder.ofEdges (edges : List Edge) : Builder := { Builder.create 1 true with edges := edges }

/-- Edges with relations can be staged one after the other if no two agree. -/
theorem Builder.isReached_ofEdges {edges : List Edge}
    (related : ∀ edge ∈ edges, edge.relation.toValue.isTruthy = true)
    (differ : edges.Pairwise Edge.Differs) : (ofEdges edges).IsReached := by
  induction edges using List.reverseRecOn with
  | nil => exact .created 1 true
  | append_singleton front edge inductionHypothesis =>
      obtain ⟨frontDiffer, -, apart⟩ := List.pairwise_append.mp differ
      have fresh : front.any edge.agrees = false := List.any_eq_false.mpr fun other member =>
        Bool.eq_false_iff.mp (apart other member edge List.mem_cons_self).symm
      have before := inductionHypothesis
        (fun other member => related other (List.mem_append_left _ member)) frontDiffer
      have staged : (ofEdges front).stageEdge edge = .ok (ofEdges (front ++ [edge])) := by
        rw [stageEdge, if_pos (related edge (by simp)), if_neg (by simpa [ofEdges] using fresh)]
        rfl
      exact before.edge staged

theorem BuilderHistory.run_reached {history : BuilderHistory}
    (reached : history.builder.IsReached) (calls : List BuilderCall) :
    (history.run calls).builder.IsReached := by
  induction calls generalizing history with
  | nil => exact reached
  | cons call rest inductionHypothesis =>
      have next : (history.next call).builder = (history.builder.perform call).2 := by
        cases call <;> rfl
      exact inductionHypothesis (next ▸ reached.perform call)

namespace Snapshot

/-- Stored items are staged like all others. -/
theorem stageStored_reached {α : Type} {convert : Value → Outcome α}
    {stage : Builder → α → Outcome Builder}
    (step : ∀ builder item next, builder.IsReached → stage builder item = .ok next →
      next.IsReached)
    {builder final : Builder} {items : List Value} (reached : builder.IsReached)
    (staged : stageStored convert stage builder items = .ok final) : final.IsReached := by
  induction items generalizing builder with
  | nil => exact Except.ok.inj staged ▸ reached
  | cons item rest inductionHypothesis =>
      unfold stageStored at staged
      split at staged
      · cases staged
      · rename_i next made
        obtain ⟨value, -, stagedNext⟩ := Outcome.bind_ok made
        exact inductionHypothesis (step _ _ _ reached stagedNext) staged

theorem stageFields_reached {vocabulary : Vocabulary} {fields : List (String × Value)}
    {builder : Builder} (staged : stageFields vocabulary fields = .ok builder) :
    builder.IsReached := by
  obtain ⟨generation, -, staged⟩ := Outcome.bind_ok staged
  obtain ⟨entities, -, staged⟩ := Outcome.bind_ok staged
  obtain ⟨first, firstStaged, staged⟩ := Outcome.bind_ok staged
  obtain ⟨edges, -, staged⟩ := Outcome.bind_ok staged
  obtain ⟨second, secondStaged, staged⟩ := Outcome.bind_ok staged
  obtain ⟨changes, -, staged⟩ := Outcome.bind_ok staged
  have firstReached := stageStored_reached (fun _ _ _ before => before.entity)
    (Builder.IsReached.created _ _) firstStaged
  have secondReached := stageStored_reached (fun _ _ _ before => before.edge) firstReached
    secondStaged
  refine stageStored_reached (fun _ change _ before stagedNext => ?_) secondReached staged
  exact Except.ok.inj stagedNext ▸ before.change change

/-- The snapshot is the commit of a builder that can come about. -/
def IsCommitted (snapshot : Snapshot) : Prop :=
  ∃ builder : Builder, builder.IsReached ∧
    ∃ now createdAt, (builder.commit now createdAt).1 = .ok snapshot

/-- Snapshots of records are committed. -/
theorem isCommitted_of_build {setting : Setting} {feed : Feed} {manager : Manager}
    {snapshot : Snapshot} (built : manager.build setting feed = .ok snapshot) :
    snapshot.IsCommitted := by
  have reached := (Builder.IsReached.created manager.nextGeneration true).stageFeed
    setting.vocabulary setting.batchSize feed
  unfold Manager.build at built
  dsimp only at built
  generalize (Builder.create manager.nextGeneration true).stageFeed setting.vocabulary
    setting.batchSize feed = staged at built reached
  obtain ⟨fault | counts, builder⟩ := staged
  · cases built
  · exact ⟨builder, reached, _, _, built⟩

/-- Whatever a new builder is asked to do, the snapshots that it gives are committed. -/
theorem isCommitted_of_run {generation : Int} {external : Bool} {calls : List BuilderCall}
    {now : String} {createdAt : Value} {snapshot : Snapshot}
    (given : (((BuilderHistory.start generation external).run calls).builder.perform
      (.commit now createdAt)).1 = .ok (.committed snapshot)) : snapshot.IsCommitted := by
  have reached := @BuilderHistory.run_reached (BuilderHistory.start generation external)
    (.created generation external) calls
  obtain ⟨made, committed, same⟩ := Outcome.map_ok given
  exact ⟨_, reached, now, createdAt, BuilderAnswer.committed.inj same ▸ committed⟩

/-- Snapshots of stored data are committed. -/
theorem isCommitted_of_ofValue {vocabulary : Vocabulary} {now : String} {data : Value}
    {snapshot : Snapshot} (restored : ofValue vocabulary now data = .ok snapshot) :
    snapshot.IsCommitted := by
  cases data with
  | object fields =>
      change ofFields vocabulary now fields = .ok snapshot at restored
      unfold ofFields at restored
      split at restored
      · cases restored
      · rename_i rebuilt made
        obtain ⟨builder, staged, committed⟩ := Outcome.bind_ok made
        have same : rebuilt = snapshot := by
          unfold checkIdentifier at restored
          split at restored
          · exact absurd restored Value.whenShown_error_ne_ok
          · exact Except.ok.inj restored
        exact ⟨builder, stageFields_reached staged, _, _, same ▸ committed⟩
  | _ => cases restored

variable {snapshot : Snapshot}

/-- The edges of a committed snapshot are sorted ones of which no two agree. -/
theorem IsCommitted.exists_sorted (committed : snapshot.IsCommitted) :
    ∃ edges : List Edge, edges.Pairwise Edge.Differs ∧ Edge.incomparable? edges = none ∧
      snapshot.edges = Order.sort Edge.precedes edges := by
  obtain ⟨builder, reached, now, createdAt, made⟩ := committed
  obtain ⟨-, -, shown, -⟩ := Builder.commit_ok made
  have sorted := shown.sorted
  refine ⟨builder.edges, reached.differ, ?_⟩
  unfold Edge.sort at sorted
  split at sorted
  · cases sorted
  · rename_i none
    exact ⟨none, (Except.ok.inj sorted).symm⟩

/-- No two edges of a committed snapshot agree. -/
theorem IsCommitted.differ (committed : snapshot.IsCommitted) :
    snapshot.edges.Pairwise Edge.Differs := by
  obtain ⟨edges, differ, -, sorted⟩ := committed.exists_sorted
  rw [sorted]
  exact differ.perm (Order.sort_perm _ _).symm Edge.Differs.symm

/-- The edges of a committed snapshot stand in the order of their ends. -/
theorem IsCommitted.pairwise_ends (committed : snapshot.IsCommitted) :
    snapshot.edges.Pairwise Edge.EndsBefore := by
  obtain ⟨edges, -, -, sorted⟩ := committed.exists_sorted
  rw [sorted]
  exact Edge.pairwise_sort_ends edges

/-- Every edge of a committed snapshot has a relation. -/
theorem IsCommitted.related (committed : snapshot.IsCommitted) :
    ∀ edge ∈ snapshot.edges, edge.relation.toValue.isTruthy = true := by
  obtain ⟨builder, reached, now, createdAt, made⟩ := committed
  obtain ⟨-, -, shown, -⟩ := Builder.commit_ok made
  exact fun edge member => reached.related edge (Edge.mem_of_mem_sort shown.sorted member)

/-- Any two edges of a committed snapshot can be compared. -/
theorem IsCommitted.comparable (committed : snapshot.IsCommitted) :
    ∀ first ∈ snapshot.edges, ∀ second ∈ snapshot.edges, first ≠ second →
      first.comparable second = true := by
  obtain ⟨edges, -, none, sorted⟩ := committed.exists_sorted
  have : Std.Symm fun first second : Edge => second.comparable first = true :=
    ⟨fun _ _ => Edge.comparable_symm⟩
  intro first former second latter apart
  rw [sorted, Order.mem_sort] at former latter
  exact Edge.comparable_symm
    ((Edge.incomparable?_eq_none_iff.mp none).forall former latter apart)

/-- The edges of a committed snapshot are in a strict order unless the relation of one is a NaN. -/
theorem IsCommitted.isStrict (committed : snapshot.IsCommitted)
    (ordered : ∀ edge ∈ snapshot.edges, edge.relation.IsOrdered) :
    Order.IsStrict Edge.precedes (· ∈ snapshot.edges) :=
  Edge.precedes_strict_of_mem ordered committed.comparable
    fun _ former _ latter apart => committed.differ.forall former latter apart

/-- The edges of a committed snapshot grow strictly unless the relation of one is a NaN. -/
theorem IsCommitted.pairwise_precedes (committed : snapshot.IsCommitted)
    (ordered : ∀ edge ∈ snapshot.edges, edge.relation.IsOrdered) :
    snapshot.edges.Pairwise fun first second => first.precedes second = true := by
  have strict := committed.isStrict ordered
  obtain ⟨edges, differ, -, sorted⟩ := committed.exists_sorted
  rw [sorted] at strict ⊢
  exact Order.sort_increasing strict (fun _ member => Order.mem_sort.mpr member)
    (Edge.nodup_of_differ differ)

/-- Different edges between external ends, whose relations are texts that are not empty, make up a
snapshot. -/
theorem exists_committed (edges : List Edge)
    (related : ∀ edge ∈ edges, ∃ relation, edge.relation = .text relation ∧ relation ≠ "")
    (differ : edges.Pairwise Edge.Differs)
    (outside : ∀ edge ∈ edges, edge.source.isExternal = true ∧ edge.target.isExternal = true) :
    ∃ snapshot : Snapshot, snapshot.IsCommitted ∧
      snapshot.entities = (Builder.ofEdges edges).materialized ∧
      snapshot.edges = Order.sort Edge.precedes edges ∧ snapshot.changeSets = Table.empty := by
  have named : ∀ edge ∈ edges, edge.IsNamed := fun edge member =>
    (related edge member).imp fun _ => And.left
  have reached : (Builder.ofEdges edges).IsReached := by
    refine Builder.isReached_ofEdges (fun edge member => ?_) differ
    obtain ⟨relation, isText, filled⟩ := related edge member
    rw [isText]
    simpa [Atom.toValue, Value.isTruthy] using filled
  have committable : (Builder.ofEdges edges).IsCommittable := {
    generation := Decimal.isWritable_of_lt (n := 1) (by decide)
    serialisable := fun _ member => absurd member List.not_mem_nil
    named := named
    distinct := Edge.nodup_of_differ differ }
  have closed : (Builder.ofEdges edges).IsClosed := by
    intro address member
    obtain ⟨edge, inside, isEnd⟩ := List.mem_flatMap.mp member
    have external := outside edge inside
    rcases List.mem_pair.mp isEnd with rfl | rfl
    · exact Or.inr ⟨external.1, rfl⟩
    · exact Or.inr ⟨external.2, rfl⟩
  obtain ⟨snapshot, committed⟩ :=
    (Builder.commit_succeeds_iff committable rfl "now" .null).mpr closed
  have made := congrArg Prod.fst committed
  obtain ⟨-, -, shown, -⟩ := Builder.commit_ok made
  refine ⟨snapshot, ⟨_, reached, "now", .null, made⟩, shown.entities, ?_, shown.changeSets⟩
  exact Except.ok.inj (shown.sorted.symm.trans (Edge.sort_named named))

/-- A function outside the source tree. -/
def recursiveAddress : Address := ⟨.python, .function, "recur", .external, by decide⟩

/-- The function is tied to itself. -/
def recursiveEdge (relation : String) : Edge := ⟨recursiveAddress, recursiveAddress, .text relation⟩

end Snapshot

end CodeGraph

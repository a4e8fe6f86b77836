import CodeGraph.Proofs.BuiltSnapshot
import CodeGraph.Proofs.ClusterPartition
import CodeGraph.Proofs.FaultKinds
import CodeGraph.Proofs.KeyGrammar
import CodeGraph.Report.BlastRadius
import CodeGraph.Report.ContextSelection
import CodeGraph.Report.Coupling
import CodeGraph.Report.Hotspots
import CodeGraph.Report.Neighbors
import CodeGraph.Report.Search

/-!
This file says how reports fail. On a snapshot with texts for paths and relations, and with bounds
that are numbers, no report ends in a defect.
-/

namespace CodeGraph

/-- A fault that an answer can tell. -/
def Fault.IsAnswerable (fault : Fault) : Prop := fault.isDefect = false

theorem refuse_isAnswerable {α : Type} (refusal : Refusal) :
    FailsWithin Fault.IsAnswerable (refuse refusal : Outcome α) := FailsWithin.error rfl

theorem Outcome.OnlyRefuses.isAnswerable {α : Type} {outcome : Outcome α}
    (only : OnlyRefuses outcome) : FailsWithin Fault.IsAnswerable outcome := by
  intro fault failed
  obtain ⟨refusal, rfl⟩ := only fault failed
  rfl

/-- What gives a value does not fail. -/
theorem FailsWithin.of_exists {ε α : Type} {kind : ε → Prop} {computed : Except ε α}
    (given : ∃ value, computed = .ok value) : FailsWithin kind computed := by
  obtain ⟨value, rfl⟩ := given
  exact ok value

open FailsWithin

namespace Snapshot

theorem entityAt_isAnswerable (snapshot : Snapshot) (address : Address) :
    FailsWithin Fault.IsAnswerable (snapshot.entityAt address) := by
  unfold entityAt
  split
  · exact ok _
  · exact error rfl

theorem resolve_isAnswerable (vocabulary : Vocabulary) (snapshot : Snapshot) (key : Value) :
    FailsWithin Fault.IsAnswerable (resolve vocabulary snapshot key) := by
  apply (Address.parse_onlyRefuses vocabulary key).isAnswerable.bind
  intro address _
  exact (entityAt_isAnswerable snapshot address).bind fun _ _ => ok _

theorem get_isAnswerable (vocabulary : Vocabulary) (snapshot : Snapshot) (key : Value) :
    FailsWithin Fault.IsAnswerable (get vocabulary snapshot key) :=
  (Address.parse_onlyRefuses vocabulary key).isAnswerable.bind fun address _ =>
    entityAt_isAnswerable snapshot address

/-- An entity that is found is one of the snapshot. -/
theorem mem_of_get {vocabulary : Vocabulary} {snapshot : Snapshot} {key : Value} {entity : Entity}
    (found : get vocabulary snapshot key = .ok entity) : entity ∈ snapshot.entities.rows := by
  obtain ⟨address, -, found⟩ := Outcome.bind_ok found
  unfold entityAt entity? at found
  split at found
  · rename_i other inside
    rw [← Except.ok.inj found]
    exact List.mem_of_find?_eq_some inside
  · cases found

/-- Filters that can be shown are never at fault, since an unknown word is refused. -/
theorem listEntities_onlyRefuses (vocabulary : Vocabulary) (snapshot : Snapshot)
    {kind language : Value} (kindShown : kind.CanBeShown) (languageShown : language.CanBeShown) :
    Outcome.OnlyRefuses (listEntities vocabulary snapshot kind language) := by
  have ofKind (language : Option Language) : Outcome.OnlyRefuses (do
      let kind ←
        if kind.isTruthy then (vocabulary.normalizeKind language kind).map some else pure none
      return snapshot.entitiesOf kind language) := by
    dsimp only
    split
    · have normal := Address.normalizeKind_onlyRefuses vocabulary language kindShown
      exact (normal.map some).bind fun _ _ => Outcome.ok_onlyRefuses _
    · exact Outcome.ok_onlyRefuses _
  unfold listEntities
  dsimp only
  split
  · have normal := Address.normalizeLanguage_onlyRefuses languageShown
    exact (normal.map some).bind fun language _ => ofKind language
  · exact ofKind none

end Snapshot

/-- The value is a number or a truth value. A NaN is a number too. -/
def Value.IsNumber (value : Value) : Prop :=
  ∃ atom, Atom.ofValue? value = some atom ∧ atom.isNumber = true

theorem Value.compareNumbers_eq {first second : Value} {left right : Atom}
    (isLeft : Atom.ofValue? first = some left) (isRight : Atom.ofValue? second = some right)
    (leftNumber : left.isNumber = true) (rightNumber : right.isNumber = true) (operator : String) :
    compareNumbers operator first second = .ok (left.compareNumbers? right) := by
  unfold compareNumbers
  rw [isLeft, isRight]
  dsimp only
  rw [if_pos (by rw [leftNumber, rightNumber]; rfl)]

/-- Two numbers can be compared. -/
theorem Value.exists_compareNumbers {first second : Value} (isFirst : first.IsNumber)
    (isSecond : second.IsNumber) (operator : String) :
    ∃ order, compareNumbers operator first second = .ok order := by
  obtain ⟨left, isLeft, leftNumber⟩ := isFirst
  obtain ⟨right, isRight, rightNumber⟩ := isSecond
  exact ⟨_, compareNumbers_eq isLeft isRight leftNumber rightNumber operator⟩

namespace Relative

theorem callers_isAnswerable (vocabulary : Vocabulary) (snapshot : Snapshot) (key : Value) :
    FailsWithin Fault.IsAnswerable (callers vocabulary snapshot key) := by
  apply (Snapshot.resolve_isAnswerable vocabulary snapshot key).bind
  intro address _
  exact mapM fun neighbor _ => (Snapshot.entityAt_isAnswerable snapshot neighbor.address).map _

theorem callees_isAnswerable (vocabulary : Vocabulary) (snapshot : Snapshot) (key : Value) :
    FailsWithin Fault.IsAnswerable (callees vocabulary snapshot key) := by
  apply (Snapshot.resolve_isAnswerable vocabulary snapshot key).bind
  intro address _
  exact mapM fun neighbor _ => (Snapshot.entityAt_isAnswerable snapshot neighbor.address).map _

end Relative

namespace SearchPage

variable {threshold : Value}

/-- Names are compared with a threshold that is a number. -/
theorem exists_measureMatch (isNumber : threshold.IsNumber) (query name : String) :
    ∃ rating, Match.measure threshold query name = .ok rating := by
  unfold Match.measure Match.ofLowered Match.reaches
  split
  · exact ⟨_, rfl⟩
  · split
    · exact ⟨_, rfl⟩
    · split
      · exact ⟨_, rfl⟩
      · obtain ⟨order, compared⟩ := @Value.exists_compareNumbers
          (.float (Text.similarity (Text.lower query.toList) (Text.lower name.toList)))
          threshold ⟨_, rfl, rfl⟩ isNumber ">="
        dsimp only
        rw [compared]
        exact ⟨_, rfl⟩

theorem exists_collect (isNumber : threshold.IsNumber) (query : String)
    (entities : List Entity) : ∃ hits, collect threshold query entities = .ok hits := by
  induction entities with
  | nil => exact ⟨[], rfl⟩
  | cons entity rest inductionHypothesis =>
      obtain ⟨rating, rated⟩ := exists_measureMatch isNumber query entity.address.name
      obtain ⟨hits, collected⟩ := inductionHypothesis
      unfold collect
      rw [rated, collected]
      exact ⟨_, rfl⟩

theorem measure_isAnswerable (snapshot : Snapshot) (query : String) (limit : Option Nat) :
    FailsWithin Fault.IsAnswerable (measure snapshot Match.defaultThreshold query limit) :=
  ((of_exists (exists_collect ⟨_, rfl, rfl⟩ query snapshot.entities.rows)).map _).map _

theorem ofRequest_isAnswerable (snapshot : Snapshot) (query : Value) {limit : Value}
    (shown : limit.CanBeShown) :
    FailsWithin Fault.IsAnswerable (ofRequest snapshot query limit Match.defaultThreshold) := by
  unfold ofRequest
  split
  · exact refuse_isAnswerable _
  · split
    · exact measure_isAnswerable _ _ _
    · split
      · rw [Value.whenShown_of shown]
        exact refuse_isAnswerable _
      · exact measure_isAnswerable _ _ _

end SearchPage

/-- A cap has to be a whole number or missing. -/
theorem BlastRadius.ofRequest_isAnswerable (vocabulary : Vocabulary) (snapshot : Snapshot)
    (key : Value) {hops direction cap : Value} (hopsShown : hops.CanBeShown)
    (directionShown : direction.CanBeShown) (capped : Cap.ofValue? cap ≠ none) :
    FailsWithin Fault.IsAnswerable (ofRequest vocabulary snapshot key hops direction cap) := by
  unfold ofRequest
  rw [Value.whenShown_of hopsShown, Value.whenShown_of directionShown]
  split
  · exact refuse_isAnswerable _
  · split
    · exact refuse_isAnswerable _
    · apply (Snapshot.resolve_isAnswerable vocabulary snapshot key).bind
      intro source _
      split
      · exact ok _
      · contradiction

theorem Hotspot.ofRequest_isAnswerable (snapshot : Snapshot) {top : Value}
    (shown : top.CanBeShown) : FailsWithin Fault.IsAnswerable (ofRequest snapshot top) := by
  unfold ofRequest
  rw [Value.whenShown_of shown]
  split
  · exact ok _
  · exact refuse_isAnswerable _

/-- Entities whose paths are texts have modules. -/
theorem Homes.exists_ofEntities {entities : List Entity}
    (paths : ∀ entity ∈ entities, ∃ path, entity.filePath = .text path) :
    ∃ homes, ofEntities entities = .ok homes :=
  exists_ofEntities_iff.mpr fun entity member _ => paths entity member

theorem Clustering.ofRequest_isAnswerable {snapshot : Snapshot} (texts : snapshot.HasTexts)
    {threshold : Value} (shown : threshold.CanBeShown) :
    FailsWithin Fault.IsAnswerable (ofRequest snapshot threshold) := by
  unfold ofRequest
  rw [Value.whenShown_of shown]
  split
  · exact (of_exists (Homes.exists_ofEntities texts.paths)).map _
  · exact refuse_isAnswerable _

theorem ContextSelection.ofRequest_isAnswerable (vocabulary : Vocabulary) (snapshot : Snapshot)
    (focus : Value) {budget maxDepth : Value} (budgetShown : budget.CanBeShown)
    (depthShown : maxDepth.CanBeShown) :
    FailsWithin Fault.IsAnswerable (ofRequest vocabulary snapshot focus budget maxDepth) := by
  unfold ofRequest
  rw [Value.whenShown_of budgetShown, Value.whenShown_of depthShown]
  split
  · exact refuse_isAnswerable _
  · split
    · exact refuse_isAnswerable _
    · apply (Snapshot.resolve_isAnswerable vocabulary snapshot focus).bind
      intro address _
      apply FailsWithin.map
      apply FailsWithin.mapM
      intro candidate _
      exact (Snapshot.entityAt_isAnswerable snapshot candidate.address).map _

namespace CouplingReport

variable {snapshot : Snapshot} {strength : Binary64} {count : Int}

/-- A coupling is compared with bounds that are numbers. -/
theorem exists_qualifies (strength : Binary64) (count : Int) (coChanges changeCount : Nat) :
    ∃ wanted, qualifies (.float strength) (.int count) coChanges changeCount = .ok wanted := by
  obtain ⟨rare, counted⟩ := @Value.exists_compareNumbers (.int coChanges) (.int count)
    ⟨_, rfl, rfl⟩ ⟨_, rfl, rfl⟩ "<"
  obtain ⟨weak, weighed⟩ := @Value.exists_compareNumbers
    (.float (strengthOf coChanges changeCount)) (.float strength) ⟨_, rfl, rfl⟩ ⟨_, rfl, rfl⟩ "<"
  unfold qualifies isBelow
  rw [counted, weighed]
  simp only [Except.map, Outcome.ok_bind]
  split <;> exact ⟨_, rfl⟩

/-- Files are collected if the bounds can be compared. -/
theorem exists_collect {minStrength minCoChanges : Value}
    (grouped : ∃ files, snapshot.files = .ok files)
    (compared : ∀ coChanges changeCount, ∃ wanted,
      qualifies minStrength minCoChanges coChanges changeCount = .ok wanted)
    (own : Atom) (changes : List ChangeSet) (paths : List String) :
    ∃ coupled, collect snapshot own changes minStrength minCoChanges paths = .ok coupled := by
  obtain ⟨files, grouped⟩ := grouped
  induction paths with
  | nil => exact ⟨[], rfl⟩
  | cons path rest inductionHypothesis =>
      obtain ⟨wanted, qualified⟩ := compared (touching changes path) changes.length
      obtain ⟨coupled, collected⟩ := inductionHypothesis
      unfold collect
      dsimp only
      rw [qualified, grouped, collected]
      simp only [Outcome.ok_bind]
      split <;> exact ⟨_, rfl⟩

theorem ofRequest_isAnswerable (texts : snapshot.HasTexts) (vocabulary : Vocabulary)
    (key : Value) (strength : Binary64) (count : Int) :
    FailsWithin Fault.IsAnswerable
      (ofRequest vocabulary snapshot key (.float strength) (.int count)) := by
  apply (Snapshot.get_isAnswerable vocabulary snapshot key).bind
  intro entity found
  unfold measure
  dsimp only
  split
  · exact ok _
  · obtain ⟨path, isText⟩ := texts.paths entity (Snapshot.mem_of_get found)
    obtain ⟨coupled, collected⟩ := exists_collect texts.files (exists_qualifies strength count)
      (.text path) (relevant snapshot (.text path))
      (otherFiles (relevant snapshot (.text path)) (.text path))
    rw [isText]
    apply of_exists
    change ∃ report, (collect _ _ _ _ _ _ >>= _) = .ok report
    rw [collected]
    exact ⟨_, rfl⟩

end CouplingReport

end CodeGraph

import CodeGraph.Proofs.Durability
import CodeGraph.Proofs.IndexedSnapshot
import CodeGraph.Proofs.LockDiscipline
import CodeGraph.Proofs.Serving

/-!
This file compares a manager over a snapshot file with a manager over the memory. Whatever is done
with both of them, the same is seen.
-/

namespace CodeGraph

/-- What is done with a manager. After a restart a new manager works on the same storage. -/
inductive ManagerStep where
  | index (setting : Setting) (feed : Feed)
  | load (vocabulary : Vocabulary) (now : String)
  | restart
  | current
  | generation
  | hasSnapshot

/-- A snapshot that is indexed by the step can be stored, and the time of the step is known. -/
def ManagerStep.IsStorable : ManagerStep → Prop
  | .index setting feed =>
      setting.now ≠ "" ∧ feed.IsWellFormed ∧
        ∀ delivery ∈ feed.deliveries, delivery.IsStorable setting.vocabulary
  | _ => True

/-- What is seen of a step. -/
inductive Observation where
  | indexed (outcome : Outcome Snapshot)
  | loaded (outcome : Outcome (Option Snapshot))
  | restarted
  | current (outcome : Outcome Snapshot)
  | generation (number : Int)
  | hasSnapshot (present : Bool)

/-- The observation without the marks of numbers that are not a number. -/
def Observation.unmarked : Observation → Observation
  | .indexed outcome => .indexed (outcome.map Snapshot.unmarked)
  | .loaded outcome => .loaded (outcome.map (Option.map Snapshot.unmarked))
  | .restarted => .restarted
  | .current outcome => .current (outcome.map Snapshot.unmarked)
  | .generation number => .generation number
  | .hasSnapshot present => .hasSnapshot present

namespace Managed

variable {σ : Type}

/-- What is seen of a step, and the manager after it. The storage is reached with the words and the
time of the step. -/
def take (access : Vocabulary → String → Storage σ) (managed : Managed σ) :
    ManagerStep → Observation × Managed σ
  | .index setting feed =>
      let done := managed.index setting (access setting.vocabulary setting.now) feed
      (.indexed done.1, done.2)
  | .load vocabulary now =>
      let done := managed.load (access vocabulary now)
      (.loaded done.1, done.2)
  | .restart => (.restarted, ⟨Manager.initial, managed.state⟩)
  | .current => (.current managed.manager.current, managed)
  | .generation => (.generation managed.manager.generation, managed)
  | .hasSnapshot => (.hasSnapshot managed.manager.hasSnapshot, managed)

/-- What is seen of all steps, one after the other. -/
def observe (access : Vocabulary → String → Storage σ) (managed : Managed σ) :
    List ManagerStep → List Observation
  | [] => []
  | step :: rest =>
      (managed.take access step).1 :: observe access (managed.take access step).2 rest

end Managed

namespace SnapshotFile

/-- Nothing is stored yet, but it can be: the directory of the file can be made, and then files can
be put at all places and the lock is free. -/
structure IsFresh (file : SnapshotFile) (disk : Disk) : Prop where
  absent : disk.contains file.path = false
  ready : ∃ made places, disk.makeFoldedDirectory file.path = (.ok (), made) ∧
    file.IsOpen made places

/-- The file holds what the memory holds. -/
def Holds (file : SnapshotFile) (disk : Disk) : Option Snapshot → Prop
  | none => file.IsFresh disk
  | some snapshot => snapshot.IsSound ∧ snapshot.IsDurable ∧
      ∃ places, file.IsIdle disk places ∧ disk.node? places.path = some (document snapshot)

variable {file : SnapshotFile} {disk : Disk} {held : Option Snapshot}

/-- An idle file is fresh if it is not there. -/
theorem IsIdle.isFresh {places : Places} (idle : file.IsIdle disk places)
    (absent : disk.node? places.path = none) : file.IsFresh disk where
  absent := by
    unfold Disk.contains Disk.find?
    simp only [idle.ready.path, absent]
    rfl
  ready := ⟨disk, places, Disk.makeFoldedDirectory_of_present idle.ready.directory, idle.isOpen⟩

/-- A snapshot that is sound and durable can be saved, and it is held from then on. -/
theorem Holds.save (slashless : '/' ∉ file.claimant.toList) (holds : file.Holds disk held)
    {snapshot : Snapshot} (sound : snapshot.IsSound) (durable : snapshot.IsDurable) :
    (file.save snapshot disk).1 = .ok () ∧
      file.Holds (file.save snapshot disk).2 (some snapshot) := by
  have writable := durable.toValue_isWritable sound
  have saved : (file.save snapshot disk).1 = .ok () := by
    cases held with
    | none =>
        obtain ⟨made, places, directory, isOpen⟩ := holds.ready
        have apart := isOpen.ready.apart slashless (Disk.not_standing_of_file isOpen.plain)
        exact isOpen.save apart directory writable
    | some earlier =>
        obtain ⟨-, -, places, idle, -⟩ := holds
        exact idle.save writable
  exact ⟨saved, sound, durable, isIdle_of_save slashless saved⟩

/-- What the memory holds is loaded, and it is held afterwards. -/
theorem Holds.load (vocabulary : Vocabulary) (now : String) (holds : file.Holds disk held) :
    (file.load vocabulary now disk).1 = .ok (held.map Snapshot.unmarked) ∧
      file.Holds (file.load vocabulary now disk).2 held := by
  cases held with
  | none =>
      have loaded : file.load vocabulary now disk = (.ok none, disk) := by
        unfold SnapshotFile.load
        rw [holds.absent]
        rfl
      rw [loaded]
      exact ⟨rfl, holds⟩
  | some snapshot =>
      obtain ⟨sound, durable, places, idle, found⟩ := holds
      obtain ⟨left, loaded, stillIdle, kept⟩ := idle.load vocabulary now found
      rw [loaded, (restored_iff file vocabulary now sound).mpr durable]
      exact ⟨rfl, sound, durable, places, stillIdle, kept⟩

end SnapshotFile

/-- What a manager builds depends on its generation only. -/
theorem Manager.build_congr {first second : Manager} (same : first.generation = second.generation)
    (setting : Setting) (feed : Feed) : first.build setting feed = second.build setting feed := by
  unfold build nextGeneration
  rw [same]

/-- Managers over the file and over the memory that differ in marks only. -/
structure Managed.Mirrors (file : SnapshotFile) (filed : Managed Disk)
    (kept : Managed (Option Snapshot)) : Prop where
  generation : filed.manager.generation = kept.manager.generation
  served : filed.manager.served.map Snapshot.unmarked =
    kept.manager.served.map Snapshot.unmarked
  holds : file.Holds filed.state kept.state

namespace Managed.Mirrors

variable {file : SnapshotFile} {filed : Managed Disk} {kept : Managed (Option Snapshot)}

/-- The same snapshot is served from now on, but for its marks. -/
theorem serve (mirrors : Mirrors file filed kept) {first second : Snapshot}
    (same : first.unmarked = second.unmarked) {disk : Disk} {held : Option Snapshot}
    (holds : file.Holds disk held) :
    Mirrors file ⟨filed.manager.serve first, disk⟩ ⟨kept.manager.serve second, held⟩ where
  generation := by
    have generations : first.unmarked.generation = second.unmarked.generation :=
      congrArg Snapshot.generation same
    change max filed.manager.generation first.unmarked.generation =
      max kept.manager.generation second.unmarked.generation
    rw [mirrors.generation, generations]
  served := congrArg some same
  holds := holds

/-- An indexing gives the same over both. -/
theorem index (slashless : '/' ∉ file.claimant.toList) (mirrors : Mirrors file filed kept)
    {setting : Setting} (stamped : setting.now ≠ "") {feed : Feed} (wellFormed : feed.IsWellFormed)
    (storable : ∀ delivery ∈ feed.deliveries, delivery.IsStorable setting.vocabulary)
    (vocabulary : Vocabulary) (now : String) :
    (filed.index setting (Storage.file vocabulary now file) feed).1 =
        (kept.index setting Storage.memory feed).1 ∧
      Mirrors file (filed.index setting (Storage.file vocabulary now file) feed).2
        (kept.index setting Storage.memory feed).2 := by
  have same := Manager.build_congr mirrors.generation setting feed
  unfold Managed.index
  cases built : kept.manager.build setting feed with
  | error fault =>
      rw [same, built]
      exact ⟨rfl, mirrors⟩
  | ok snapshot =>
      have sound := Manager.build_isSound wellFormed stamped built
      obtain ⟨saved, holds⟩ :=
        mirrors.holds.save slashless sound (Manager.build_isDurable storable built)
      rw [same, built]
      simp only [Storage.file, Storage.memory]
      rcases done : file.save snapshot filed.state with ⟨outcome, left⟩
      rw [done] at saved holds
      cases saved
      exact ⟨rfl, mirrors.serve rfl holds⟩

/-- A load gives the same over both, but for the marks. -/
theorem load (mirrors : Mirrors file filed kept) (vocabulary : Vocabulary) (now : String) :
    (filed.load (Storage.file vocabulary now file)).1 =
        (kept.load Storage.memory).1.map (Option.map Snapshot.unmarked) ∧
      Mirrors file (filed.load (Storage.file vocabulary now file)).2
        (kept.load Storage.memory).2 := by
  obtain ⟨loaded, holds⟩ := mirrors.holds.load vocabulary now
  unfold Managed.load
  simp only [Storage.file, Storage.memory]
  rcases done : file.load vocabulary now filed.state with ⟨outcome, left⟩
  rw [done] at loaded holds
  cases loaded
  rcases state : kept.state with _ | snapshot
  · rw [state] at holds
    exact ⟨rfl, mirrors.generation, mirrors.served, holds⟩
  · rw [state] at holds
    exact ⟨rfl, mirrors.serve snapshot.unmarked_unmarked holds⟩

/-- The current snapshot is the same over both, but for the marks. -/
theorem current (mirrors : Mirrors file filed kept) :
    filed.manager.current.map Snapshot.unmarked = kept.manager.current.map Snapshot.unmarked := by
  have served := mirrors.served
  unfold Manager.current
  cases first : filed.manager.served <;> cases second : kept.manager.served <;>
    simp only [first, second, Option.map_none, Option.map_some, reduceCtorEq,
      Option.some.injEq] at served
  · rfl
  · simp only [Except.map, served]

theorem hasSnapshot (mirrors : Mirrors file filed kept) :
    filed.manager.hasSnapshot = kept.manager.hasSnapshot := by
  have present := congrArg Option.isSome mirrors.served
  rw [Option.isSome_map, Option.isSome_map] at present
  exact present

/-- The same is seen of a step over both, but for the marks, and they stay alike. -/
theorem take (slashless : '/' ∉ file.claimant.toList) (mirrors : Mirrors file filed kept)
    {step : ManagerStep} (storable : step.IsStorable) :
    (filed.take (fun vocabulary now => Storage.file vocabulary now file) step).1.unmarked =
        (kept.take (fun _ _ => Storage.memory) step).1.unmarked ∧
      Mirrors file (filed.take (fun vocabulary now => Storage.file vocabulary now file) step).2
        (kept.take (fun _ _ => Storage.memory) step).2 := by
  cases step with
  | index setting feed =>
      obtain ⟨stamped, wellFormed, deliveries⟩ := storable
      obtain ⟨same, alike⟩ := mirrors.index slashless stamped wellFormed deliveries
        setting.vocabulary setting.now
      exact ⟨congrArg (fun outcome => (Observation.indexed outcome).unmarked) same, alike⟩
  | load vocabulary now =>
      obtain ⟨same, alike⟩ := mirrors.load vocabulary now
      refine ⟨?_, alike⟩
      simp only [Managed.take, Observation.unmarked, same]
      rcases (kept.load Storage.memory).1 with fault | _ | snapshot
      · rfl
      · rfl
      · simp only [Except.map, Option.map_some, Snapshot.unmarked_unmarked]
  | restart => exact ⟨rfl, rfl, rfl, mirrors.holds⟩
  | current => exact ⟨congrArg Observation.current mirrors.current, mirrors⟩
  | generation => exact ⟨congrArg Observation.generation mirrors.generation, mirrors⟩
  | hasSnapshot => exact ⟨congrArg Observation.hasSnapshot mirrors.hasSnapshot, mirrors⟩

/-- The same is seen of all steps over both, but for the marks. -/
theorem observe (slashless : '/' ∉ file.claimant.toList) (mirrors : Mirrors file filed kept)
    {steps : List ManagerStep} (storable : ∀ step ∈ steps, step.IsStorable) :
    (filed.observe (fun vocabulary now => Storage.file vocabulary now file) steps).map
        Observation.unmarked =
      (kept.observe (fun _ _ => Storage.memory) steps).map Observation.unmarked := by
  induction steps generalizing filed kept with
  | nil => rfl
  | cons step rest inductionHypothesis =>
      obtain ⟨same, alike⟩ := mirrors.take slashless (storable step List.mem_cons_self)
      simp only [Managed.observe, List.map_cons, same]
      rw [inductionHypothesis alike fun other member =>
        storable other (List.mem_cons_of_mem _ member)]

end Managed.Mirrors

/-- Whatever is done with a new manager over a file in which nothing is stored yet, the same is seen
as over the memory, but for the marks of numbers that are not a number: the same snapshots, the same
generations and the same faults. What is indexed must be storable, and files can be put at all
places beside the file. -/
theorem Managed.observe_file_eq_memory {file : SnapshotFile}
    (slashless : '/' ∉ file.claimant.toList) {disk : Disk} (fresh : file.IsFresh disk)
    {steps : List ManagerStep} (storable : ∀ step ∈ steps, step.IsStorable) :
    (Managed.observe (fun vocabulary now => Storage.file vocabulary now file)
        ⟨Manager.initial, disk⟩ steps).map Observation.unmarked =
      (Managed.observe (fun _ _ => Storage.memory) ⟨Manager.initial, none⟩ steps).map
        Observation.unmarked := by
  have mirrors : Mirrors file ⟨Manager.initial, disk⟩ ⟨Manager.initial, none⟩ := ⟨rfl, rfl, fresh⟩
  exact mirrors.observe slashless storable

/-- An entity is indexed in a file on an empty disk and loaded by a new manager, and then a document
that is none is refused. -/
theorem Managed.observe_file_eq_memory_restarted :
    let setting : Setting := ⟨Vocabulary.initial, "2024-01-02", 1000⟩
    let record : Value := .object [("language", .text "python"),
      ("entity_type", .text "function"), ("name", .text "f"), ("file_path", .text "a.py"),
      ("line_range", .list [.int 1, .int 2]), ("metadata", .object [("k", .int 1)])]
    let feed : Feed := ⟨[⟨.text "entity", record⟩], none⟩
    let steps : List ManagerStep := [.load Vocabulary.initial "2024-01-02", .index setting feed,
      .restart, .load Vocabulary.initial "2024-01-03", .current,
      .index setting (Feed.ofDocument .null), .generation, .hasSnapshot]
    let file : SnapshotFile := ⟨"s.json", "7.1"⟩
    '/' ∉ file.claimant.toList ∧ file.IsFresh (Disk.empty 0) ∧
      (∀ step ∈ steps, step.IsStorable) ∧
      (Managed.observe (fun vocabulary now => Storage.file vocabulary now file)
          ⟨Manager.initial, Disk.empty 0⟩ steps).map Observation.unmarked =
        (Managed.observe (fun _ _ => Storage.memory) ⟨Manager.initial, none⟩ steps).map
          Observation.unmarked := by
  intro setting record feed steps file
  have slashless : '/' ∉ file.claimant.toList := by decide
  have fresh : file.IsFresh (Disk.empty 0) := SnapshotFile.empty_isIdle.isFresh rfl
  have indexed : (ManagerStep.index setting feed).IsStorable := by
    refine ⟨by decide, ?_, ?_⟩
    · intro delivery member
      rw [List.mem_singleton.mp member]
      exact ⟨by simp [record, Value.HasDoubles, Value.FieldsHaveDoubles, Value.ItemsHaveDoubles],
        by simp [record, Value.HasDistinctNames, Value.FieldsHaveDistinctNames,
          Value.ItemsHaveDistinctNames]⟩
    · intro delivery member
      rw [List.mem_singleton.mp member]
      obtain ⟨entity, made, small⟩ := @Outcome.exists_of_any _
        (Entity.ofRecord setting.vocabulary record)
        (fun entity => decide (entity.lastLine < 10 ^ 10) &&
          entity.metadata.entries.all fun entry => entry.1.isText &&
            entry.2.writeDefect? 0 == none)
        (by decide +kernel)
      simp only [Bool.and_eq_true, decide_eq_true_eq, List.all_eq_true, beq_iff_eq] at small
      obtain ⟨lines, entries⟩ := small
      refine ⟨fun other given => ?_, fun other given => ?_, fun other given => ?_,
        fun change given => ?_⟩
      · cases made.symm.trans given.2
        exact lines
      · cases made.symm.trans given.2
        exact fun entry inside => (entries entry inside).1
      · cases made.symm.trans given.2
        exact Metadata.toValue_isWritable (by decide) fun entry inside =>
          (Value.IsWritable.mk (entries entry inside).2).mono _ (Nat.zero_le _)
      · cases given.1
  have storable : ∀ step ∈ steps, step.IsStorable := by
    intro step member
    simp only [steps, List.mem_cons, List.not_mem_nil, or_false] at member
    rcases member with rfl | rfl | rfl | rfl | rfl | rfl | rfl | rfl
    · trivial
    · exact indexed
    · trivial
    · trivial
    · trivial
    · exact ⟨by decide, fun _ none => absurd none List.not_mem_nil,
        fun _ none => absurd none List.not_mem_nil⟩
    · trivial
    · trivial
  exact ⟨slashless, fresh, storable, Managed.observe_file_eq_memory slashless fresh storable⟩

/-- If the name of the file leaves no room for the claim to its lock, nothing is saved. -/
theorem SnapshotFile.longFile_unsaved (snapshot : Snapshot) :
    (longFile.save snapshot (Disk.empty 17)).1 ≠ .ok () := by
  intro saved
  obtain ⟨made, locked, directory, acquired, -⟩ := of_save saved
  cases longFile_made.symm.trans directory
  exact longFile_unacquired (congrArg Prod.fst acquired)

/-- If the name of the file leaves no room for the claim to its lock, an indexing fails over the
file although the directory is there and nothing stands in it, and it succeeds over the memory. -/
theorem Managed.observe_longFile :
    let setting : Setting := ⟨Vocabulary.initial, "2024-01-02", 1000⟩
    let steps : List ManagerStep := [.index setting Feed.empty]
    let file := SnapshotFile.longFile
    (Disk.empty 17).makeFoldedDirectory file.path = (.ok (), Disk.empty 17) ∧
      (∀ place, Disk.isStanding place = false → (Disk.empty 17).node? place = none) ∧
      (∀ step ∈ steps, step.IsStorable) ∧
      (Managed.observe (fun vocabulary now => Storage.file vocabulary now file)
          ⟨Manager.initial, Disk.empty 17⟩ steps).map Observation.unmarked ≠
        (Managed.observe (fun _ _ => Storage.memory) ⟨Manager.initial, none⟩ steps).map
          Observation.unmarked := by
  intro setting steps file
  have storable : ∀ step ∈ steps, step.IsStorable := by
    intro step member
    rw [List.mem_singleton.mp member]
    exact ⟨by decide, fun _ none => absurd none List.not_mem_nil,
      fun _ none => absurd none List.not_mem_nil⟩
  refine ⟨SnapshotFile.longFile_made, fun place => SnapshotFile.longFile_free, storable,
    fun same => ?_⟩
  -- Both runs are a single indexing, whose outcomes are compared.
  have outcomes : ((Managed.index setting (Storage.file setting.vocabulary setting.now file)
      Feed.empty ⟨Manager.initial, Disk.empty 17⟩).1.map Snapshot.unmarked) =
      (Managed.index setting Storage.memory Feed.empty ⟨Manager.initial, none⟩).1.map
        Snapshot.unmarked := Observation.indexed.inj (List.cons.inj same).1
  obtain ⟨snapshot, built⟩ := Manager.initial.build_empty setting (by decide)
    (Decimal.isWritable_of_lt (by decide))
  have kept : (Managed.index setting Storage.memory Feed.empty ⟨Manager.initial, none⟩).1 =
      .ok snapshot := by
    unfold Managed.index
    rw [built]
    rfl
  rw [kept] at outcomes
  obtain ⟨filed, indexed, -⟩ := Outcome.map_ok outcomes
  rcases Managed.index_cases setting (Storage.file setting.vocabulary setting.now file) Feed.empty
    ⟨Manager.initial, Disk.empty 17⟩ with ⟨fault, failed, -⟩ | ⟨other, -, saved, -⟩
  · cases failed.symm.trans indexed
  · exact SnapshotFile.longFile_unsaved other saved

end CodeGraph

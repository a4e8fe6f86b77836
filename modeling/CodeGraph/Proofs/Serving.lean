import CodeGraph.Manager
import CodeGraph.Proofs.Commit
import CodeGraph.Proofs.Digits
import CodeGraph.Proofs.Outcomes
import CodeGraph.Proofs.Staging

/-!
This file follows a manager through its calls. Its generation counts upwards, what it serves is what
it stored last or loaded, and a call that fails changes nothing.
-/

namespace CodeGraph

/-- The operations of a storage may fail at any time. A save that succeeds stores the snapshot, and
no other operation changes what is stored. -/
structure Storage.Keeps {σ : Type} (storage : Storage σ) (stored : σ → Option Snapshot) : Prop where
  saved : ∀ snapshot state, (storage.save snapshot state).1 = .ok () →
    stored (storage.save snapshot state).2 = some snapshot
  saveFailed : ∀ snapshot state fault, (storage.save snapshot state).1 = .error fault →
    stored (storage.save snapshot state).2 = stored state
  loadKeeps : ∀ state, stored (storage.load state).2 = stored state

theorem Storage.memory_keeps : Storage.memory.Keeps id :=
  ⟨fun _ _ _ => rfl, fun _ _ _ failed => (nomatch failed), fun _ => rfl⟩

/-- A storage with a note of the snapshot that was saved last. -/
def Storage.noted {σ : Type} (storage : Storage σ) : Storage (σ × Option Snapshot) where
  name := storage.name
  load := fun state => ((storage.load state.1).1, ((storage.load state.1).2, state.2))
  save := fun snapshot state =>
    match storage.save snapshot state.1 with
    | (.ok (), after) => (.ok (), (after, some snapshot))
    | (.error fault, after) => (.error fault, (after, state.2))

/-- Whatever a storage does, the note beside it tells what is stored. -/
theorem Storage.noted_keeps {σ : Type} (storage : Storage σ) : storage.noted.Keeps Prod.snd := by
  refine ⟨fun snapshot state saved => ?_, fun snapshot state fault failed => ?_, fun _ => rfl⟩
  · cases done : storage.save snapshot state.1 with
    | mk outcome after => cases outcome <;> simp_all [Storage.noted]
  · cases done : storage.save snapshot state.1 with
    | mk outcome after => cases outcome <;> simp_all [Storage.noted]

/-- What a manager is asked to do. -/
inductive ServingCall where
  | index (setting : Setting) (feed : Feed)
  | load

namespace Managed

variable {σ : Type}

/-- A call and the snapshot that it gives. Only an empty storage gives none. -/
def perform (storage : Storage σ) (managed : Managed σ) : ServingCall →
    Outcome (Option Snapshot) × Managed σ
  | .index setting feed =>
      ((managed.index setting storage feed).1.map some, (managed.index setting storage feed).2)
  | .load => managed.load storage

end Managed

/-- A manager together with all snapshots that it has served, in order. -/
structure Course (σ : Type) where
  managed : Managed σ
  served : List Snapshot

namespace Course

variable {σ : Type}

/-- A manager that was just made for a storage. -/
def start (state : σ) : Course σ := ⟨⟨Manager.initial, state⟩, []⟩

/-- What a call gives is served from then on. -/
def next (storage : Storage σ) (course : Course σ) (call : ServingCall) : Course σ :=
  let done := course.managed.perform storage call
  ⟨done.2, course.served ++ (done.1.toOption.join).toList⟩

def run (storage : Storage σ) (calls : List ServingCall) (course : Course σ) : Course σ :=
  calls.foldl (next storage) course

/-- The counter bounds the generations of all snapshots, and the served one is among them. -/
structure Bounded (course : Course σ) : Prop where
  bound : ∀ snapshot ∈ course.served, snapshot.generation ≤ course.managed.manager.generation
  member : ∀ snapshot, course.managed.manager.served = some snapshot → snapshot ∈ course.served

end Course

/-- The snapshot of staged records is built as long as its generation can be written. -/
theorem Manager.build_of_staged {manager : Manager} {setting : Setting} {feed : Feed}
    {counts : StagedCounts} {builder : Builder} {snapshot : Snapshot}
    (staged : (Builder.create manager.nextGeneration true).stageFeed setting.vocabulary
      setting.batchSize feed = (.ok counts, builder))
    (opened : builder.committed = false)
    (made : builder.snapshot setting.now .null = .ok snapshot)
    (writable : Decimal.isWritable builder.generation = true) :
    manager.build setting feed = .ok snapshot := by
  unfold build
  simp only [staged, Builder.andThen]
  rw [Builder.commit_of_snapshot opened made writable]

/-- An empty feed gives a snapshot as long as its generation can be written. -/
theorem Manager.build_empty (manager : Manager) (setting : Setting) (room : 0 < setting.batchSize)
    (writable : Decimal.isWritable manager.nextGeneration = true) :
    ∃ snapshot, manager.build setting Feed.empty = .ok snapshot := by
  obtain ⟨snapshot, made⟩ := @Builder.snapshot_of_parts
    (Builder.create manager.nextGeneration true) setting.now .null [] (Content.identify []) rfl rfl
    rfl
  have run : BatchRun.ofFeed setting.vocabulary setting.batchSize Feed.empty = ⟨[], none⟩ := by
    unfold BatchRun.ofFeed
    rw [if_neg (by omega)]
    rfl
  have staged : (Builder.create manager.nextGeneration true).stageFeed setting.vocabulary
      setting.batchSize Feed.empty =
        (.ok ⟨0, 0, 0, 0⟩, Builder.create manager.nextGeneration true) := by
    simp only [Builder.stageFeed, run, Builder.putBatches]
  exact ⟨snapshot, build_of_staged staged rfl made writable⟩

/-- The snapshot that is built has the generation behind the one of the manager. -/
theorem Manager.build_generation {manager : Manager} {setting : Setting} {feed : Feed}
    {snapshot : Snapshot} (built : manager.build setting feed = .ok snapshot) :
    snapshot.generation = manager.generation + 1 := by
  have settings := Builder.stageFeed_settings setting.vocabulary
    (Builder.create manager.nextGeneration true) setting.batchSize feed
  unfold Manager.build at built
  dsimp only at built
  generalize (Builder.create manager.nextGeneration true).stageFeed setting.vocabulary
    setting.batchSize feed = staged at built settings
  rcases staged with ⟨fault | counts, builder⟩
  · cases built
  · obtain ⟨-, -, shown, -⟩ := Builder.commit_ok built
    rw [shown.generation, settings.generation]
    rfl

namespace Managed

variable {σ : Type} {storage : Storage σ} {stored : σ → Option Snapshot}

/-- An indexing either fails and changes nothing but the state of the storage, or it builds the next
snapshot, saves it and serves it. -/
theorem index_cases (setting : Setting) (storage : Storage σ) (feed : Feed)
    (managed : Managed σ) :
    (∃ fault, (managed.index setting storage feed).1 = .error fault ∧
      (managed.index setting storage feed).2.manager = managed.manager ∧
      ((managed.index setting storage feed).2.state = managed.state ∨
        ∃ snapshot cause, (storage.save snapshot managed.state).1 = .error cause ∧
          (managed.index setting storage feed).2.state =
            (storage.save snapshot managed.state).2)) ∨
    (∃ snapshot, managed.manager.build setting feed = .ok snapshot ∧
      (storage.save snapshot managed.state).1 = .ok () ∧
      managed.index setting storage feed =
        (.ok snapshot,
          ⟨managed.manager.serve snapshot, (storage.save snapshot managed.state).2⟩)) := by
  unfold Managed.index
  cases built : managed.manager.build setting feed with
  | error fault => exact Or.inl ⟨fault, rfl, rfl, Or.inl rfl⟩
  | ok snapshot =>
      cases saved : storage.save snapshot managed.state with
      | mk outcome state =>
          cases outcome with
          | error fault =>
              refine Or.inl ⟨fault, ?_, ?_, Or.inr ⟨snapshot, fault, ?_, ?_⟩⟩ <;> simp only [saved]
          | ok _ => exact Or.inr ⟨snapshot, rfl, by simp only [saved], by simp only [saved]⟩

/-- A load serves the snapshot that it gives, and otherwise it leaves the manager alone. -/
theorem load_cases (storage : Storage σ) (managed : Managed σ) :
    (managed.load storage).2.state = (storage.load managed.state).2 ∧
    ((∃ snapshot, (managed.load storage).1 = .ok (some snapshot) ∧
      (managed.load storage).2.manager = managed.manager.serve snapshot) ∨
    (((∃ fault, (managed.load storage).1 = .error fault) ∨ (managed.load storage).1 = .ok none) ∧
      (managed.load storage).2.manager = managed.manager)) := by
  unfold Managed.load
  rcases storage.load managed.state with ⟨fault | _ | snapshot, state⟩
  · exact ⟨rfl, Or.inr ⟨Or.inl ⟨fault, rfl⟩, rfl⟩⟩
  · exact ⟨rfl, Or.inr ⟨Or.inr rfl, rfl⟩⟩
  · exact ⟨rfl, Or.inl ⟨snapshot, rfl, rfl⟩⟩

/-- An indexing that fails leaves the manager and what is stored alone. -/
theorem index_failed (keeps : storage.Keeps stored) {setting : Setting} {feed : Feed}
    {managed : Managed σ} {fault : Fault}
    (failed : (managed.index setting storage feed).1 = .error fault) :
    (managed.index setting storage feed).2.manager = managed.manager ∧
      stored (managed.index setting storage feed).2.state = stored managed.state := by
  rcases managed.index_cases setting storage feed with
    ⟨-, -, same, unchanged | ⟨snapshot, cause, refused, left⟩⟩ | ⟨snapshot, -, -, ended⟩
  · exact ⟨same, by rw [unchanged]⟩
  · exact ⟨same, by rw [left, keeps.saveFailed snapshot managed.state cause refused]⟩
  · rw [ended] at failed
    cases failed

/-- A call that gives no snapshot leaves the manager and what is stored alone. -/
theorem perform_failed (keeps : storage.Keeps stored) {managed : Managed σ} {call : ServingCall}
    (failed : (∃ fault, (managed.perform storage call).1 = .error fault) ∨
      (managed.perform storage call).1 = .ok none) :
    (managed.perform storage call).2.manager = managed.manager ∧
      stored (managed.perform storage call).2.state = stored managed.state := by
  cases call with
  | index setting feed =>
      cases outcome : (managed.index setting storage feed).1 with
      | error fault => exact index_failed keeps outcome
      | ok snapshot => simp [perform, outcome, Except.map] at failed
  | load =>
      obtain ⟨state, served | ⟨-, same⟩⟩ := managed.load_cases storage
      · obtain ⟨snapshot, given, -⟩ := served
        simp [perform, given] at failed
      · exact ⟨same, by rw [perform, state, keeps.loadKeeps]⟩

/-- A call that gives a snapshot serves it, and the counter grows to its generation at least. -/
theorem perform_served {managed : Managed σ} {call : ServingCall} {snapshot : Snapshot}
    (given : (managed.perform storage call).1 = .ok (some snapshot)) :
    (managed.perform storage call).2.manager = managed.manager.serve snapshot := by
  cases call with
  | index setting feed =>
      rcases managed.index_cases setting storage feed with
        ⟨fault, failed, -⟩ | ⟨other, -, -, ended⟩
      · simp [perform, failed, Except.map] at given
      · simp only [perform, ended, Except.map, Except.ok.injEq, Option.some.injEq] at given
        simp only [perform, ended, given]
  | load =>
      obtain ⟨-, ⟨other, answer, served⟩ | ⟨failed | empty, -⟩⟩ := managed.load_cases storage
      · simp only [perform, answer, Except.ok.injEq, Option.some.injEq] at given
        rw [perform, served, given]
      · obtain ⟨fault, failed⟩ := failed
        simp [perform, failed] at given
      · simp [perform, empty] at given

end Managed

namespace Course

variable {σ : Type} {storage : Storage σ} {stored : σ → Option Snapshot}

theorem run_append (calls more : List ServingCall) (course : Course σ) :
    run storage (calls ++ more) course = run storage more (run storage calls course) :=
  List.foldl_append

/-- The outcome of a call decides what the course becomes. -/
theorem next_cases (keeps : storage.Keeps stored) (course : Course σ) (call : ServingCall) :
    (∃ snapshot, (course.managed.perform storage call).1 = .ok (some snapshot) ∧
      (course.next storage call).managed.manager = course.managed.manager.serve snapshot ∧
      (course.next storage call).served = course.served ++ [snapshot]) ∨
    ((course.next storage call).managed.manager = course.managed.manager ∧
      (course.next storage call).served = course.served) := by
  rcases outcome : (course.managed.perform storage call).1 with fault | _ | snapshot
  · refine Or.inr ⟨(Managed.perform_failed keeps (Or.inl ⟨fault, outcome⟩)).1, ?_⟩
    simp [next, outcome, Except.toOption]
  · refine Or.inr ⟨(Managed.perform_failed keeps (Or.inr outcome)).1, ?_⟩
    simp [next, outcome, Except.toOption]
  · refine Or.inl ⟨snapshot, rfl, Managed.perform_served outcome, ?_⟩
    simp [next, outcome, Except.toOption]

/-- One call keeps the bound, and the counter never goes back. -/
theorem next_bounded (keeps : storage.Keeps stored) {course : Course σ} (bounded : course.Bounded)
    (call : ServingCall) :
    (course.next storage call).Bounded ∧
      course.managed.manager.generation ≤
        (course.next storage call).managed.manager.generation := by
  rcases next_cases keeps course call with ⟨snapshot, -, manager, served⟩ | ⟨manager, served⟩
  · refine ⟨⟨?_, ?_⟩, ?_⟩
    · intro other member
      rw [served, List.mem_append, List.mem_singleton] at member
      rw [manager]
      rcases member with earlier | rfl
      · exact Int.le_trans (bounded.bound other earlier) (Int.le_max_left _ _)
      · exact Int.le_max_right _ _
    · intro other current
      rw [manager] at current
      rw [served, Option.some.inj current]
      exact List.mem_append_right _ (List.mem_singleton.mpr rfl)
    · rw [manager]
      exact Int.le_max_left _ _
  · refine ⟨⟨?_, ?_⟩, ?_⟩
    · rw [manager, served]
      exact bounded.bound
    · rw [manager, served]
      exact bounded.member
    · exact Int.le_of_eq (congrArg Manager.generation manager).symm

/-- All calls together keep the bound, and the counter never goes back. -/
theorem run_bounded (keeps : storage.Keeps stored) (calls : List ServingCall) {course : Course σ}
    (bounded : course.Bounded) :
    (run storage calls course).Bounded ∧
      course.managed.manager.generation ≤
        (run storage calls course).managed.manager.generation := by
  induction calls generalizing course with
  | nil => exact ⟨bounded, Int.le_refl _⟩
  | cons call rest inductionHypothesis =>
      obtain ⟨kept, grown⟩ := next_bounded keeps bounded call
      obtain ⟨last, further⟩ := inductionHypothesis kept
      exact ⟨last, Int.le_trans grown further⟩

theorem start_bounded (state : σ) : (start state).Bounded :=
  ⟨fun _ member => absurd member List.not_mem_nil, fun _ current => by cases current⟩

/-- After any calls on a storage that may fail at any time: the counter bounds the generation of the
served snapshot and never goes back, an indexing that returns has stored and serves a snapshot of
the very next generation, which is above those of all snapshots before it, and a call that fails or
finds nothing leaves the served snapshot, the counter and the stored snapshot as they were. -/
theorem course_generations (keeps : storage.Keeps stored) (state : σ) (calls : List ServingCall) :
    let course := run storage calls (start state)
    let manager := course.managed.manager
    (∀ snapshot, manager.served = some snapshot → snapshot.generation ≤ manager.generation) ∧
    (∀ more, manager.generation ≤
      (run storage (calls ++ more) (start state)).managed.manager.generation) ∧
    (∀ setting feed snapshot after,
      course.managed.index setting storage feed = (.ok snapshot, after) →
        snapshot.generation = manager.generation + 1 ∧
        (∀ earlier ∈ course.served, earlier.generation < snapshot.generation) ∧
        stored after.state = some snapshot ∧
        after.manager = ⟨some snapshot, snapshot.generation⟩) ∧
    (∀ call outcome after, course.managed.perform storage call = (outcome, after) →
      ((∃ fault, outcome = .error fault) ∨ outcome = .ok none) →
        after.manager = manager ∧ stored after.state = stored course.managed.state) := by
  intro course manager
  have bounded : course.Bounded := (run_bounded keeps calls (start_bounded state)).1
  refine ⟨?_, ?_, ?_, ?_⟩
  · intro snapshot current
    exact bounded.bound snapshot (bounded.member snapshot current)
  · intro more
    rw [run_append]
    exact (run_bounded keeps more bounded).2
  · intro setting feed snapshot after indexed
    rcases course.managed.index_cases setting storage feed with
      ⟨fault, failed, -⟩ | ⟨built, made, saved, ended⟩
    · rw [indexed] at failed
      cases failed
    · rw [indexed] at ended
      cases ended
      have generation : snapshot.generation = manager.generation + 1 :=
        Manager.build_generation made
      refine ⟨generation, ?_, keeps.saved snapshot _ saved, ?_⟩
      · intro earlier member
        have bound : earlier.generation ≤ manager.generation := bounded.bound earlier member
        omega
      · have top : max manager.generation snapshot.generation = snapshot.generation := by omega
        simp only [Manager.serve, Manager.mk.injEq, true_and]
        exact top
  · intro call outcome after performed failed
    have kept := @Managed.perform_failed _ storage stored keeps course.managed call
      (by rw [performed]; exact failed)
    rw [performed] at kept
    exact kept

/-- A delivery of one entity. -/
def entityFeed : Feed := ⟨[⟨.text "entity", .object [
  ("language", .text "python"), ("entity_type", .text "function"), ("name", .text "f"),
  ("file_path", .text "a.py"), ("line_range", .list [.int 1, .int 2])]⟩], none⟩

/-- A disk with a directory in the place of the file. -/
def blockedDisk : Disk := ⟨[("s.json", .directory 0)], 0⟩

/-- A manager over a file indexes an entity on an empty disk. Where a directory stands in the place
of the file the snapshot is built, its save fails, and nothing changes. -/
theorem course_generations_file :
    let setting : Setting := ⟨Vocabulary.initial, "2024-01-02", 1000⟩
    let storage := (Storage.file Vocabulary.initial "2024-01-03" ⟨"s.json", "7.1"⟩).noted
    let course := run storage [.load] (start (Disk.empty 0, none))
    let blocked := run storage [.load] (start (blockedDisk, none))
    storage.Keeps Prod.snd ∧
    (∃ snapshot after,
      course.managed.index setting storage entityFeed = (.ok snapshot, after) ∧
      snapshot.generation = 1 ∧ after.state.2 = some snapshot) ∧
    (∃ snapshot, blocked.managed.manager.build setting entityFeed = .ok snapshot) ∧
    (∃ fault after,
      blocked.managed.perform storage (.index setting entityFeed) = (.error fault, after) ∧
      after.manager = blocked.managed.manager ∧ after.state.2 = none) := by
  intro setting storage course blocked
  have keeps : storage.Keeps Prod.snd := Storage.noted_keeps _
  refine ⟨keeps, ?_, ?_, ?_⟩
  · obtain ⟨snapshot, indexed⟩ := Outcome.exists_ok
      (show (course.managed.index setting storage entityFeed).1.toOption.isSome = true by
        decide +kernel)
    have ended := Prod.fst_eq_iff.1 indexed
    obtain ⟨generation, -, stored, -⟩ :=
      (course_generations keeps (Disk.empty 0, none) [.load]).2.2.1 setting entityFeed _ _ ended
    exact ⟨snapshot, _, ended, generation, stored⟩
  · exact Outcome.exists_ok (by decide +kernel)
  · have unsaved : (blocked.managed.perform storage (.index setting entityFeed)).1.toOption.isSome =
        false := by decide +kernel
    cases failed : (blocked.managed.perform storage (.index setting entityFeed)).1 with
    | ok given =>
        rw [failed] at unsaved
        cases unsaved
    | error fault =>
        have ended := Prod.fst_eq_iff.1 failed
        obtain ⟨manager, stored⟩ :=
          (course_generations keeps (blockedDisk, none) [.load]).2.2.2 _ _ _ ended
            (Or.inl ⟨fault, rfl⟩)
        exact ⟨fault, _, ended, manager, stored⟩

end Course

end CodeGraph

import CodeGraph.Disk.Basic

/-!
This file says what a change of one node leaves alone on the disk. As long as no directory goes
away, a path leads where it led before.
-/

namespace CodeGraph.Disk

/-- The label finds the new node of a place, and the other labels find what they found. -/
theorem filed?_set (disk : Disk) (place : List String) (node : DiskNode) (name : String) :
    (disk.set place node).filed? name =
      if label place = name then some node else disk.filed? name := by
  unfold filed? set others
  rw [List.find?_cons]
  by_cases same : label place = name
  · simp [same]
  · simp only [same, decide_false, if_false, List.find?_filter]
    congr 2
    funext entry
    by_cases named : entry.1 = name
    · simp [named, Ne.symm same]
    · simp [named]

theorem filed?_erase (disk : Disk) (place : List String) (name : String) :
    (disk.erase place).filed? name = if label place = name then none else disk.filed? name := by
  unfold filed? erase others
  by_cases same : label place = name
  · rw [if_pos same, Option.map_eq_none_iff, List.find?_filter, List.find?_eq_none]
    intro entry _
    simp [same]
  · simp only [same, if_false, List.find?_filter]
    congr 2
    funext entry
    by_cases named : entry.1 = name
    · simp [named, Ne.symm same]
    · simp [named]

theorem node?_of_not_standing {disk : Disk} {place : List String}
    (unfixed : isStanding place = false) : disk.node? place = disk.filed? (label place) := by
  unfold node?
  rw [unfixed]
  rfl

/-- Only the node at a place decides whether the place is a directory. -/
theorem isDirectory_congr {first second : Disk} {place other : List String}
    (same : first.node? place = second.node? other) :
    first.isDirectory place = second.isDirectory other := by
  unfold isDirectory
  rw [same]

theorem isDirectory_of_standing (disk : Disk) {place : List String}
    (standing : isStanding place = true) : disk.isDirectory place = true := by
  unfold isDirectory node?
  rw [standing]
  rfl

theorem not_standing_of_file {disk : Disk} {place : List String}
    (plain : disk.isDirectory place = false) : isStanding place = false := by
  cases standing : isStanding place with
  | false => rfl
  | true =>
      rw [isDirectory_of_standing disk standing] at plain
      cases plain

/-- The second disk has all directories of the first one, and it lies as far from the root. -/
structure Keeps (first second : Disk) : Prop where
  distance : second.distance = first.distance
  directories : ∀ place, first.isDirectory place = true → second.isDirectory place = true

theorem Keeps.refl (disk : Disk) : Keeps disk disk := ⟨rfl, fun _ directory => directory⟩

theorem Keeps.trans {first second third : Disk} (former : Keeps first second)
    (latter : Keeps second third) : Keeps first third :=
  ⟨latter.distance.trans former.distance, fun place directory =>
    latter.directories place (former.directories place directory)⟩

/-- Places with the label of a plain one are no directories. -/
theorem not_directory_of_label {disk : Disk} {place other : List String}
    (plain : disk.isDirectory place = false) (same : label place = label other)
    (unfixed : isStanding other = false) : disk.isDirectory other = false := by
  have nodes : disk.node? other = disk.node? place := by
    rw [node?_of_not_standing unfixed, node?_of_not_standing (not_standing_of_file plain), same]
  rw [isDirectory_congr nodes, plain]

/-- A change at a place without a directory takes no directory away. -/
theorem Keeps.of_filed {first second : Disk} {place : List String}
    (plain : first.isDirectory place = false) (distance : second.distance = first.distance)
    (others : ∀ name, label place ≠ name → second.filed? name = first.filed? name) :
    Keeps first second := by
  refine ⟨distance, fun other directory => ?_⟩
  cases standing : isStanding other with
  | true => exact isDirectory_of_standing _ standing
  | false =>
      by_cases same : label place = label other
      · rw [not_directory_of_label plain same standing] at directory
        cases directory
      · rw [← directory]
        refine isDirectory_congr ?_
        rw [node?_of_not_standing standing, node?_of_not_standing standing, others _ same]

theorem set_keeps {disk : Disk} {place : List String} (plain : disk.isDirectory place = false)
    (node : DiskNode) : Keeps disk (disk.set place node) :=
  .of_filed plain rfl fun name apart => by rw [filed?_set, if_neg apart]

theorem erase_keeps {disk : Disk} {place : List String} (plain : disk.isDirectory place = false) :
    Keeps disk (disk.erase place) :=
  .of_filed plain rfl fun name apart => by rw [filed?_erase, if_neg apart]

/-- A new file brings no directory. -/
theorem keeps_of_set_file (disk : Disk) (place : List String) (content : ByteArray) (age : Int) :
    Keeps (disk.set place (.file content age)) disk := by
  refine ⟨rfl, fun other directory => ?_⟩
  cases standing : isStanding other with
  | true => exact isDirectory_of_standing _ standing
  | false =>
      unfold isDirectory at directory ⊢
      rw [node?_of_not_standing standing] at directory ⊢
      rw [filed?_set] at directory
      by_cases same : label place = label other
      · rw [if_pos same] at directory
        cases directory
      · rw [if_neg same] at directory
        exact directory

/-- A component that leads on leads to the same place where no directory is missing. -/
theorem enter_keeps {first second : Disk} (keeps : Keeps first second) {place next : List String}
    {component : String} (entered : first.enter place component = .ok next) :
    first.isDirectory place = true ∧ second.enter place component = .ok next := by
  unfold enter at entered
  cases found : first.node? place with
  | none => rw [found] at entered; cases entered
  | some node =>
      cases node with
      | file content age => rw [found] at entered; cases entered
      | directory age =>
          rw [found] at entered
          have directory : first.isDirectory place = true := by
            unfold isDirectory
            rw [found]
            rfl
          refine ⟨directory, ?_⟩
          have kept := keeps.directories place directory
          unfold isDirectory at kept
          unfold enter
          cases other : second.node? place with
          | none => rw [other] at kept; cases kept
          | some node =>
              cases node with
              | file content age => rw [other] at kept; cases kept
              | directory age => exact entered

theorem follow_cons_eq_ok_iff {disk : Disk} {place rest last : List String} {component : String} :
    disk.follow place (component :: rest) = .ok last ↔
      ∃ next, disk.enter place component = .ok next ∧ disk.follow next rest = .ok last := by
  rw [follow]
  cases disk.enter place component <;> simp [Except.bind]

/-- A path leads to a place exactly if it is fit and its components lead there. -/
theorem resolve_eq_ok_iff {disk : Disk} {path : String} {place : List String} :
    disk.resolve path = .ok place ↔
      checkPath path = .ok () ∧ disk.follow (origin path) (components path) = .ok place := by
  unfold resolve
  cases checkPath path <;> simp [Except.bind]

theorem follow_keeps {first second : Disk} (keeps : Keeps first second)
    {components place last : List String} (followed : first.follow place components = .ok last) :
    second.follow place components = .ok last := by
  induction components generalizing place with
  | nil => exact followed
  | cons component rest inductionHypothesis =>
      obtain ⟨next, entered, further⟩ := follow_cons_eq_ok_iff.mp followed
      exact follow_cons_eq_ok_iff.mpr
        ⟨next, (enter_keeps keeps entered).2, inductionHypothesis further⟩

/-- A path leads to the same place where no directory is missing. -/
theorem resolve_keeps {first second : Disk} (keeps : Keeps first second) {path : String}
    {place : List String} (resolved : first.resolve path = .ok place) :
    second.resolve path = .ok place := by
  obtain ⟨checked, followed⟩ := resolve_eq_ok_iff.mp resolved
  exact resolve_eq_ok_iff.mpr ⟨checked, follow_keeps keeps followed⟩

end CodeGraph.Disk

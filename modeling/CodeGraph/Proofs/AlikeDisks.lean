import CodeGraph.Proofs.NothingLeft

/-!
This file says what depends only on the nodes of a disk, and when a path leads nowhere without being
a defect.
-/

namespace CodeGraph.Disk

variable {disk first second third : Disk} {path : String}

/-- The disks hold the same nodes and lie as far from the root. -/
structure Alike (first second : Disk) : Prop where
  distance : second.distance = first.distance
  nodes : ∀ place, second.node? place = first.node? place

namespace Alike

theorem refl (disk : Disk) : Alike disk disk := ⟨rfl, fun _ => rfl⟩

theorem trans (former : Alike first second) (latter : Alike second third) : Alike first third :=
  ⟨latter.distance.trans former.distance, fun place =>
    (latter.nodes place).trans (former.nodes place)⟩

theorem keeps (alike : Alike first second) : Keeps first second :=
  ⟨alike.distance, fun place directory => (isDirectory_congr (alike.nodes place)).trans directory⟩

theorem find?_of_some (alike : Alike first second) {node : DiskNode}
    (found : first.find? path = some node) : second.find? path = some node := by
  obtain ⟨resolved, stands⟩ := find?_eq_some_iff.mp found
  exact find?_eq_some_iff.mpr
    ⟨resolve_keeps alike.keeps resolved, (alike.nodes _).trans stands⟩

end Alike

/-- A file that was written where nothing stood and taken away again leaves the disk as it was. -/
theorem alike_erase_set {place : List String} (free : disk.node? place = none)
    (node : DiskNode) : Alike disk ((disk.set place node).erase place) := by
  have unfixed := not_standing_of_file (not_directory_of_none free)
  refine ⟨rfl, fun other => ?_⟩
  cases standing : isStanding other with
  | true => exact node?_same_of_standing standing _ _
  | false =>
      by_cases same : label place = label other
      · rw [node?_of_not_standing unfixed, same] at free
        rw [node?_of_not_standing standing, node?_of_not_standing standing, filed?_erase,
          if_pos same, free]
      · rw [node?_erase_of_ne same, node?_set_of_ne same]

theorem find?_eq_none_of_free (free : disk.node? (place path) = none) :
    disk.find? path = none := by
  cases found : disk.find? path with
  | none => rfl
  | some node =>
      rw [(find?_eq_some_iff.mp found).2] at free
      cases free

/-- Where nothing stands nothing is discarded. -/
theorem discard_of_free (free : disk.node? (place path) = none) : disk.discard path = disk := by
  unfold discard remove
  cases resolved : disk.resolve path with
  | error fault => rfl
  | ok last =>
      rw [← resolve_eq_place resolved] at free
      simp only [bind, Except.bind, free]

theorem not_defect_of_enter {fault : DiskFault} {place : List String} {component : String}
    (failed : disk.enter place component = .error fault) : fault.isDefect = false := by
  unfold enter named at failed
  split at failed
  · cases failed
    rfl
  · cases failed
    rfl
  · split at failed
    · cases failed
    · split at failed
      · cases failed
      · split at failed
        · cases failed
          rfl
        · cases failed

theorem not_defect_of_follow {fault : DiskFault} {place components : List String}
    (failed : disk.follow place components = .error fault) : fault.isDefect = false := by
  induction components generalizing place with
  | nil => cases failed
  | cons component rest inductionHypothesis =>
      rw [Disk.follow] at failed
      cases entered : disk.enter place component with
      | ok next =>
          rw [entered] at failed
          exact inductionHypothesis failed
      | error cause =>
          rw [entered] at failed
          cases failed
          exact not_defect_of_enter entered

/-- Only a null character makes a text a defect as a path. -/
theorem not_defect_of_checkPath {fault : DiskFault} (plain : '\x00' ∉ path.toList)
    (failed : checkPath path = .error fault) : fault.isDefect = false := by
  have noNull : path.toList.contains '\x00' = false := by simpa using plain
  unfold checkPath at failed
  rw [noNull, if_neg Bool.false_ne_true] at failed
  split at failed
  · cases failed
    rfl
  · split at failed
    · cases failed
      rfl
    · cases failed

/-- A path without null characters can be missing, but it is no defect. -/
theorem not_defect_of_resolve {fault : DiskFault} (plain : '\x00' ∉ path.toList)
    (failed : disk.resolve path = .error fault) : fault.isDefect = false := by
  unfold resolve at failed
  cases checked : checkPath path with
  | ok _ =>
      rw [checked] at failed
      exact not_defect_of_follow failed
  | error cause =>
      rw [checked] at failed
      cases failed
      exact not_defect_of_checkPath plain checked

theorem not_defect_of_write {fault : DiskFault} {content : ByteArray}
    (plain : '\x00' ∉ path.toList) (failed : disk.write path content = .error fault) :
    fault.isDefect = false := by
  unfold write at failed
  cases resolved : disk.resolve path with
  | error cause =>
      rw [resolved] at failed
      cases failed
      exact not_defect_of_resolve plain resolved
  | ok last =>
      simp only [resolved, bind, Except.bind] at failed
      split at failed
      · cases failed
        rfl
      · cases failed

theorem null_notMem_of_resolve {place : List String} (resolved : disk.resolve path = .ok place) :
    '\x00' ∉ path.toList := by
  have checked := (resolve_eq_ok_iff.mp resolved).1
  unfold checkPath at checked
  split at checked
  · cases checked
  · rename_i absent
    simpa using absent

/-- In a directory a name of at least three characters leads to its place, unless it is too long. -/
theorem enter_eq_named {parent : List String} {name : String}
    (directory : disk.isDirectory parent = true) (long : 3 ≤ name.toList.length) :
    disk.enter parent name = named parent name := by
  obtain ⟨inside, noStep⟩ := not_step_of_long long
  obtain ⟨age, found⟩ := isDirectory_eq_true_iff.mp directory
  unfold enter
  rw [found]
  simp only [inside, noStep, Bool.false_eq_true, if_false]

/-- A path that is fit leads beside another one if the name is short enough. -/
theorem resolve_beside {ending : String} {parent : List String} (isEnding : IsEnding ending)
    (checked : checkPath (path ++ ending) = .ok ()) (led : disk.base path = .ok parent)
    (directory : disk.isDirectory parent = true)
    (short : (baseName path ++ ending).utf8ByteSize ≤ nameLimit) :
    disk.resolve (path ++ ending) = .ok (place (path ++ ending)) := by
  have entered : disk.enter parent (baseName path ++ ending) =
      .ok (parent ++ [baseName path ++ ending]) := by
    rw [enter_eq_named directory (isEnding.long_append _)]
    exact if_neg (Nat.not_lt.mpr short)
  rw [resolve_eq_ok_iff]
  refine ⟨checked, ?_⟩
  rw [place_append isEnding, ← base_eq_basePlace led, origin_append isEnding,
    components_append isEnding, follow_append]
  unfold base at led
  rw [led]
  exact follow_cons_eq_ok_iff.mpr ⟨_, entered, rfl⟩

/-- The name of a path that leads somewhere is short enough. -/
theorem size_le_nameLimit {ending : String} {last : List String} (isEnding : IsEnding ending)
    (resolved : disk.resolve (path ++ ending) = .ok last) :
    (baseName path ++ ending).utf8ByteSize ≤ nameLimit := by
  have followed := (resolve_eq_ok_iff.mp resolved).2
  rw [components_append isEnding] at followed
  obtain ⟨parent, -, entered⟩ := follow_concat followed
  rw [enter_eq_named (isDirectory_of_enter entered) (isEnding.long_append _)] at entered
  unfold named at entered
  split at entered
  · cases entered
  · omega

/-- Where a longer ending of a path leads somewhere a shorter one does as well. -/
theorem resolve_shorter {first second : String} {last : List String}
    (firstEnding : IsEnding first) (secondEnding : IsEnding second)
    (plain : '\x00' ∉ first.toList) (shorter : first.utf8ByteSize ≤ second.utf8ByteSize)
    (resolved : disk.resolve (path ++ second) = .ok last) :
    disk.resolve (path ++ first) = .ok (place (path ++ first)) := by
  obtain ⟨led, directory⟩ := base_of_resolve resolved
  rw [base_append secondEnding, basePlace_append secondEnding] at led
  rw [basePlace_append secondEnding] at directory
  have noNull : (path ++ first).toList.contains '\x00' = false := by
    have absent := null_notMem_of_resolve resolved
    rw [String.toList_append, List.mem_append, not_or] at absent
    simpa [String.toList_append] using ⟨absent.1, plain⟩
  have filled : (path ++ first == "") = false := by
    apply beq_eq_false_iff_ne.mpr
    intro empty
    have long := firstEnding.long_append path
    rw [empty] at long
    exact absurd long (by decide)
  have short := size_le_nameLimit secondEnding resolved
  have checked := (resolve_eq_ok_iff.mp resolved).1
  have fits : ¬pathLimit < (path ++ second).utf8ByteSize := by
    intro long
    unfold checkPath at checked
    rw [if_pos long] at checked
    split at checked
    · cases checked
    · split at checked <;> cases checked
  rw [String.utf8ByteSize_append] at short fits
  apply resolve_beside firstEnding _ led directory
  · rw [String.utf8ByteSize_append]
    omega
  · unfold checkPath
    rw [noNull, filled, String.utf8ByteSize_append, if_neg Bool.false_ne_true,
      if_neg Bool.false_ne_true, if_neg (by omega)]

end CodeGraph.Disk

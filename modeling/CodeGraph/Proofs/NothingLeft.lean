import CodeGraph.Proofs.DirectoriesAbove

/-!
This file says what it means that work beside a path leaves nothing new behind: names beside the
path may be gone, and directories may have been made above it, but nothing else has changed.
-/

namespace CodeGraph.Disk

variable {disk first second third : Disk} {path : String} {names : List String}
  {place other : List String}

/-- A node is as it was before, or it stood under one of the names and is gone, or it is a directory
that was made above the path. -/
def LeavesNothingAt (path : String) (names : List String) (first second : Disk)
    (place : List String) : Prop :=
  second.node? place = first.node? place ∨
    label place ∈ names ∧ second.node? place = none ∨
    first.node? place = none ∧ ¬ IsBelow path place ∧ second.isDirectory place = true

structure LeavesNothing (path : String) (names : List String) (first second : Disk) : Prop where
  keeps : Keeps first second
  nodes : ∀ place, LeavesNothingAt path names first second place

/-- Nothing new is left behind except, it may be, what stands under one label. -/
structure LeavesOnly (path : String) (names : List String) (fragment : String)
    (first second : Disk) : Prop where
  keeps : Keeps first second
  nodes : ∀ place, fragment ≠ label place → LeavesNothingAt path names first second place

/-- The names stand below the path. -/
def AreBelow (path : String) (names : List String) : Prop :=
  ∀ place, label place ∈ names → IsBelow path place

namespace LeavesNothingAt

theorem trans (below : AreBelow path names) (former : LeavesNothingAt path names first second place)
    (keeps : Keeps second third) (latter : LeavesNothingAt path names second third place) :
    LeavesNothingAt path names first third place := by
  rcases former with same | ⟨member, gone⟩ | ⟨free, notBelow, directory⟩
  · rcases latter with again | ⟨member, gone⟩ | ⟨free, notBelow, directory⟩
    · exact .inl (again.trans same)
    · exact .inr (.inl ⟨member, gone⟩)
    · exact .inr (.inr ⟨same ▸ free, notBelow, directory⟩)
  · rcases latter with again | ⟨-, gone⟩ | ⟨-, notBelow, -⟩
    · exact .inr (.inl ⟨member, again.trans gone⟩)
    · exact .inr (.inl ⟨member, gone⟩)
    · exact absurd (below place member) notBelow
  · exact .inr (.inr ⟨free, notBelow, keeps.directories place directory⟩)

theorem mono {more : List String} (leaves : LeavesNothingAt path names first second place)
    (fewer : names ⊆ more) : LeavesNothingAt path more first second place := by
  rcases leaves with same | ⟨member, gone⟩ | made
  · exact .inl same
  · exact .inr (.inl ⟨fewer member, gone⟩)
  · exact .inr (.inr made)

/-- What stood in a place that is not among the names stands there still. -/
theorem stays (leaves : LeavesNothingAt path names first second place)
    (apart : label place ∉ names) (present : first.node? place ≠ none) :
    second.node? place = first.node? place := by
  rcases leaves with same | ⟨member, -⟩ | ⟨free, -, -⟩
  · exact same
  · exact absurd member apart
  · exact absurd free present

/-- A place below the path that is not among the names is as it was. -/
theorem same_of_below (leaves : LeavesNothingAt path names first second place)
    (apart : label place ∉ names) (isBelow : IsBelow path place) :
    second.node? place = first.node? place := by
  rcases leaves with same | ⟨member, -⟩ | ⟨-, notBelow, -⟩
  · exact same
  · exact absurd member apart
  · exact absurd isBelow notBelow

/-- A place below the path is as it was or empty. -/
theorem same_or_gone (leaves : LeavesNothingAt path names first second place)
    (isBelow : IsBelow path place) :
    second.node? place = first.node? place ∨ second.node? place = none := by
  rcases leaves with same | ⟨-, gone⟩ | ⟨-, notBelow, -⟩
  · exact .inl same
  · exact .inr gone
  · exact absurd isBelow notBelow

/-- An empty place below the path stays empty. -/
theorem stays_free (leaves : LeavesNothingAt path names first second place)
    (isBelow : IsBelow path place) (free : first.node? place = none) :
    second.node? place = none := by
  rcases leaves.same_or_gone isBelow with same | gone
  · exact same.trans free
  · exact gone

/-- All files were there before. -/
theorem files (leaves : LeavesNothingAt path names first second place) {content : ByteArray}
    {age : Int} (found : second.node? place = some (.file content age)) :
    first.node? place = some (.file content age) := by
  rcases leaves with same | ⟨-, gone⟩ | ⟨-, -, directory⟩
  · exact same ▸ found
  · rw [found] at gone
    cases gone
  · rw [isDirectory_eq_false_of_file found] at directory
    cases directory

end LeavesNothingAt

namespace LeavesNothing

theorem refl (disk : Disk) : LeavesNothing path names disk disk :=
  ⟨Keeps.refl disk, fun _ => .inl rfl⟩

theorem trans (below : AreBelow path names) (former : LeavesNothing path names first second)
    (latter : LeavesNothing path names second third) :
    LeavesNothing path names first third :=
  ⟨former.keeps.trans latter.keeps,
    fun place => (former.nodes place).trans below latter.keeps (latter.nodes place)⟩

theorem mono {more : List String} (leaves : LeavesNothing path names first second)
    (fewer : names ⊆ more) : LeavesNothing path more first second :=
  ⟨leaves.keeps, fun place => (leaves.nodes place).mono fewer⟩

theorem leavesOnly (leaves : LeavesNothing path names first second) (fragment : String) :
    LeavesOnly path names fragment first second := ⟨leaves.keeps, fun place _ => leaves.nodes place⟩

end LeavesNothing

namespace LeavesOnly

variable {fragment : String}

theorem behind (below : AreBelow path names) (former : LeavesNothing path names first second)
    (latter : LeavesOnly path names fragment second third) :
    LeavesOnly path names fragment first third :=
  ⟨former.keeps.trans latter.keeps,
    fun place apart => (former.nodes place).trans below latter.keeps (latter.nodes place apart)⟩

theorem mono {more : List String} (leaves : LeavesOnly path names fragment first second)
    (fewer : names ⊆ more) : LeavesOnly path more fragment first second :=
  ⟨leaves.keeps, fun place apart => (leaves.nodes place apart).mono fewer⟩

end LeavesOnly

/-- The places that are always there are the same on all disks. -/
theorem node?_same_of_standing (standing : isStanding place = true) (first second : Disk) :
    second.node? place = first.node? place := by
  unfold node?
  rw [standing]
  rfl

/-- A node at a place whose file was taken away. -/
theorem node?_erase (disk : Disk) (place other : List String) :
    (disk.erase place).node? other = disk.node? other ∨
      label other = label place ∧ isStanding other = false ∧
        (disk.erase place).node? other = none := by
  by_cases same : label place = label other
  · cases standing : isStanding other with
    | true => exact .inl (node?_same_of_standing standing _ _)
    | false =>
        right
        rw [node?_of_not_standing standing, filed?_erase, if_pos same]
        exact ⟨same.symm, rfl, rfl⟩
  · exact .inl (node?_erase_of_ne same)

theorem leavesNothing_erase (member : label place ∈ names)
    (plain : disk.isDirectory place = false) :
    LeavesNothing path names disk (disk.erase place) := by
  refine ⟨erase_keeps plain, fun other => ?_⟩
  rcases node?_erase disk place other with same | ⟨label, -, gone⟩
  · exact .inl same
  · exact .inr (.inl ⟨label ▸ member, gone⟩)

/-- A file with one label is all that is new. -/
theorem leavesOnly_set (plain : disk.isDirectory place = false) (content : ByteArray) (age : Int) :
    LeavesOnly path names (label place) disk (disk.set place (.file content age)) :=
  ⟨set_keeps plain _, fun _ apart => .inl (node?_set_of_ne apart _)⟩

/-- Both disks lack a name that was taken away. -/
theorem node?_erase_same (same : label place = label other) (unfixed : isStanding other = false)
    (disk : Disk) : (disk.erase place).node? other = none := by
  rw [node?_of_not_standing unfixed, filed?_erase, if_pos same]

/-- A name can be taken away on both disks. -/
theorem Keeps.erase (keeps : Keeps first second) (place : List String) :
    Keeps (first.erase place) (second.erase place) := by
  refine ⟨keeps.distance, fun other directory => ?_⟩
  cases unfixed : isStanding other with
  | true => exact isDirectory_of_standing _ unfixed
  | false =>
      by_cases equal : label place = label other
      · rw [not_directory_of_none (node?_erase_same equal unfixed first)] at directory
        cases directory
      · rw [isDirectory_congr (node?_erase_of_ne equal)] at directory ⊢
        exact keeps.directories other directory

theorem LeavesNothingAt.erase (leaves : LeavesNothingAt path names first second other) :
    LeavesNothingAt path names (first.erase place) (second.erase place) other := by
  cases unfixed : isStanding other with
  | true => exact .inl (node?_same_of_standing unfixed _ _)
  | false =>
      by_cases equal : label place = label other
      · left
        rw [node?_erase_same equal unfixed, node?_erase_same equal unfixed]
      · unfold LeavesNothingAt isDirectory
        rw [node?_erase_of_ne equal, node?_erase_of_ne equal]
        exact leaves

theorem LeavesNothing.erase (leaves : LeavesNothing path names first second)
    (place : List String) :
    LeavesNothing path names (first.erase place) (second.erase place) :=
  ⟨leaves.keeps.erase place, fun other => (leaves.nodes other).erase⟩

theorem LeavesOnly.erase {fragment : String} (leaves : LeavesOnly path names fragment first second)
    (place : List String) :
    LeavesOnly path names fragment (first.erase place) (second.erase place) :=
  ⟨leaves.keeps.erase place, fun other apart => (leaves.nodes other apart).erase⟩

/-- A file that was written is taken away again. -/
theorem leavesNothing_erase_set (member : label place ∈ names)
    (plain : disk.isDirectory place = false) (content : ByteArray) (age : Int) :
    LeavesNothing path names disk ((disk.set place (.file content age)).erase place) := by
  have unfixed := not_standing_of_file plain
  have found : (disk.set place (.file content age)).node? place = some (.file content age) :=
    node?_set_self unfixed _
  have written := isDirectory_eq_false_of_file found
  refine ⟨(set_keeps plain _).trans (erase_keeps written), fun other => ?_⟩
  by_cases same : label place = label other
  · rcases node?_erase (disk.set place (.file content age)) place other with kept | ⟨equal, -, gone⟩
    · left
      cases standing : isStanding other with
      | true => exact node?_same_of_standing standing _ _
      | false =>
          rw [node?_of_not_standing standing, filed?_erase, if_pos same] at kept
          rw [node?_of_not_standing standing, filed?_set, if_pos same] at kept
          cases kept
    · exact .inr (.inl ⟨equal ▸ member, gone⟩)
  · left
    rw [node?_erase_of_ne same, node?_set_of_ne same]

theorem of_remove {after : Disk} (removed : disk.remove path = .ok after) :
    disk.isDirectory (Disk.place path) = false ∧ after = disk.erase (Disk.place path) := by
  unfold remove at removed
  cases resolved : disk.resolve path with
  | error fault => rw [resolved] at removed; cases removed
  | ok last =>
      simp only [resolved, bind, Except.bind] at removed
      rw [← resolve_eq_place resolved]
      split at removed
      · rename_i content age found
        exact ⟨isDirectory_eq_false_of_file found, (Except.ok.inj removed).symm⟩
      · cases removed
      · cases removed

theorem leavesNothing_discard {name : String} (member : label (Disk.place name) ∈ names)
    (disk : Disk) : LeavesNothing path names disk (disk.discard name) := by
  unfold discard
  cases removed : disk.remove name with
  | error fault => exact LeavesNothing.refl disk
  | ok rest =>
      obtain ⟨plain, rfl⟩ := of_remove removed
      exact leavesNothing_erase member plain

theorem leavesNothing_makeDirectory (free : disk.node? place = none)
    (notBelow : ¬ IsBelow path place) :
    LeavesNothing path names disk (disk.set place (.directory 0)) := by
  have plain := not_directory_of_none free
  refine ⟨set_keeps plain _, fun other => ?_⟩
  by_cases same : label place = label other
  · cases standing : isStanding other with
    | true => exact .inl (node?_same_of_standing standing _ _)
    | false =>
        refine .inr (.inr ⟨?_, ?_, ?_⟩)
        · rw [node?_of_not_standing (not_standing_of_file plain)] at free
          rw [node?_of_not_standing standing, ← same, free]
        · unfold IsBelow at notBelow ⊢
          rw [← same]
          exact notBelow
        · refine isDirectory_eq_true_iff.mpr ⟨0, ?_⟩
          rw [node?_of_not_standing standing, filed?_set, if_pos same]
  · exact .inl (node?_set_of_ne same _)

/-- What is made along folded components stands above the path if their places do. -/
theorem leavesNothing_makeAlong {rooted made : Bool} {components stack : List (List Char)}
    (below : AreBelow path names) (isStack : FilePath.IsStack stack)
    (slashless : IsSlashless stack) (plain : IsSlashless components)
    (above : ∀ front, front <+: components →
      ¬ IsBelow path (stackPlace rooted (front.foldl FilePath.foldComponent stack))) :
    LeavesNothing path names disk
      (disk.makeAlong made (stackPlace rooted stack) (components.map String.ofList)).2 := by
  induction components generalizing disk stack made with
  | nil => exact LeavesNothing.refl disk
  | cons component rest inductionHypothesis =>
      rw [List.map_cons, makeAlong]
      cases entered : disk.enter (stackPlace rooted stack) (String.ofList component) with
      | error fault => exact LeavesNothing.refl disk
      | ok next =>
          have same := enter_stackPlace isStack slashless entered
          -- The places ahead stay above the path, so the hypothesis on fronts carries over.
          have further (disk : Disk) (made : Bool) := @inductionHypothesis disk made
            (FilePath.foldComponent stack component)
            (FilePath.foldComponent_isStack isStack component)
            (slashless.foldComponent (plain component List.mem_cons_self))
            (fun other member => plain other (List.mem_cons_of_mem _ member))
            fun front isFront =>
              above (component :: front) (List.cons_prefix_cons.mpr ⟨rfl, isFront⟩)
          dsimp only
          rw [same]
          cases found : disk.node? (stackPlace rooted (FilePath.foldComponent stack component)) with
          | none =>
              have notBelow := above [component] (List.cons_prefix_cons.mpr
                ⟨rfl, List.nil_prefix⟩)
              exact (leavesNothing_makeDirectory found notBelow).trans below (further _ _)
          | some node =>
              cases node with
              | directory age => exact further _ _
              | file content age =>
                  dsimp only
                  split
                  · exact LeavesNothing.refl disk
                  · split <;> exact LeavesNothing.refl disk

/-- The way through padding and a folded stack leads to the places of the stack. -/
theorem foldl_front_suffix {padding stack front : List (List Char)}
    (padded : ∀ component ∈ padding, component = [] ∨ component = ['.'])
    (isStack : FilePath.IsStack stack) (isFront : front <+: padding ++ stack.reverse) :
    front.foldl FilePath.foldComponent [] <:+ stack := by
  have stays {components : List (List Char)}
      (all : ∀ component ∈ components, component = [] ∨ component = ['.']) :
      components.foldl FilePath.foldComponent [] = [] := by
    induction components with
    | nil => rfl
    | cons component rest inductionHypothesis =>
        have here : FilePath.foldComponent [] component = [] :=
          if_pos (all component List.mem_cons_self)
        rw [List.foldl_cons, here]
        exact inductionHypothesis fun other member => all other (List.mem_cons_of_mem _ member)
  obtain ⟨behind, whole⟩ := isFront
  rcases List.append_eq_append_iff.mp whole with ⟨more, parts, -⟩ | ⟨more, parts, rest⟩
  · rw [stays fun component member => padded component (parts ▸ List.mem_append_left _ member)]
    exact List.nil_suffix
  · have back : stack = behind.reverse ++ more.reverse := by
      rw [← List.reverse_append, ← rest, List.reverse_reverse]
    have folded : FilePath.IsStack (more.reverse ++ []) := by
      rw [List.append_nil]
      exact (back ▸ isStack).below
    rw [parts, List.foldl_append, stays padded, FilePath.foldl_folded more folded, List.append_nil,
      back]
    exact List.suffix_append _ _

theorem stackPlace_prefix (rooted : Bool) {below stack : List (List Char)}
    (isSuffix : below <:+ stack) : stackPlace rooted below <+: stackPlace rooted stack := by
  obtain ⟨front, rfl⟩ := isSuffix
  induction front with
  | nil => exact List.prefix_refl _
  | cons component rest inductionHypothesis =>
      rw [List.cons_append, stackPlace]
      split
      · exact inductionHypothesis
      · exact inductionHypothesis.trans (List.prefix_append _ _)

/-- The places on the way to the directory of a path stand above the path. -/
theorem not_isBelow_of_suffix {stack : List (List Char)}
    (isSuffix : stack <:+ directoryStack path) :
    ¬ IsBelow path (stackPlace (FilePath.startsAtRoot path.toList) stack) := by
  have front := stackPlace_prefix (FilePath.startsAtRoot path.toList)
    (isSuffix.trans (directoryStack_suffix path))
  have short := length_label_le_of_prefix front
  have here := length_label_le (basePlace path)
  unfold IsBelow
  unfold basePlace at here ⊢
  omega

theorem makeBehind_snd (disk : Disk) (size : Nat) (path : String) :
    (disk.makeBehind size path).2 = disk ∨ (disk.makeBehind size path).2 =
      (disk.makeAlong false (origin path) (fitStart size (components path)).1).2 := by
  unfold makeBehind
  split
  · exact .inl rfl
  · split
    · exact .inl rfl
    · right
      dsimp only
      rcases disk.makeAlong false (origin path) (fitStart size (components path)).1 with
        ⟨outcome, left⟩
      cases (fitStart size (components path)).2 with
      | none => rfl
      | some fault =>
          rcases outcome with cause | _
          · cases cause <;> rfl
          · rfl

/-- Only directories above a path are made for it. -/
theorem leavesNothing_makeFoldedDirectory (below : AreBelow path names) (disk : Disk) :
    LeavesNothing path names disk (disk.makeFoldedDirectory path).2 := by
  obtain ⟨padding, stack, steps, through, whole, relative, all⟩ :=
    leadsThrough_foldedDirectory path
  have isSuffix {front : List (List Char)} (isFront : front <+: padding ++ stack.reverse) :=
    foldl_front_suffix through.padded through.isStack isFront
  -- The text of a directory lacks steps up from the root, and its places are the same with them.
  have same (below : List (List Char)) :
      stackPlace (FilePath.startsAtRoot path.toList) below =
        stackPlace (FilePath.startsAtRoot path.toList) (below ++ steps) := by
    cases begins : FilePath.startsAtRoot path.toList with
    | false => rw [relative begins, List.append_nil]
    | true => exact (stackPlace_append_steps all below).symm
  have slashless : IsSlashless (padding ++ stack.reverse) := by
    intro component member
    rcases List.mem_append.mp member with inside | behind
    · rcases through.padded component inside with rfl | rfl <;> decide
    · exact directoryStack_isSlashless path component
        (whole ▸ List.mem_append_left _ (List.mem_reverse.mp behind))
  rcases makeBehind_snd disk (if FilePath.startsAtRoot path.toList then 0 else disk.distance)
    (foldedDirectory path) with left | left
  · unfold makeFoldedDirectory
    rw [left]
    exact LeavesNothing.refl disk
  · have front := fitStart_prefix (if FilePath.startsAtRoot path.toList then 0 else disk.distance)
      (components (foldedDirectory path))
    rw [through.components] at front
    obtain ⟨parts, isFront, cut⟩ := List.prefix_map_iff.mp front
    unfold makeFoldedDirectory
    rw [left, through.origin, through.components, cut]
    refine leavesNothing_makeAlong below trivial (fun _ member => absurd member List.not_mem_nil)
      (fun component member => slashless component (isFront.subset member))
      fun shorter isShorter => ?_
    rw [same]
    refine not_isBelow_of_suffix ?_
    rw [whole]
    obtain ⟨rest, back⟩ := isSuffix (isShorter.trans isFront)
    exact ⟨rest, by rw [← List.append_assoc, back]⟩

end CodeGraph.Disk

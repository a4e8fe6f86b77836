import CodeGraph.Proofs.DiskMaking
import CodeGraph.Proofs.Neighbours

/-!
This file says where a path leads: its text alone names the place, and the disk only decides whether
the place is reached. So the place of a name that is made from a path by adding to its end is the
same on all disks, and the directories that are made for a path stand above this place.
-/

namespace CodeGraph.Disk

/-- The place of folded components, which stand in reverse order. A step up from the root leads
nowhere. -/
def stackPlace (rooted : Bool) : List (List Char) → List String
  | [] => if rooted then [root] else []
  | component :: below =>
      if rooted && component == ['.', '.'] then stackPlace rooted below
      else stackPlace rooted below ++ [String.ofList component]

/-- The folded components of a path in reverse order. -/
def foldedStack (components : List (List Char)) : List (List Char) :=
  components.foldl FilePath.foldComponent []

/-- The place that a path names. -/
def place (path : String) : List String :=
  stackPlace (FilePath.startsAtRoot path.toList) (foldedStack (Text.split '/' path.toList))

/-- The place of the directory in which the last component of a path is looked up. -/
def basePlace (path : String) : List String :=
  stackPlace (FilePath.startsAtRoot path.toList)
    (foldedStack (Text.split '/' path.toList).dropLast)

/-- No component has a slash. -/
def IsSlashless (components : List (List Char)) : Prop :=
  ∀ component ∈ components, '/' ∉ component

theorem split_isSlashless (path : String) : IsSlashless (Text.split '/' path.toList) :=
  fun _ member => Text.notMem_of_mem_split member

theorem IsSlashless.dropLast {components : List (List Char)} (slashless : IsSlashless components) :
    IsSlashless components.dropLast := fun component member =>
  slashless component ((List.dropLast_sublist _).subset member)

theorem IsSlashless.foldComponent {stack : List (List Char)} {component : List Char}
    (slashless : IsSlashless stack) (plain : '/' ∉ component) :
    IsSlashless (FilePath.foldComponent stack component) := fun other member => by
  rcases FilePath.mem_foldComponent member with rfl | behind
  · exact plain
  · exact slashless other behind

theorem ofList_beq (first second : List Char) :
    (String.ofList first == String.ofList second) = decide (first = second) := by
  rw [Bool.eq_iff_iff, beq_iff_eq, decide_eq_true_eq, String.ofList_inj]

/-- Steps up from the root stay at the root. -/
theorem stackPlace_steps {stack : List (List Char)}
    (steps : ∀ component ∈ stack, component = ['.', '.']) :
    stackPlace true stack = [root] ∧
      (stackPlace false stack).all (· == stepUp) = true := by
  induction stack with
  | nil => exact ⟨rfl, rfl⟩
  | cons component below inductionHypothesis =>
      obtain ⟨rooted, free⟩ := inductionHypothesis fun other member =>
        steps other (List.mem_cons_of_mem _ member)
      have step := steps component List.mem_cons_self
      subst step
      refine ⟨rooted, ?_⟩
      simp only [stackPlace, Bool.false_and, Bool.false_eq_true, if_false, List.all_append, free]
      rfl

theorem stackPlace_rooted_ne_nil (stack : List (List Char)) : stackPlace true stack ≠ [] := by
  induction stack with
  | nil => exact List.cons_ne_nil _ _
  | cons component below inductionHypothesis =>
      unfold stackPlace
      split
      · exact inductionHypothesis
      · simp

/-- A name stands in the place of what is below it. -/
theorem stackPlace_name (rooted : Bool) (below : List (List Char)) {component : List Char}
    (noStep : component ≠ ['.', '.']) :
    stackPlace rooted (component :: below) =
      stackPlace rooted below ++ [String.ofList component] := by
  rw [stackPlace, if_neg]
  simp [noStep]

/-- Above the place of a name is the place below it. -/
theorem above_stackPlace (rooted : Bool) {below : List (List Char)} {component : List Char}
    (noStep : component ≠ ['.', '.']) (plain : '/' ∉ component) :
    above (stackPlace rooted (component :: below)) = stackPlace rooted below := by
  have name : (String.ofList component == stepUp) = false :=
    (ofList_beq component ['.', '.']).trans (decide_eq_false noStep)
  have noRoot : stackPlace rooted below ++ [String.ofList component] ≠ [root] := by
    cases rooted with
    | true =>
        intro same
        have lengths := congrArg List.length same
        have filled := List.length_pos_iff.mpr (stackPlace_rooted_ne_nil below)
        simp only [List.length_append, List.length_singleton] at lengths
        omega
    | false =>
        intro same
        have last := List.append_inj_right' (same.trans (List.nil_append _).symm) rfl
        have text := congrArg String.toList (List.singleton_inj.mp last)
        rw [String.toList_ofList] at text
        exact plain (by rw [text]; decide)
  rw [stackPlace_name rooted below noStep]
  unfold above
  rw [if_neg (by simp [name]), if_neg (by simpa using noRoot), List.dropLast_concat]

/-- Above the place of steps up is the place of one more. -/
theorem above_steps (rooted : Bool) {stack : List (List Char)}
    (steps : ∀ component ∈ stack, component = ['.', '.']) :
    above (stackPlace rooted stack) = stackPlace rooted (['.', '.'] :: stack) := by
  obtain ⟨atRoot, free⟩ := stackPlace_steps steps
  cases rooted with
  | true =>
      rw [show stackPlace true (['.', '.'] :: stack) = stackPlace true stack from rfl, atRoot]
      rfl
  | false =>
      unfold above
      rw [if_pos free]
      rfl

/-- A component leads from the place of a stack to the place of the stack that it joins. -/
theorem enter_stackPlace {disk : Disk} {rooted : Bool} {stack : List (List Char)}
    {component : List Char} {next : List String} (isStack : FilePath.IsStack stack)
    (slashless : IsSlashless stack)
    (entered : disk.enter (stackPlace rooted stack) (String.ofList component) = .ok next) :
    next = stackPlace rooted (FilePath.foldComponent stack component) := by
  have stays : staysInside (String.ofList component) =
      (decide (component = []) || decide (component = ['.'])) := by
    have empty := ofList_beq component []
    have dot := ofList_beq component ['.']
    exact congrArg₂ or empty dot
  have steps : (String.ofList component == stepUp) = decide (component = ['.', '.']) :=
    ofList_beq component ['.', '.']
  unfold enter at entered
  split at entered
  · cases entered
  · cases entered
  · rw [stays, steps] at entered
    unfold FilePath.foldComponent
    by_cases inside : component = [] ∨ component = ['.']
    · rw [if_pos inside]
      rw [if_pos (by simpa using inside)] at entered
      exact (Except.ok.inj entered).symm
    · rw [if_neg inside]
      rw [if_neg (by simpa using inside)] at entered
      by_cases step : component = ['.', '.']
      · rw [if_pos (by simpa using step)] at entered
        rw [if_pos step, ← Except.ok.inj entered, step]
        cases stack with
        | nil => exact above_steps rooted fun _ member => absurd member List.not_mem_nil
        | cons last before =>
            dsimp only
            -- Below a step up there are only steps up, so one more joins them.
            by_cases lastStep : last = ['.', '.']
            · rw [if_pos lastStep]
              refine above_steps rooted fun other member => ?_
              rcases List.mem_cons.mp member with rfl | below
              · exact lastStep
              · exact isStack.2.2.1 lastStep other below
            · rw [if_neg lastStep]
              exact above_stackPlace rooted lastStep (slashless last List.mem_cons_self)
      · rw [if_neg (by simpa using step)] at entered
        rw [if_neg step, stackPlace_name rooted stack step]
        unfold named at entered
        split at entered
        · cases entered
        · exact (Except.ok.inj entered).symm

/-- Components lead to the place of the stack into which they are folded. -/
theorem follow_stackPlace {disk : Disk} {rooted : Bool} {components stack : List (List Char)}
    {last : List String} (isStack : FilePath.IsStack stack) (slashless : IsSlashless stack)
    (plain : IsSlashless components)
    (followed : disk.follow (stackPlace rooted stack) (components.map String.ofList) = .ok last) :
    last = stackPlace rooted (components.foldl FilePath.foldComponent stack) := by
  induction components generalizing stack with
  | nil => exact (Except.ok.inj followed).symm
  | cons component rest inductionHypothesis =>
      rw [List.map_cons] at followed
      obtain ⟨next, entered, further⟩ := follow_cons_eq_ok_iff.mp followed
      rw [enter_stackPlace isStack slashless entered] at further
      exact inductionHypothesis (FilePath.foldComponent_isStack isStack component)
        (slashless.foldComponent (plain component List.mem_cons_self))
        (fun other member => plain other (List.mem_cons_of_mem _ member)) further

/-- A path leads to the place that it names. -/
theorem resolve_eq_place {disk : Disk} {path : String} {last : List String}
    (resolved : disk.resolve path = .ok last) : last = place path :=
  follow_stackPlace trivial (fun _ member => absurd member List.not_mem_nil)
    (split_isSlashless path) (resolve_eq_ok_iff.mp resolved).2

/-- At a path is found what stands where it leads. -/
theorem find?_of_resolve {disk : Disk} {path : String} {last : List String}
    (resolved : disk.resolve path = .ok last) : disk.find? path = disk.node? last := by
  unfold find?
  rw [resolved]

theorem find?_eq_some_iff {disk : Disk} {path : String} {node : DiskNode} :
    disk.find? path = some node ↔
      disk.resolve path = .ok (place path) ∧ disk.node? (place path) = some node := by
  cases resolved : disk.resolve path with
  | error fault => simp [find?, resolved]
  | ok last => simp [find?_of_resolve resolved, resolve_eq_place resolved]

/-- What is read at a path is the content of the file that is found there. -/
theorem find?_of_read {disk : Disk} {path : String} {content : ByteArray}
    (read : disk.read path = .ok content) : ∃ age, disk.find? path = some (.file content age) := by
  unfold Disk.read at read
  cases resolved : disk.resolve path with
  | error fault =>
      rw [resolved] at read
      cases read
  | ok last =>
      rw [find?_of_resolve resolved]
      simp only [resolved, bind, Except.bind] at read
      split at read
      · rename_i bytes age found
        exact ⟨age, Except.ok.inj read ▸ found⟩
      · cases read
      · cases read

theorem base_eq_basePlace {disk : Disk} {path : String} {parent : List String}
    (led : disk.base path = .ok parent) : parent = basePlace path := by
  unfold base components at led
  rw [← List.map_dropLast] at led
  exact follow_stackPlace trivial (fun _ member => absurd member List.not_mem_nil)
    (split_isSlashless path).dropLast led

/-- The last component of a path as a list of characters. -/
theorem toList_baseName (path : String) :
    (baseName path).toList = (Text.split '/' path.toList).getLastD [] := by
  unfold baseName components
  rw [List.getLastD_eq_getLast?, List.getLastD_eq_getLast?, List.getLast?_map]
  cases (Text.split '/' path.toList).getLast? with
  | none => rfl
  | some last => simp

/-- The folded components of a path are those of its directory, which the last component joins. -/
theorem foldedStack_split (path : String) :
    foldedStack (Text.split '/' path.toList) =
      FilePath.foldComponent (foldedStack (Text.split '/' path.toList).dropLast)
        (baseName path).toList := by
  have some := Text.split_ne_nil '/' path.toList
  rw [toList_baseName, List.getLastD_eq_getLast?, List.getLast?_eq_some_getLast some,
    Option.getD_some]
  conv_lhs => rw [← List.dropLast_concat_getLast some]
  unfold foldedStack
  rw [List.foldl_append]
  rfl

theorem startsAtRoot_append {ending : String} (isEnding : IsEnding ending) (path : String) :
    FilePath.startsAtRoot (path ++ ending).toList = FilePath.startsAtRoot path.toList := by
  have same := origin_append isEnding path
  unfold origin at same
  cases first : FilePath.startsAtRoot (path ++ ending).toList <;>
    cases second : FilePath.startsAtRoot path.toList <;>
    simp_all

theorem split_append_ending {ending : String} (isEnding : IsEnding ending) (path : String) :
    Text.split '/' (path ++ ending).toList =
      (Text.split '/' path.toList).dropLast ++ [(baseName path ++ ending).toList] := by
  rw [String.toList_append, Text.split_append_plain isEnding.slashless, String.toList_append,
    toList_baseName]

theorem basePlace_append {ending : String} (isEnding : IsEnding ending) (path : String) :
    basePlace (path ++ ending) = basePlace path := by
  unfold basePlace
  rw [startsAtRoot_append isEnding, split_append_ending isEnding, List.dropLast_concat]

/-- A component that is no step joins the folded ones. -/
theorem foldComponent_of_long (stack : List (List Char)) {component : List Char}
    (long : 3 ≤ component.length) :
    FilePath.foldComponent stack component = component :: stack := by
  have apart {step : List Char} (short : step.length < 3) : component ≠ step := by
    rintro rfl
    omega
  unfold FilePath.foldComponent
  rw [if_neg (not_or.mpr ⟨apart (by decide), apart (by decide)⟩), if_neg (apart (by decide))]

/-- What is made from a path by adding to its end stands in the directory of the path. -/
theorem place_append {ending : String} (isEnding : IsEnding ending) (path : String) :
    place (path ++ ending) = basePlace path ++ [baseName path ++ ending] := by
  have long := isEnding.long_append (baseName path)
  have noStep : (baseName path ++ ending).toList ≠ ['.', '.'] := by
    intro same
    rw [same] at long
    exact absurd long (by decide)
  unfold place basePlace foldedStack
  rw [startsAtRoot_append isEnding, split_append_ending isEnding, List.foldl_append,
    List.foldl_cons, List.foldl_nil, foldComponent_of_long _ long, stackPlace_name _ _ noStep,
    String.ofList_toList]

/-- The places in front of a place have no longer labels. -/
theorem length_label_le_of_prefix {front whole : List String} (isFront : front <+: whole) :
    (label front).toList.length ≤ (label whole).toList.length := by
  obtain ⟨rest, rfl⟩ := isFront
  by_cases noRest : rest = []
  · rw [noRest, List.append_nil]
  · by_cases noFront : front = []
    · subst noFront
      exact Nat.zero_le _
    · unfold label
      rw [String.intercalate_append_of_ne_nil noFront noRest]
      simp only [String.toList_append, List.length_append]
      omega

/-- The label of a place is not longer than what its last component adds to its directory. -/
theorem length_label_fold_le (rooted : Bool) (stack : List (List Char)) (component : List Char) :
    (label (stackPlace rooted (FilePath.foldComponent stack component))).toList.length ≤
      (lead (stackPlace rooted stack)).toList.length + component.length := by
  have here := length_label_le (stackPlace rooted stack)
  have push (component : List Char) :
      (label (stackPlace rooted (component :: stack))).toList.length ≤
        (lead (stackPlace rooted stack)).toList.length + component.length := by
    rw [stackPlace]
    split
    · omega
    · rw [length_label_concat, String.toList_ofList]
  unfold FilePath.foldComponent
  split
  · omega
  · split
    · rename_i step
      subst step
      cases stack with
      | nil => exact push _
      | cons last before =>
          dsimp only
          split
          · exact push _
          · rename_i noStep
            have above := length_label_dropLast_le (stackPlace rooted (last :: before))
            rw [stackPlace_name rooted before noStep, List.dropLast_concat] at above
            rw [stackPlace_name rooted before noStep]
            omega
    · exact push component

/-- The places beside a path have longer labels than the place of the path. -/
theorem length_label_place_lt {ending : String} (isEnding : IsEnding ending) (path : String) :
    (label (place path)).toList.length < (label (place (path ++ ending))).toList.length := by
  have bound := length_label_fold_le (FilePath.startsAtRoot path.toList)
    (foldedStack (Text.split '/' path.toList).dropLast) (baseName path).toList
  rw [← foldedStack_split] at bound
  have size := length_label_concat (basePlace path) (baseName path ++ ending)
  rw [String.toList_append, List.length_append] at size
  have long := isEnding.long
  rw [place_append isEnding, size]
  change _ < (lead (stackPlace _ _)).toList.length + _
  unfold place
  omega

/-- The place is deeper than the directory of a path. -/
def IsBelow (path : String) (other : List String) : Prop :=
  (lead (basePlace path)).toList.length < (label other).toList.length

theorem isBelow_append {ending : String} (isEnding : IsEnding ending) (path : String) :
    IsBelow path (place (path ++ ending)) := by
  have long := isEnding.long_append (baseName path)
  unfold IsBelow
  rw [place_append isEnding, length_label_concat]
  omega

end CodeGraph.Disk

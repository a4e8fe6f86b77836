import CodeGraph.Proofs.GroundedPath
import Mathlib.Data.List.TakeWhile

/-!
This file says which directories are made for a path: those above its place. Where the directory of
the path is reached already, they are all there, and none has to be made.
-/

namespace CodeGraph.Disk

variable {disk : Disk} {rooted : Bool}

theorem isStack_of_append {front stack : List (List Char)}
    (isStack : FilePath.IsStack (front ++ stack)) : FilePath.IsStack front := by
  induction front with
  | nil => trivial
  | cons component rest inductionHypothesis =>
      obtain ⟨filled, noDot, steps, below⟩ := isStack
      exact ⟨filled, noDot, fun step lower member => steps step lower
        (List.mem_append_left _ member), inductionHypothesis below⟩

theorem nil_notMem_of_isStack {stack : List (List Char)} (isStack : FilePath.IsStack stack) :
    [] ∉ stack := by
  induction stack with
  | nil => exact List.not_mem_nil
  | cons component below inductionHypothesis =>
      exact List.not_mem_cons_of_ne_of_not_mem (Ne.symm isStack.1)
        (inductionHypothesis isStack.2.2.2)

/-- The stack of the directory of a path: without the last component. -/
def directoryStack (path : String) : List (List Char) :=
  (foldedStack (Text.split '/' path.toList)).tail

theorem tail_foldComponent_suffix (stack : List (List Char)) (component : List Char) :
    (FilePath.foldComponent stack component).tail <:+ stack := by
  unfold FilePath.foldComponent
  split
  · exact List.tail_suffix stack
  · split
    · cases stack with
      | nil => exact List.suffix_refl _
      | cons last before =>
          dsimp only
          split
          · exact List.suffix_refl _
          · exact (List.tail_suffix before).trans (List.suffix_cons last before)
    · exact List.suffix_refl _

/-- The directory of a path stands above the one in which its last component is looked up. -/
theorem directoryStack_suffix (path : String) :
    directoryStack path <:+ foldedStack (Text.split '/' path.toList).dropLast := by
  unfold directoryStack
  rw [foldedStack_split]
  exact tail_foldComponent_suffix _ _

theorem directoryStack_isStack (path : String) : FilePath.IsStack (directoryStack path) := by
  have whole : FilePath.IsStack (foldedStack (Text.split '/' path.toList)) :=
    FilePath.foldl_isStack _ trivial
  rw [← List.take_append_drop 1 (foldedStack (Text.split '/' path.toList))] at whole
  unfold directoryStack
  rw [← List.drop_one]
  exact whole.below

/-- A component of the directory of a path is one of the path. -/
theorem mem_directoryStack {path : String} {component : List Char}
    (member : component ∈ directoryStack path) : component ∈ Text.split '/' path.toList :=
  (FilePath.mem_foldl (List.mem_of_mem_tail member)).resolve_right List.not_mem_nil

theorem directoryStack_isSlashless (path : String) : IsSlashless (directoryStack path) :=
  fun _ member => Text.notMem_of_mem_split (mem_directoryStack member)

theorem foldComponents_dropLast (path : String) :
    (FilePath.foldComponents (Text.split '/' path.toList)).dropLast =
      (directoryStack path).reverse := by
  unfold FilePath.foldComponents directoryStack foldedStack
  rw [List.dropLast_reverse]

/-- The components of a text lead through padding, which stays where it is, and then through a
stack. -/
structure LeadsThrough (text : String) (rooted : Bool) (padding stack : List (List Char)) :
    Prop where
  filled : (text == "") = false
  origin : origin text = stackPlace rooted []
  components : components text = (padding ++ stack.reverse).map String.ofList
  padded : ∀ component ∈ padding, component = [] ∨ component = ['.']
  isStack : FilePath.IsStack stack

/-- Folded components that are joined begin neither with a slash nor with nothing. -/
theorem join_folded {stack : List (List Char)} (isStack : FilePath.IsStack stack)
    (slashless : IsSlashless stack) (some : stack ≠ []) :
    ∃ c rest, Text.join ['/'] stack.reverse = c :: rest ∧ c ≠ '/' := by
  cases first : stack.reverse with
  | nil => exact absurd (List.reverse_eq_nil_iff.mp first) some
  | cons component behind =>
      have member : component ∈ stack := List.mem_reverse.mp (first ▸ List.mem_cons_self)
      cases component with
      | nil => exact absurd member (nil_notMem_of_isStack isStack)
      | cons c more =>
          have plain : c ≠ '/' := fun here => slashless _ member (here ▸ List.mem_cons_self)
          cases behind with
          | nil => exact ⟨c, more, rfl, plain⟩
          | cons other others => exact ⟨c, _, rfl, plain⟩

/-- The text of the directory of a relative path. -/
theorem leadsThrough_relative {path : String}
    (relative : FilePath.startsAtRoot path.toList = false) :
    ∃ padding, LeadsThrough (foldedDirectory path) false padding (directoryStack path) := by
  have isStack := directoryStack_isStack path
  have slashless := directoryStack_isSlashless path
  by_cases empty : directoryStack path = []
  · have text : foldedDirectory path = "." := by
      unfold foldedDirectory
      dsimp only
      rw [relative, foldComponents_dropLast, empty]
      rfl
    rw [text, empty]
    exact ⟨[['.']], by decide, rfl, rfl, by simp, trivial⟩
  · have text : foldedDirectory path =
        String.ofList (Text.join ['/'] (directoryStack path).reverse) := by
      unfold foldedDirectory
      dsimp only
      rw [relative, foldComponents_dropLast]
      simp [empty]
    have parts := components_join (List.reverse_ne_nil_iff.mpr empty)
      fun part member => slashless part (List.mem_reverse.mp member)
    obtain ⟨c, rest, begins, plain⟩ := join_folded isStack slashless empty
    refine ⟨[], ?_, ?_, ?_, by simp, isStack⟩
    · rw [text, begins, beq_eq_false_iff_ne]
      exact fun same => absurd (congrArg String.toList same) (by simp)
    · rw [text]
      unfold origin
      rw [String.toList_ofList, begins, startsAtRoot_cons, decide_eq_false plain]
      rfl
    · rw [text, parts, List.nil_append]

/-- The text of the directory of a path from the root, without the steps up at its front. -/
theorem leadsThrough_rooted {path : String} (atRoot : FilePath.startsAtRoot path.toList = true) :
    ∃ padding stack steps, LeadsThrough (foldedDirectory path) true padding stack ∧
      directoryStack path = stack ++ steps ∧ ∀ component ∈ steps, component = ['.', '.'] := by
  let isStep : List Char → Bool := (· == stepUp.toList)
  let names := (directoryStack path).reverse.dropWhile isStep
  let steps := (directoryStack path).reverse.takeWhile isStep
  have whole : directoryStack path = names.reverse ++ steps.reverse := by
    rw [← List.reverse_append, List.takeWhile_append_dropWhile, List.reverse_reverse]
  have isStack : FilePath.IsStack names.reverse :=
    isStack_of_append (whole ▸ directoryStack_isStack path)
  have allSteps : ∀ component ∈ steps.reverse, component = ['.', '.'] := by
    intro component member
    have step := List.mem_takeWhile_imp (List.mem_reverse.mp member)
    exact eq_of_beq step
  have text : foldedDirectory path = root ++ String.ofList (Text.join ['/'] names) := by
    unfold foldedDirectory
    dsimp only
    rw [atRoot, foldComponents_dropLast]
    rfl
  have letters : (foldedDirectory path).toList = '/' :: Text.join ['/'] names := by
    rw [text, String.toList_append, String.toList_ofList]
    rfl
  have parts : components (foldedDirectory path) =
      "" :: components (String.ofList (Text.join ['/'] names)) := by
    unfold components
    rw [letters, String.toList_ofList]
    rfl
  have filled : (foldedDirectory path == "") = false := by
    rw [beq_eq_false_iff_ne]
    intro same
    rw [same] at letters
    cases letters
  have begins : origin (foldedDirectory path) = stackPlace true [] := by
    unfold origin
    rw [letters]
    rfl
  -- Without names the text is the slash alone, which has two empty components.
  by_cases empty : names = []
  · refine ⟨[[], []], names.reverse, steps.reverse, ⟨filled, begins, ?_, by simp, isStack⟩, whole,
      allSteps⟩
    rw [parts, empty]
    rfl
  · have inside : ∀ part ∈ names, '/' ∉ part := fun part member =>
      directoryStack_isSlashless path part
        (whole ▸ List.mem_append_left _ (List.mem_reverse.mpr member))
    refine ⟨[[]], names.reverse, steps.reverse, ⟨filled, begins, ?_, by simp, isStack⟩, whole,
      allSteps⟩
    rw [parts, components_join empty inside, List.reverse_reverse]
    rfl

/-- The text of the directory of a path leads to the place of the directory, through the places
above it. -/
theorem leadsThrough_foldedDirectory (path : String) :
    ∃ padding stack steps,
      LeadsThrough (foldedDirectory path) (FilePath.startsAtRoot path.toList) padding stack ∧
      directoryStack path = stack ++ steps ∧
      (FilePath.startsAtRoot path.toList = false → steps = []) ∧
      ∀ component ∈ steps, component = ['.', '.'] := by
  cases begins : FilePath.startsAtRoot path.toList with
  | false =>
      obtain ⟨padding, through⟩ := leadsThrough_relative begins
      exact ⟨padding, directoryStack path, [], through, (List.append_nil _).symm, fun _ => rfl,
        fun _ member => absurd member List.not_mem_nil⟩
  | true =>
      obtain ⟨padding, stack, steps, through, whole, all⟩ := leadsThrough_rooted begins
      exact ⟨padding, stack, steps, through, whole, fun other => absurd other (by decide), all⟩

/-- A component that stays where it is leads on from a directory to itself. -/
theorem enter_padding {place : List String} {component : List Char}
    (directory : disk.isDirectory place = true) (stays : component = [] ∨ component = ['.']) :
    disk.enter place (String.ofList component) = .ok place := by
  obtain ⟨age, found⟩ := isDirectory_eq_true_iff.mp directory
  have inside : staysInside (String.ofList component) = true := by
    rcases stays with rfl | rfl <;> decide
  unfold enter
  rw [found]
  exact if_pos inside

theorem leads_padding {place : List String} {padding : List (List Char)} {rest : List String}
    (padded : ∀ component ∈ padding, component = [] ∨ component = ['.'])
    (directory : disk.isDirectory place = true) (further : disk.Leads place rest) :
    disk.Leads place (padding.map String.ofList ++ rest) := by
  induction padding with
  | nil => exact further
  | cons component more inductionHypothesis =>
      exact ⟨place, enter_padding directory (padded component List.mem_cons_self), directory,
        inductionHypothesis fun other member => padded other (List.mem_cons_of_mem _ member)⟩

/-- A grounded stack leads through its places. -/
theorem IsGrounded.leads {stack : List (List Char)} {rest : List String}
    (grounded : disk.IsGrounded rooted stack)
    (further : disk.Leads (stackPlace rooted stack) rest) :
    disk.Leads (stackPlace rooted []) (stack.reverse.map String.ofList ++ rest) := by
  induction stack generalizing rest with
  | nil => exact further
  | cons component below inductionHypothesis =>
      obtain ⟨entered, directory, before⟩ := grounded
      rw [List.reverse_cons, List.map_append, List.append_assoc]
      exact inductionHypothesis before ⟨_, entered, directory, further⟩

theorem LeadsThrough.leads {text : String} {padding stack : List (List Char)}
    (through : LeadsThrough text rooted padding stack) (grounded : disk.IsGrounded rooted stack) :
    disk.Leads (Disk.origin text) (Disk.components text) := by
  have behind : disk.Leads (stackPlace rooted []) (stack.reverse.map String.ofList ++ []) :=
    grounded.leads trivial
  rw [through.origin, through.components, List.map_append]
  rw [List.append_nil] at behind
  exact leads_padding through.padded (isDirectory_origin disk rooted) behind

/-- Where the last component of a path can be looked up, the directories of the path are there. -/
theorem leads_foldedDirectory {path : String} {parent : List String}
    (led : disk.base path = .ok parent) (directory : disk.isDirectory parent = true) :
    disk.Leads (origin (foldedDirectory path)) (components (foldedDirectory path)) := by
  obtain ⟨padding, stack, steps, through, whole, relative, all⟩ :=
    leadsThrough_foldedDirectory path
  have grounded := (isGrounded_of_base led directory).of_suffix (directoryStack_suffix path)
  rw [whole] at grounded
  refine through.leads ?_
  cases begins : FilePath.startsAtRoot path.toList with
  | false =>
      rw [begins, relative begins, List.append_nil] at grounded
      exact grounded
  | true =>
      rw [begins] at grounded
      exact grounded.of_append_steps all

/-- A path can be looked up from the directory in which its last component stands. -/
theorem base_of_resolve {path : String} {last : List String}
    (resolved : disk.resolve path = .ok last) :
    disk.base path = .ok (basePlace path) ∧ disk.isDirectory (basePlace path) = true := by
  obtain ⟨parent, led, entered⟩ := resolve_path resolved
  rw [← base_eq_basePlace led]
  exact ⟨led, isDirectory_of_enter entered⟩

theorem base_append {ending : String} (isEnding : IsEnding ending) (path : String) :
    disk.base (path ++ ending) = disk.base path := by
  unfold base
  rw [origin_append isEnding, components_append isEnding, List.dropLast_concat]

theorem fitStart_prefix (size : Nat) (components : List String) :
    (fitStart size components).1 <+: components := by
  induction components generalizing size with
  | nil => exact List.prefix_refl _
  | cons component rest inductionHypothesis =>
      unfold fitStart
      cases componentFault? size component with
      | some fault => exact List.nil_prefix
      | none => exact List.cons_prefix_cons.mpr ⟨rfl, inductionHypothesis _⟩

theorem Leads.front {place front behind : List String}
    (leads : disk.Leads place (front ++ behind)) : disk.Leads place front := by
  induction front generalizing place with
  | nil => trivial
  | cons component rest inductionHypothesis =>
      obtain ⟨next, entered, directory, further⟩ := leads
      exact ⟨next, entered, directory, inductionHypothesis further⟩

/-- Components without null characters are unfit only where they are too long. -/
theorem fitStart_fault {size : Nat} {components : List String} {fault : DiskFault}
    (plain : ∀ component ∈ components, '\x00' ∉ component.toList)
    (unfit : (fitStart size components).2 = some fault) : fault = .nameTooLong := by
  induction components generalizing size with
  | nil => cases unfit
  | cons component rest inductionHypothesis =>
      have noNull : component.toList.contains '\x00' = false := by
        simpa using plain component List.mem_cons_self
      unfold fitStart componentFault? at unfit
      rw [noNull] at unfit
      by_cases long : pathLimit < size + component.utf8ByteSize
      · simp only [Bool.false_eq_true, if_false, if_pos long, Option.some.injEq] at unfit
        exact unfit.symm
      · simp only [Bool.false_eq_true, if_false, if_neg long] at unfit
        exact inductionHypothesis (fun other member => plain other (List.mem_cons_of_mem _ member))
          unfit

/-- Directories that are there need not be made; only their path can be too long. -/
theorem makeBehind_of_leads {size : Nat} {path : String} (filled : (path == "") = false)
    (plain : '\x00' ∉ path.toList) (leads : disk.Leads (origin path) (components path)) :
    disk.makeBehind size path = (.ok (), disk) ∨
      disk.makeBehind size path = (.error .nameTooLong, disk) := by
  have noNull : ∀ component ∈ components path, '\x00' ∉ component.toList := by
    intro component member null
    obtain ⟨part, inside, rfl⟩ := List.mem_map.mp member
    rw [String.toList_ofList] at null
    exact plain (Text.mem_of_mem_split inside null)
  have shallow : disk.isTooDeep path = false := by
    unfold isTooDeep
    rw [missingFrom_of_leads leads]
    rfl
  obtain ⟨behind, whole⟩ := fitStart_prefix size (components path)
  rw [← whole] at leads
  have made := makeAlong_of_leads leads.front false
  unfold makeBehind
  simp only [filled, shallow, made, Bool.false_eq_true, if_false]
  cases unfit : (fitStart size (components path)).2 with
  | none => exact .inl rfl
  | some fault =>
      rw [fitStart_fault noNull unfit]
      exact .inr rfl

/-- The directory of a path has only characters of the path, but for separators and dots. -/
theorem null_notMem_foldedDirectory {path : String} (plain : '\x00' ∉ path.toList) :
    '\x00' ∉ (foldedDirectory path).toList := by
  obtain ⟨padding, stack, steps, through, whole, -, -⟩ := leadsThrough_foldedDirectory path
  have parts : Text.split '/' (foldedDirectory path).toList = padding ++ stack.reverse := by
    have same := through.components
    unfold components at same
    exact List.map_injective_iff.mpr (fun _ _ => String.ofList_inj.mp) same
  intro null
  rw [← Text.join_split '/' (foldedDirectory path).toList, parts] at null
  rcases FilePath.mem_join null with separator | ⟨part, member, inside⟩
  · exact absurd separator (by decide)
  · rcases List.mem_append.mp member with padded | stacked
    · rcases through.padded part padded with rfl | rfl <;> exact absurd inside (by decide)
    · have among : part ∈ directoryStack path :=
        whole ▸ List.mem_append_left _ (List.mem_reverse.mp stacked)
      exact plain (Text.mem_of_mem_split (mem_directoryStack among) inside)

/-- Where the last component of a path can be looked up, no directory has to be made for it. -/
theorem makeFoldedDirectory_of_base {path : String} {parent : List String}
    (led : disk.base path = .ok parent) (directory : disk.isDirectory parent = true)
    (plain : '\x00' ∉ path.toList) :
    disk.makeFoldedDirectory path = (.ok (), disk) ∨
      disk.makeFoldedDirectory path = (.error .nameTooLong, disk) := by
  obtain ⟨padding, stack, steps, through, -⟩ := leadsThrough_foldedDirectory path
  exact makeBehind_of_leads through.filled (null_notMem_foldedDirectory plain)
    (leads_foldedDirectory led directory)

end CodeGraph.Disk

import CodeGraph.Proofs.FollowedPath

/-!
This file says which places were entered on the way to a directory: all those that are left once
detours are cancelled, each from the one before it.
-/

namespace CodeGraph.Disk

variable {disk : Disk} {rooted : Bool}

theorem isDirectory_of_enter {place next : List String} {component : String}
    (entered : disk.enter place component = .ok next) : disk.isDirectory place = true :=
  (enter_keeps (Keeps.refl disk) entered).1

/-- The components of a stack were entered one after the other, and the last place is a
directory. -/
def IsGrounded (disk : Disk) (rooted : Bool) : List (List Char) → Prop
  | [] => True
  | component :: below =>
      disk.enter (stackPlace rooted below) (String.ofList component) =
          .ok (stackPlace rooted (component :: below)) ∧
        disk.isDirectory (stackPlace rooted (component :: below)) = true ∧
        disk.IsGrounded rooted below

theorem isDirectory_origin (disk : Disk) (rooted : Bool) :
    disk.isDirectory (stackPlace rooted []) = true := by
  cases rooted <;> exact isDirectory_of_standing disk rfl

theorem IsGrounded.of_suffix {stack below : List (List Char)}
    (grounded : disk.IsGrounded rooted stack) (isSuffix : below <:+ stack) :
    disk.IsGrounded rooted below := by
  obtain ⟨front, rfl⟩ := isSuffix
  induction front with
  | nil => exact grounded
  | cons component rest inductionHypothesis => exact inductionHypothesis grounded.2.2

/-- A component that leads from a grounded stack to a directory joins it. -/
theorem IsGrounded.foldComponent {stack : List (List Char)} {component : List Char}
    (grounded : disk.IsGrounded rooted stack)
    (entered : disk.enter (stackPlace rooted stack) (String.ofList component) =
      .ok (stackPlace rooted (FilePath.foldComponent stack component)))
    (directory : disk.isDirectory
      (stackPlace rooted (FilePath.foldComponent stack component)) = true) :
    disk.IsGrounded rooted (FilePath.foldComponent stack component) := by
  have push (joined : FilePath.foldComponent stack component = component :: stack) :
      disk.IsGrounded rooted (FilePath.foldComponent stack component) := by
    rw [joined] at entered directory ⊢
    exact ⟨entered, directory, grounded⟩
  by_cases inside : component = [] ∨ component = ['.']
  · have same : FilePath.foldComponent stack component = stack := if_pos inside
    rw [same]
    exact grounded
  · by_cases step : component = ['.', '.']
    · cases stack with
      | nil =>
          refine push ?_
          unfold FilePath.foldComponent
          rw [if_neg inside, if_pos step]
      | cons last before =>
          by_cases lastStep : last = ['.', '.']
          · refine push ?_
            unfold FilePath.foldComponent
            rw [if_neg inside, if_pos step]
            exact if_pos lastStep
          · have popped : FilePath.foldComponent (last :: before) component = before := by
              unfold FilePath.foldComponent
              rw [if_neg inside, if_pos step]
              exact if_neg lastStep
            rw [popped]
            exact grounded.2.2
    · refine push ?_
      unfold FilePath.foldComponent
      rw [if_neg inside, if_neg step]

/-- Components that lead from a grounded stack to a directory leave a grounded one behind. -/
theorem IsGrounded.follow {components stack : List (List Char)} {last : List String}
    (grounded : disk.IsGrounded rooted stack) (isStack : FilePath.IsStack stack)
    (slashless : IsSlashless stack) (plain : IsSlashless components)
    (followed : disk.follow (stackPlace rooted stack) (components.map String.ofList) = .ok last)
    (directory : disk.isDirectory last = true) :
    disk.IsGrounded rooted (components.foldl FilePath.foldComponent stack) := by
  induction components generalizing stack with
  | nil => exact grounded
  | cons component rest inductionHypothesis =>
      rw [List.map_cons, Disk.follow] at followed
      cases entered : disk.enter (stackPlace rooted stack) (String.ofList component) with
      | error fault => rw [entered] at followed; cases followed
      | ok next =>
          have same := enter_stackPlace isStack slashless entered
          rw [entered] at followed
          simp only [Except.bind] at followed
          rw [same] at entered followed
          -- The next place is entered by the component behind it, or it is the last one.
          have reached : disk.isDirectory
              (stackPlace rooted (FilePath.foldComponent stack component)) = true := by
            cases rest with
            | nil => exact Except.ok.inj followed ▸ directory
            | cons other more =>
                rw [List.map_cons, Disk.follow] at followed
                cases further : disk.enter
                    (stackPlace rooted (FilePath.foldComponent stack component))
                    (String.ofList other) with
                | error fault => rw [further] at followed; cases followed
                | ok behind => exact isDirectory_of_enter further
          exact inductionHypothesis (grounded.foldComponent entered reached)
            (FilePath.foldComponent_isStack isStack component)
            (slashless.foldComponent (plain component List.mem_cons_self))
            (fun other member => plain other (List.mem_cons_of_mem _ member)) followed

/-- A stack that stands on steps up from the root leads to the same place without them. -/
theorem stackPlace_append_steps {steps : List (List Char)}
    (all : ∀ component ∈ steps, component = ['.', '.']) (stack : List (List Char)) :
    stackPlace true (stack ++ steps) = stackPlace true stack := by
  induction stack with
  | nil => exact (stackPlace_steps all).1
  | cons component below inductionHypothesis =>
      rw [List.cons_append, stackPlace, stackPlace, inductionHypothesis]

theorem IsGrounded.of_append_steps {steps : List (List Char)}
    (all : ∀ component ∈ steps, component = ['.', '.']) {stack : List (List Char)}
    (grounded : disk.IsGrounded true (stack ++ steps)) : disk.IsGrounded true stack := by
  induction stack with
  | nil => trivial
  | cons component below inductionHypothesis =>
      obtain ⟨entered, directory, further⟩ := grounded
      have here := stackPlace_append_steps all (component :: below)
      have before := stackPlace_append_steps all below
      refine ⟨?_, ?_, inductionHypothesis further⟩
      · rw [← here, ← before]
        exact entered
      · rw [← here]
        exact directory

/-- The directory in which the last component of a path is looked up was entered place by place. -/
theorem isGrounded_of_base {path : String} {parent : List String}
    (led : disk.base path = .ok parent) (directory : disk.isDirectory parent = true) :
    disk.IsGrounded (FilePath.startsAtRoot path.toList)
      (foldedStack (Text.split '/' path.toList).dropLast) := by
  unfold base components at led
  rw [← List.map_dropLast] at led
  exact IsGrounded.follow trivial trivial (fun _ member => absurd member
    List.not_mem_nil) (split_isSlashless path).dropLast led directory

end CodeGraph.Disk

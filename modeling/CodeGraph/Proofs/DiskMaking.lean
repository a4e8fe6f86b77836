import CodeGraph.Proofs.DiskSteps
import CodeGraph.Proofs.FoldedPath

/-!
This file says that directories which were made can be made again, and then nothing happens.
-/

namespace CodeGraph.Disk

/-- Every component leads on to a directory. -/
def Leads (disk : Disk) (place : List String) : List String → Prop
  | [] => True
  | component :: rest => ∃ next, disk.enter place component = .ok next ∧
      disk.isDirectory next = true ∧ disk.Leads next rest

theorem Leads.keeps {first second : Disk} (keeps : Keeps first second)
    {place components : List String} (leads : first.Leads place components) :
    second.Leads place components := by
  induction components generalizing place with
  | nil => trivial
  | cons component rest inductionHypothesis =>
      obtain ⟨next, entered, directory, further⟩ := leads
      exact ⟨next, (enter_keeps keeps entered).2, keeps.directories next directory,
        inductionHypothesis further⟩

theorem isDirectory_eq_true_iff {disk : Disk} {place : List String} :
    disk.isDirectory place = true ↔ ∃ age, disk.node? place = some (.directory age) := by
  unfold isDirectory
  cases disk.node? place with
  | none => simp
  | some node => cases node <;> simp [DiskNode.isDirectory]

/-- Directories that are there already are not made. -/
theorem makeAlong_of_leads {disk : Disk} {place components : List String}
    (leads : disk.Leads place components) (made : Bool) :
    disk.makeAlong made place components = (.ok (), disk) := by
  induction components generalizing place with
  | nil => rfl
  | cons component rest inductionHypothesis =>
      obtain ⟨next, entered, directory, further⟩ := leads
      obtain ⟨age, found⟩ := isDirectory_eq_true_iff.mp directory
      unfold makeAlong
      simp only [entered, found]
      exact inductionHypothesis further

theorem missingFrom_of_leads {disk : Disk} {place components : List String}
    (leads : disk.Leads place components) : disk.missingFrom place components = [] := by
  induction components generalizing place with
  | nil => rfl
  | cons component rest inductionHypothesis =>
      obtain ⟨next, entered, directory, further⟩ := leads
      obtain ⟨age, found⟩ := isDirectory_eq_true_iff.mp directory
      unfold missingFrom
      simp only [entered, found, Option.isSome_some, if_true]
      exact inductionHypothesis further

/-- Making directories takes none away, also when it fails. -/
theorem makeAlong_keeps (disk : Disk) (made : Bool) (place components : List String) :
    Keeps disk (disk.makeAlong made place components).2 := by
  induction components generalizing disk made place with
  | nil => exact Keeps.refl disk
  | cons component rest inductionHypothesis =>
      unfold makeAlong
      cases disk.enter place component with
      | error fault => exact Keeps.refl disk
      | ok next =>
          dsimp only
          cases found : disk.node? next with
          | none =>
              exact (set_keeps (not_directory_of_none found) _).trans (inductionHypothesis _ _ _)
          | some node =>
              cases node with
              | directory age => exact inductionHypothesis _ _ _
              | file content age =>
                  dsimp only
                  split
                  · exact Keeps.refl disk
                  · split <;> exact Keeps.refl disk

theorem isDirectory_set_directory {disk : Disk} {place : List String}
    (free : disk.isDirectory place = false) (age : Int) :
    (disk.set place (.directory age)).isDirectory place = true := by
  rw [isDirectory_eq_true_iff, node?_of_not_standing (not_standing_of_file free), filed?_set,
    if_pos rfl]
  exact ⟨age, rfl⟩

/-- Unless there is a dot only empty components stay inside a directory. -/
theorem all_empty_of_staysInside {components : List String} (dotless : "." ∉ components)
    (inside : components.all staysInside = true) : components.all (· == "") = true := by
  refine List.all_eq_true.mpr fun component member => ?_
  have stays := List.all_eq_true.mp inside component member
  unfold staysInside at stays
  rcases Bool.or_eq_true_iff.mp stays with empty | dot
  · exact empty
  · exact absurd (eq_of_beq dot ▸ member) dotless

/-- All directories along the components are there once they were made. A dot could hide a file, so
there is none behind the first component. -/
theorem leads_of_makeAlong {disk : Disk} {made : Bool} {place components : List String}
    (dotless : "." ∉ components.tail)
    (done : (disk.makeAlong made place components).1 = .ok ()) :
    (disk.makeAlong made place components).2.Leads place components := by
  induction components generalizing disk made place with
  | nil => trivial
  | cons component rest inductionHypothesis =>
      have behind : "." ∉ rest.tail := fun member => dotless (List.mem_of_mem_tail member)
      unfold makeAlong at done ⊢
      cases entered : disk.enter place component with
      | error fault => rw [entered] at done; cases done
      | ok next =>
          simp only [entered] at done ⊢
          cases found : disk.node? next with
          | none =>
              simp only [found] at done ⊢
              have free := not_directory_of_none found
              have keeps := makeAlong_keeps (disk.set next (.directory 0)) true next rest
              have all := (set_keeps free (.directory 0)).trans keeps
              exact ⟨next, (enter_keeps all entered).2,
                keeps.directories next (isDirectory_set_directory free 0),
                inductionHypothesis behind done⟩
          | some node =>
              cases node with
              | directory age =>
                  simp only [found] at done ⊢
                  have keeps := makeAlong_keeps disk made next rest
                  exact ⟨next, (enter_keeps keeps entered).2,
                    keeps.directories next (isDirectory_eq_true_iff.mpr ⟨age, found⟩),
                    inductionHypothesis behind done⟩
              | file content age =>
                  simp only [found] at done
                  split at done
                  · cases done
                  · rename_i filled
                    split at done
                    · rename_i inside
                      exact absurd (all_empty_of_staysInside dotless
                        (Bool.and_eq_true_iff.mp inside).2) filled
                    · cases done

theorem fitStart_eq {size : Nat} {components : List String}
    (fits : (fitStart size components).2 = none) : (fitStart size components).1 = components := by
  induction components generalizing size with
  | nil => rfl
  | cons component rest inductionHypothesis =>
      unfold fitStart at fits ⊢
      cases fault : componentFault? size component with
      | some cause => simp only [fault] at fits; cases fits
      | none =>
          simp only [fault] at fits ⊢
          rw [inductionHypothesis fits]

/-- The directories of a path are there, and the path is fit to be looked up. -/
structure IsMade (disk : Disk) (size : Nat) (path : String) : Prop where
  filled : (path == "") = false
  fits : (fitStart size (components path)).2 = none
  leads : disk.Leads (origin path) (components path)

theorem IsMade.keeps {first second : Disk} (keeps : Keeps first second) {size : Nat}
    {path : String} (isMade : first.IsMade size path) : second.IsMade size path :=
  { isMade with leads := isMade.leads.keeps keeps }

theorem makeBehind_of_isMade {disk : Disk} {size : Nat} {path : String}
    (isMade : disk.IsMade size path) : disk.makeBehind size path = (.ok (), disk) := by
  have shallow : disk.isTooDeep path = false := by
    unfold isTooDeep
    rw [missingFrom_of_leads isMade.leads]
    rfl
  unfold makeBehind
  simp only [isMade.filled, shallow, fitStart_eq isMade.fits, isMade.fits,
    makeAlong_of_leads isMade.leads, Bool.false_eq_true, if_false]

theorem makeBehind_keeps (disk : Disk) (size : Nat) (path : String) :
    Keeps disk (disk.makeBehind size path).2 := by
  have keeps := makeAlong_keeps disk false (origin path) (fitStart size (components path)).1
  unfold makeBehind
  split
  · exact Keeps.refl disk
  · split
    · exact Keeps.refl disk
    · dsimp only
      rcases made : disk.makeAlong false (origin path) (fitStart size (components path)).1 with
        ⟨outcome, left⟩
      rw [made] at keeps
      split <;> rename_i same _ <;> first
        | exact keeps
        | (cases same; exact keeps)

/-- A directory that was made is there. -/
theorem isMade_of_makeBehind {disk : Disk} {size : Nat} {path : String}
    (dotless : "." ∉ (components path).tail) (done : (disk.makeBehind size path).1 = .ok ()) :
    (disk.makeBehind size path).2.IsMade size path := by
  unfold makeBehind at done ⊢
  split at done
  · cases done
  · rename_i filled
    rw [if_neg filled]
    split at done
    · cases done
    · rename_i shallow
      rw [if_neg shallow]
      dsimp only at done ⊢
      cases fits : (fitStart size (components path)).2 with
      | some fault =>
          rcases making : disk.makeAlong false (origin path)
            (fitStart size (components path)).1 with ⟨cause | _, left⟩
          · simp only [fits, making] at done
            cases cause <;> cases done
          · simp only [fits, making] at done
            cases done
      | none =>
          simp only [fits] at done ⊢
          rw [fitStart_eq fits] at done ⊢
          exact ⟨by simpa using filled, fits, leads_of_makeAlong dotless done⟩

/-- A folded component names something. -/
theorem mem_foldComponents {path component : List Char}
    (member : component ∈ FilePath.foldComponents (Text.split '/' path)) :
    component ≠ ['.'] ∧ '/' ∉ component := by
  unfold FilePath.foldComponents at member
  have inside := List.mem_reverse.mp member
  have isStack := @FilePath.foldl_isStack (Text.split '/' path) [] trivial
  have part := (FilePath.mem_foldl inside).resolve_right List.not_mem_nil
  exact ⟨isStack.ne_dot inside, Text.notMem_of_mem_split part⟩

/-- Joined components are found again. -/
theorem components_join {parts : List (List Char)} (some : parts ≠ [])
    (slashless : ∀ part ∈ parts, '/' ∉ part) :
    components (String.ofList (Text.join ['/'] parts)) = parts.map String.ofList := by
  unfold components
  rw [String.toList_ofList, Text.split_join some slashless]

/-- The directory of a path has no dots, unless it is one. -/
theorem dot_notMem_foldedDirectory (path : String) :
    "." ∉ (components (foldedDirectory path)).tail := by
  have solid {parts : List (List Char)}
      (folded : ∀ part ∈ parts, part ∈ FilePath.foldComponents (Text.split '/' path.toList)) :
      "." ∉ components (String.ofList (Text.join ['/'] parts)) := by
    by_cases none : parts = []
    · subst none
      decide
    · rw [components_join none fun part member => (mem_foldComponents (folded part member)).2]
      intro member
      obtain ⟨part, inside, same⟩ := List.mem_map.mp member
      refine (mem_foldComponents (folded part inside)).1 ?_
      rw [← String.toList_ofList (l := part), same]
      rfl
  have front : ∀ part ∈ (FilePath.foldComponents (Text.split '/' path.toList)).dropLast,
      part ∈ FilePath.foldComponents (Text.split '/' path.toList) :=
    fun part member => (List.dropLast_sublist _).subset member
  unfold foldedDirectory
  dsimp only
  split
  · -- Behind the root stand the components in which no dot is left.
    have tail (text : List Char) : (components (root ++ String.ofList text)).tail =
        components (String.ofList text) := by
      unfold components
      rw [String.toList_append, String.toList_ofList]
      rfl
    rw [tail]
    exact solid fun part member => front part ((List.dropWhile_sublist _).subset member)
  · split
    · decide
    · exact fun member => solid front (List.mem_of_mem_tail member)

/-- The directory of a path is there. -/
def HasDirectoryOf (disk : Disk) (path : String) : Prop :=
  disk.IsMade (if FilePath.startsAtRoot path.toList then 0 else disk.distance)
    (foldedDirectory path)

theorem HasDirectoryOf.keeps {first second : Disk} (keeps : Keeps first second) {path : String}
    (present : first.HasDirectoryOf path) : second.HasDirectoryOf path := by
  unfold HasDirectoryOf
  rw [keeps.distance]
  exact IsMade.keeps keeps present

theorem makeFoldedDirectory_keeps (disk : Disk) (path : String) :
    Keeps disk (disk.makeFoldedDirectory path).2 := makeBehind_keeps disk _ _

theorem makeFoldedDirectory_of_present {disk : Disk} {path : String}
    (present : disk.HasDirectoryOf path) : disk.makeFoldedDirectory path = (.ok (), disk) :=
  makeBehind_of_isMade present

/-- A directory that was made for a path is there. -/
theorem hasDirectoryOf_of_made {disk made : Disk} {path : String}
    (done : disk.makeFoldedDirectory path = (.ok (), made)) : made.HasDirectoryOf path := by
  have keeps := makeFoldedDirectory_keeps disk path
  have isMade := isMade_of_makeBehind (dot_notMem_foldedDirectory path) (congrArg Prod.fst done)
  have left : (disk.makeFoldedDirectory path).2 = made := congrArg Prod.snd done
  rw [← left]
  unfold HasDirectoryOf
  rw [keeps.distance]
  exact isMade

end CodeGraph.Disk

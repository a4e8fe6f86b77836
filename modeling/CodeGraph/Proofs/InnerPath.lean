import CodeGraph.Proofs.SourcePaths

/-!
This file says where a path leads as it is seen from the source root, and which paths are accepted:
those that lead inside, and those to the directory right above the root.
-/

namespace CodeGraph.FilePath

/-- A component that leads down by one level. -/
structure IsName (component : List Char) : Prop where
  filled : component ≠ []
  noStay : component ≠ ['.']
  noStep : component ≠ ['.', '.']

/-- A place as it is seen from the source root, whose own name is not known: so many levels above
the root, and from there down by names, the last one first. -/
structure Position where
  above : Nat
  below : List (List Char)
  named : ∀ name ∈ below, IsName name

namespace Position

def root : Position := ⟨0, [], by simp⟩

/-- The position one level up. -/
def up : Position → Position
  | ⟨above, [], named⟩ => ⟨above + 1, [], named⟩
  | ⟨above, _ :: before, named⟩ =>
      ⟨above, before, fun name member => named name (List.mem_cons_of_mem _ member)⟩

/-- The position of a name one level down. -/
def down (position : Position) (name : List Char) (isName : IsName name) : Position :=
  ⟨position.above, name :: position.below, List.forall_mem_cons.mpr ⟨isName, position.named⟩⟩

/-- One component leads on from a position. -/
def enter (position : Position) (component : List Char) : Position :=
  if stays : component = [] ∨ component = ['.'] then position
  else if steps : component = ['.', '.'] then position.up
  else position.down component ⟨(not_or.mp stays).1, (not_or.mp stays).2, steps⟩

/-- The position to which a relative path leads. -/
def ofPath (path : List Char) : Position := (Text.split '/' path).foldl enter root

/-- Names alone lead from the source root to the position. -/
def IsInside (position : Position) : Prop := position.above = 0 ∧ position.below ≠ []

/-- The components that lead from the source root to the position, the last one first. -/
def stack (position : Position) : List (List Char) :=
  position.below ++ List.replicate position.above ['.', '.']

theorem enter_name (position : Position) {name : List Char} (isName : IsName name) :
    position.enter name = position.down name isName := by
  unfold enter
  rw [dif_neg (not_or.mpr ⟨isName.filled, isName.noStay⟩), dif_neg isName.noStep]

/-- A component that is folded leads on as it does from the position. -/
theorem stack_enter (position : Position) (component : List Char) :
    (position.enter component).stack = foldComponent position.stack component := by
  by_cases stays : component = [] ∨ component = ['.']
  · unfold enter foldComponent
    rw [dif_pos stays, if_pos stays]
  · by_cases steps : component = ['.', '.']
    · unfold enter foldComponent
      rw [dif_neg stays, if_neg stays, dif_pos steps, if_pos steps]
      obtain ⟨above, below, named⟩ := position
      cases below with
      | nil =>
          cases above with
          | zero => rw [steps]; rfl
          | succ above => rw [steps]; rfl
      | cons last before =>
          have isName : IsName last := named last List.mem_cons_self
          exact (if_neg isName.noStep).symm
    · rw [enter_name position ⟨(not_or.mp stays).1, (not_or.mp stays).2, steps⟩]
      unfold foldComponent
      rw [if_neg stays, if_neg steps]
      rfl

theorem stack_foldl (components : List (List Char)) (position : Position) :
    (components.foldl enter position).stack = components.foldl foldComponent position.stack := by
  induction components generalizing position with
  | nil => rfl
  | cons component rest inductionHypothesis =>
      rw [List.foldl_cons, List.foldl_cons, inductionHypothesis, stack_enter]

/-- The components of a position lead there. -/
theorem foldr_stack (position : Position) :
    position.stack.foldr (fun component reached => reached.enter component) root = position := by
  obtain ⟨above, below, named⟩ := position
  induction below with
  | nil =>
      induction above with
      | zero => rfl
      | succ above inductionHypothesis =>
          change enter (List.foldr _ _ (stack ⟨above, [], named⟩)) _ = _
          rw [inductionHypothesis]
          rfl
  | cons name before inductionHypothesis =>
      obtain ⟨isName, others⟩ := List.forall_mem_cons.mp named
      change enter (List.foldr _ _ (stack ⟨above, before, others⟩)) _ = _
      rw [inductionHypothesis, enter_name _ isName]
      rfl

theorem stack_eq_nil_iff {position : Position} : position.stack = [] ↔ position = root := by
  obtain ⟨above, below, named⟩ := position
  simp [stack, root, and_comm]

/-- A position is written with its components, and the source root as a dot. -/
def text (position : Position) : List Char :=
  match position.stack.reverse with
  | [] => ['.']
  | components => Text.join ['/'] components

theorem text_eq_join {position : Position} (apart : position ≠ root) :
    position.text = Text.join ['/'] position.stack.reverse := by
  unfold text
  split
  · rename_i empty
    exact absurd (stack_eq_nil_iff.mp (List.reverse_eq_nil_iff.mp empty)) apart
  · rfl

/-- The names of the position have no slashes. -/
def IsSlashless (position : Position) : Prop := ∀ name ∈ position.below, '/' ∉ name

theorem split_text {position : Position} (apart : position ≠ root)
    (slashless : position.IsSlashless) :
    Text.split '/' position.text = position.stack.reverse := by
  rw [text_eq_join apart]
  refine Text.split_join (mt List.reverse_eq_nil_iff.mp (mt stack_eq_nil_iff.mp apart)) ?_
  intro component member
  rcases List.mem_append.mp (List.mem_reverse.mp member) with name | step
  · exact slashless component name
  · rw [List.eq_of_mem_replicate step]
    decide

/-- The text of a position leads there. -/
theorem ofPath_text {position : Position} (apart : position ≠ root)
    (slashless : position.IsSlashless) : ofPath position.text = position := by
  unfold ofPath
  rw [split_text apart slashless, List.foldl_reverse, foldr_stack]

/-- A text that is refused as leading out has a component that does not lead down. -/
theorem exists_unnamed {path : List Char} (escapes : Escapes path) :
    ∃ component ∈ Text.split '/' path, ¬ IsName component := by
  rcases escapes with rfl | leaves
  · exact ⟨['.'], by decide, fun isName => isName.noStay rfl⟩
  · unfold leavesRoot at leaves
    split at leaves
    · rename_i rest
      refine ⟨['.', '.'], ?_, fun isName => isName.noStep rfl⟩
      have parts : Text.split '/' ('.' :: '.' :: '/' :: rest) =
          ['.', '.'] :: Text.split '/' rest := Text.split_append '/' ['.', '.'] rest
      rw [parts]
      exact List.mem_cons_self
    · cases leaves

theorem IsInside.stack_eq {position : Position} (inside : position.IsInside) :
    position.stack = position.below := by
  unfold stack
  rw [inside.1, List.replicate_zero, List.append_nil]

theorem IsInside.ne_root {position : Position} (inside : position.IsInside) : position ≠ root := by
  rintro rfl
  exact inside.2 rfl

/-- A position that is not inside is the source root or outside of it. -/
theorem eq_root_or_outside {position : Position} (notInside : ¬ position.IsInside) :
    position = root ∨ 0 < position.above := by
  obtain ⟨above, below, named⟩ := position
  cases above with
  | zero =>
      obtain rfl : below = [] := not_not.mp fun some => notInside ⟨rfl, some⟩
      exact .inl rfl
  | succ above => exact .inr (Nat.succ_pos above)

theorem IsInside.text_staysInside {position : Position} (inside : position.IsInside)
    (slashless : position.IsSlashless) : ¬ Escapes position.text := by
  intro escapes
  obtain ⟨component, member, unnamed⟩ := exists_unnamed escapes
  rw [split_text inside.ne_root slashless, List.mem_reverse, inside.stack_eq] at member
  exact unnamed (position.named component member)

/-- From the directory right above the source root on, a text begins with a step up. -/
theorem leavesRoot_text {position : Position} (outside : 0 < position.above)
    (apart : position ≠ root.up) : leavesRoot position.text = true := by
  obtain ⟨above, below, named⟩ := position
  obtain ⟨above, rfl⟩ := Nat.exists_eq_succ_of_ne_zero (Nat.ne_of_gt outside)
  have parts : (stack ⟨above + 1, below, named⟩).reverse =
      ['.', '.'] :: (List.replicate above ['.', '.'] ++ below.reverse) := by
    unfold stack
    rw [List.reverse_append, List.reverse_replicate, List.replicate_succ, List.cons_append]
  unfold text
  rw [parts]
  cases more : List.replicate above ['.', '.'] ++ below.reverse with
  | nil =>
      obtain ⟨noSteps, noNames⟩ := List.append_eq_nil_iff.mp more
      obtain rfl := (List.replicate_eq_nil_iff _).mp noSteps
      obtain rfl := List.reverse_eq_nil_iff.mp noNames
      exact absurd rfl apart
  | cons next others => rfl

/-- The two tests on a folded text find the positions that are not inside, but for the one right
above the source root. -/
theorem escapes_text_iff {position : Position} (slashless : position.IsSlashless) :
    Escapes position.text ↔ ¬ (position.IsInside ∨ position = root.up) := by
  constructor
  · rintro escapes (inside | rfl)
    · exact inside.text_staysInside slashless escapes
    · rcases escapes with dot | leaves
      · cases dot
      · cases leaves
  · intro neither
    obtain ⟨notInside, apart⟩ := not_or.mp neither
    rcases eq_root_or_outside notInside with rfl | outside
    · exact .inl rfl
    · exact .inr (leavesRoot_text outside apart)

/-- A path folds into the text of its position. -/
theorem fold_eq_text (path : List Char) : fold path = (ofPath path).text := by
  unfold fold foldComponents text ofPath
  rw [stack_foldl]
  rfl

theorem ofPath_isSlashless (path : List Char) : (ofPath path).IsSlashless := by
  intro name member
  have staged : name ∈ (ofPath path).stack := List.mem_append_left _ member
  unfold ofPath at staged
  rw [stack_foldl] at staged
  exact Text.notMem_of_mem_split ((mem_foldl staged).resolve_right List.not_mem_nil)

end Position

/-- Names between single slashes, none of which stays or leads up. -/
structure IsInner (path : List Char) (names : List (List Char)) : Prop where
  joined : path = Text.join ['/'] names
  some : names ≠ []
  named : ∀ name ∈ names, IsName name ∧ '/' ∉ name
  slashed : '\\' ∉ path
  relative : startsAtRoot path = false

/-- The path leads to a place outside of the source root, or it does not begin at this root. -/
def LeadsOut (path : List Char) : Prop :=
  isAbsolute path = true ∨ 0 < (Position.ofPath path).above

def LeadsToRoot (path : List Char) : Prop :=
  isAbsolute path = false ∧ Position.ofPath path = Position.root

/-- The path leads to the directory right above the source root. -/
def LeadsToParent (path : List Char) : Prop :=
  isAbsolute path = false ∧ Position.ofPath path = Position.root.up

def LeadsInside (path : List Char) : Prop :=
  isAbsolute path = false ∧ (Position.ofPath path).IsInside

/-- A drive stands in front of the first name below the source root, but not in front of the
path. -/
def HidesDrive (path : List Char) : Prop :=
  LeadsInside path ∧
    ∃ name, (Position.ofPath path).below.getLast? = some name ∧ startsWithDrive name = true

theorem leadsOut_or_leadsToRoot_iff {path : List Char} :
    LeadsOut path ∨ LeadsToRoot path ↔ ¬ LeadsInside path := by
  constructor
  · rintro ((absolute | outside) | ⟨-, atRoot⟩) ⟨relative, inside⟩
    · cases absolute.symm.trans relative
    · exact Nat.ne_of_gt outside inside.1
    · exact inside.ne_root atRoot
  · intro notInside
    by_cases absolute : isAbsolute path = true
    · exact .inl (.inl absolute)
    · have relative : isAbsolute path = false := Bool.not_eq_true _ ▸ absolute
      rcases Position.eq_root_or_outside fun inside => notInside ⟨relative, inside⟩ with
        atRoot | outside
      · exact .inr ⟨relative, atRoot⟩
      · exact .inl (.inr outside)

/-- A path that can be shown is accepted as the text of its position, if it leads inside or to the
directory right above the source root. -/
theorem normalize_eq_text_iff {raw : Value} {path : String} :
    normalize raw = .ok path ↔ raw.CanBeShown ∧
      (LeadsInside (givenPath raw) ∨ LeadsToParent (givenPath raw)) ∧
        path.toList = (Position.ofPath (givenPath raw)).text := by
  have slashless := Position.ofPath_isSlashless (givenPath raw)
  unfold LeadsInside LeadsToParent
  rw [normalize_eq_ok_iff, Position.fold_eq_text, Position.escapes_text_iff slashless, not_not,
    ← and_or_left, and_assoc]
  refine and_congr_right fun _ =>
    ⟨fun accepted => accepted.2, fun accepted => ⟨fun empty => ?_, accepted⟩⟩
  -- A path without a component leads to the source root.
  rw [empty] at accepted
  rcases accepted.2.1 with inside | parent
  · exact inside.2 rfl
  · cases parent

theorem exists_normalize_iff {raw : Value} (shown : raw.CanBeShown) :
    (∃ path, normalize raw = .ok path) ↔
      LeadsInside (givenPath raw) ∨ LeadsToParent (givenPath raw) :=
  ⟨fun ⟨_, normal⟩ => (normalize_eq_text_iff.mp normal).2.1, fun leads =>
    ⟨_, normalize_eq_text_iff.mpr ⟨shown, leads, String.toList_ofList⟩⟩⟩

/-- A path is refused if it leads to the source root or to a place outside of it, but for the
directory right above the root. -/
theorem refuse_iff {raw : Value} (shown : raw.CanBeShown) :
    (∃ refusal, normalize raw = refuse refusal) ↔
      (LeadsOut (givenPath raw) ∨ LeadsToRoot (givenPath raw)) ∧
        ¬ LeadsToParent (givenPath raw) := by
  rw [(normalize_onlyRefuses shown).refuses_iff, exists_normalize_iff shown, not_or,
    leadsOut_or_leadsToRoot_iff]

/-- A step up is not a name. -/
theorem not_isInner_stepUp (names : List (List Char)) : ¬ IsInner ['.', '.'] names := by
  intro inner
  have parts := Text.split_join inner.some fun name member => (inner.named name member).2
  rw [← inner.joined] at parts
  have member : ['.', '.'] ∈ names := by
    rw [← parts]
    exact List.mem_cons_self
  exact (inner.named _ member).1.noStep rfl

/-- The drive of joined components is that of the first. -/
theorem startsWithDrive_join {first : List Char} (filled : first ≠ [])
    (rest : List (List Char)) :
    startsWithDrive (Text.join ['/'] (first :: rest)) = startsWithDrive first := by
  cases rest with
  | nil => rfl
  | cons next others =>
      match first, filled with
      | [_], _ => rfl
      | letter :: mark :: more, _ =>
          by_cases colon : mark = ':'
          · subst colon
            rfl
          · simp [Text.join, startsWithDrive, colon]

section Accepted

variable {raw : Value} {path : String}

/-- An accepted path leads to the position of the path that was given. -/
theorem ofPath_normalize (normal : normalize raw = .ok path) :
    Position.ofPath path.toList = Position.ofPath (givenPath raw) := by
  obtain ⟨-, leads, whole⟩ := normalize_eq_text_iff.mp normal
  rw [whole]
  refine Position.ofPath_text ?_ (Position.ofPath_isSlashless _)
  rcases leads with inside | parent
  · exact inside.2.ne_root
  · rw [parent.2]
    exact fun same => nomatch same

theorem eq_stepUp_iff (normal : normalize raw = .ok path) :
    path = ".." ↔ LeadsToParent (givenPath raw) := by
  obtain ⟨-, leads, whole⟩ := normalize_eq_text_iff.mp normal
  constructor
  · rintro rfl
    refine leads.resolve_left fun inside => ?_
    have above : (Position.ofPath (givenPath raw)).above = 1 :=
      congrArg Position.above (ofPath_normalize normal).symm
    exact absurd (above.symm.trans inside.2.1) (by decide)
  · intro parent
    rw [parent.2] at whole
    exact String.toList_inj.mp whole

/-- A path that leads inside is accepted as the names that lead there. -/
theorem isInner_of_leadsInside (normal : normalize raw = .ok path)
    (inside : LeadsInside (givenPath raw)) :
    IsInner path.toList (Position.ofPath (givenPath raw)).below.reverse := by
  obtain ⟨-, -, whole⟩ := normalize_eq_text_iff.mp normal
  obtain ⟨components, isNormal⟩ := normalize_isNormal normal
  refine ⟨?_, mt List.reverse_eq_nil_iff.mp inside.2.2, fun name member => ?_,
    isNormal.backslash_notMem, (normalize_isRelative normal).2⟩
  · rw [whole, Position.text_eq_join inside.2.ne_root, inside.2.stack_eq]
  · have below := List.mem_reverse.mp member
    exact ⟨Position.named _ name below, Position.ofPath_isSlashless _ name below⟩

theorem exists_isInner_iff (normal : normalize raw = .ok path) :
    (∃ names, IsInner path.toList names) ↔ ¬ LeadsToParent (givenPath raw) := by
  constructor
  · rintro ⟨names, inner⟩ parent
    rw [(eq_stepUp_iff normal).mpr parent] at inner
    exact not_isInner_stepUp names inner
  · intro notParent
    have inside := (normalize_eq_text_iff.mp normal).2.1.resolve_right notParent
    exact ⟨_, isInner_of_leadsInside normal inside⟩

/-- A drive in front of an accepted path was hidden in the path that was given. -/
theorem startsWithDrive_iff (normal : normalize raw = .ok path) :
    startsWithDrive path.toList = true ↔ HidesDrive (givenPath raw) := by
  rcases (normalize_eq_text_iff.mp normal).2.1 with inside | parent
  · have inner := isInner_of_leadsInside normal inside
    obtain ⟨first, rest, parts⟩ := List.exists_cons_of_ne_nil inner.some
    have isName := (inner.named first (parts ▸ List.mem_cons_self)).1
    have top : (Position.ofPath (givenPath raw)).below.getLast? = some first := by
      rw [← List.head?_reverse, parts, List.head?_cons]
    rw [inner.joined, parts, startsWithDrive_join isName.filled]
    unfold HidesDrive
    rw [top]
    simp [inside]
  · refine iff_of_false ?_ fun hidden => ?_
    · rw [(eq_stepUp_iff normal).mpr parent]
      decide
    · have level := hidden.1.2.1
      rw [parent.2] at level
      cases level

end Accepted

/-- An accepted path leads where the given path leads, by names between single slashes. The tests
leave two gaps. The directory right above the source root is accepted, as two dots, though all other
places outside are refused, and so is the root itself. And a drive is in front of an accepted path
if it was hidden in the given one. A value that cannot be shown is a defect; every text can. -/
theorem normalize_confines (raw : Value) :
    (raw.CanBeShown →
      ((∃ refusal, normalize raw = refuse refusal) ↔
        (LeadsOut (givenPath raw) ∨ LeadsToRoot (givenPath raw)) ∧
          ¬ LeadsToParent (givenPath raw)) ∧
      ((∃ path, normalize raw = .ok path) ↔
        LeadsInside (givenPath raw) ∨ LeadsToParent (givenPath raw))) ∧
    (¬ raw.CanBeShown → ∃ cause, normalize raw = crash cause) ∧
    (∀ text, (Value.text text).CanBeShown) ∧
    ∀ path, normalize raw = .ok path →
      Position.ofPath path.toList = Position.ofPath (givenPath raw) ∧
      ((∃ names, IsInner path.toList names) ↔ ¬ LeadsToParent (givenPath raw)) ∧
      (path = ".." ↔ LeadsToParent (givenPath raw)) ∧
      (startsWithDrive path.toList = true ↔ HidesDrive (givenPath raw)) := by
  refine ⟨fun shown => ⟨refuse_iff shown, exists_normalize_iff shown⟩, Value.whenShown_crashes,
    Value.canBeShown_text, fun path normal => ?_⟩
  exact ⟨ofPath_normalize normal, exists_isInner_iff normal, eq_stepUp_iff normal,
    startsWithDrive_iff normal⟩

/-- Detours that end inside, right above the source root, at a hidden drive and further out. -/
theorem normalize_confines_detours :
    (normalize (.text " src\\../lib//./x.py") = .ok "lib/x.py" ∧
      ∃ names, IsInner "lib/x.py".toList names) ∧
    (normalize (.text "a/../..") = .ok ".." ∧ LeadsToParent (givenPath (.text "a/../.."))) ∧
    (normalize (.text "./C:/a") = .ok "C:/a" ∧ HidesDrive (givenPath (.text "./C:/a"))) ∧
    LeadsOut (givenPath (.text "a/../../b")) ∧
      ∃ refusal, normalize (.text "a/../../b") = refuse refusal := by
  obtain ⟨-, -, -, inner⟩ := normalize_confines (.text " src\\../lib//./x.py")
  obtain ⟨-, -, -, above⟩ := normalize_confines (.text "a/../..")
  obtain ⟨-, -, -, drive⟩ := normalize_confines (.text "./C:/a")
  obtain ⟨further, -⟩ := (normalize_confines (.text "a/../../b")).1 (Value.canBeShown_text _)
  obtain ⟨-, named, twoDots, -⟩ := inner "lib/x.py" rfl
  obtain ⟨-, -, stepUp, -⟩ := above ".." rfl
  obtain ⟨-, -, -, hidden⟩ := drive "C:/a" rfl
  have out : LeadsOut (givenPath (.text "a/../../b")) := .inr (by decide)
  refine ⟨⟨rfl, named.mpr fun parent => ?_⟩, ⟨rfl, stepUp.mp rfl⟩, ⟨rfl, hidden.mp rfl⟩, out,
    further.mpr ⟨.inl out, fun parent => ?_⟩⟩
  · exact absurd (twoDots.mpr parent) (by decide)
  · exact absurd (congrArg Position.below parent.2) (by decide)

/-- Not all accepted paths consist of names or have no drive in front, and not all paths that lead
out are refused. -/
theorem exists_unconfined :
    (¬ ∀ (raw : Value) (path : String), normalize raw = .ok path →
      ∃ names, IsInner path.toList names) ∧
    (¬ ∀ (raw : Value) (path : String), normalize raw = .ok path →
      startsWithDrive path.toList = false) ∧
    ¬ ∀ raw : Value, LeadsOut (givenPath raw) → ∃ refusal, normalize raw = refuse refusal := by
  refine ⟨fun inner => ?_, fun driveless => ?_, fun refuses => ?_⟩
  · obtain ⟨names, isInner⟩ := inner (.text "..") ".." rfl
    exact not_isInner_stepUp names isInner
  · cases driveless (.text "./C:/a") "C:/a" rfl
  · obtain ⟨refusal, refused⟩ := refuses (.text "..") (.inr (by decide))
    cases refused

end CodeGraph.FilePath

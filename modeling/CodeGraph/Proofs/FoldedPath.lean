import CodeGraph.FilePath
import CodeGraph.Proofs.Parts
import CodeGraph.Proofs.WriteLimits
import Mathlib.Algebra.Order.Ring.Nat

/-!
This file says what the normal form of a path is, and what happens to it when it is normalized once
more: it stays, or it loses characters.
-/

namespace CodeGraph

namespace Text

/-- Joined parts take their characters and one separator each, but for the last one. -/
theorem length_join (separator : Char) {parts : List (List Char)} (some : parts ≠ []) :
    (join [separator] parts).length + 1 = (parts.map fun part => part.length + 1).sum := by
  induction parts with
  | nil => exact absurd rfl some
  | cons part rest inductionHypothesis =>
      cases rest with
      | nil => rfl
      | cons next more =>
          have behind := inductionHypothesis (List.cons_ne_nil _ _)
          rw [join, List.map_cons, List.sum_cons, ← behind]
          simp only [List.length_append, List.length_singleton]
          omega

/-- A part has only characters of the text. -/
theorem mem_of_mem_split {separator c : Char} {text part : List Char}
    (member : part ∈ split separator text) (inside : c ∈ part) : c ∈ text := by
  induction text generalizing part with
  | nil =>
      rw [split, List.mem_singleton] at member
      rw [member] at inside
      exact inside
  | cons first rest inductionHypothesis =>
      unfold split at member
      split at member
      · rcases List.mem_cons.mp member with rfl | behind
        · cases inside
        · exact List.mem_cons_of_mem _ (inductionHypothesis behind inside)
      · split at member
        · rw [List.mem_singleton.mp member] at inside
          rw [List.mem_singleton.mp inside]
          exact List.mem_cons_self
        · rename_i part' more parts
          rcases List.mem_cons.mp member with rfl | behind
          · rcases List.mem_cons.mp inside with rfl | further
            · exact List.mem_cons_self
            · exact List.mem_cons_of_mem _
                (inductionHypothesis (parts ▸ List.mem_cons_self) further)
          · exact List.mem_cons_of_mem _
              (inductionHypothesis (parts ▸ List.mem_cons_of_mem _ behind) inside)

theorem strip_sublist (text : List Char) : (strip text).Sublist text := by
  have back (text : List Char) : (stripBack text).Sublist text := by
    have reversed := (List.dropWhile_sublist isBlankChar (l := text.reverse)).reverse
    rwa [List.reverse_reverse] at reversed
  exact (back _).trans (List.dropWhile_sublist _)

end Text

namespace FilePath

/-- Folded components in reverse order: none is empty or a single dot, and below a step up there are
only steps up. -/
def IsStack : List (List Char) → Prop
  | [] => True
  | component :: below =>
      component ≠ [] ∧ component ≠ ['.'] ∧
        (component = ['.', '.'] → ∀ lower ∈ below, lower = ['.', '.']) ∧ IsStack below

theorem foldComponent_isStack {stack : List (List Char)} (isStack : IsStack stack)
    (component : List Char) : IsStack (foldComponent stack component) := by
  unfold foldComponent
  split
  · exact isStack
  · rename_i solid
    obtain ⟨filled, noDot⟩ := not_or.mp solid
    split
    · rename_i up
      cases stack with
      | nil => exact ⟨filled, noDot, fun _ _ member => absurd member List.not_mem_nil, trivial⟩
      | cons last before =>
          dsimp only
          split
          · rename_i lastUp
            refine ⟨filled, noDot, fun _ lower member => ?_, isStack⟩
            rcases List.mem_cons.mp member with rfl | below
            · exact lastUp
            · exact isStack.2.2.1 lastUp lower below
          · exact isStack.2.2.2
    · rename_i noUp
      exact ⟨filled, noDot, fun up => absurd up noUp, isStack⟩

theorem foldl_isStack (components : List (List Char)) {stack : List (List Char)}
    (isStack : IsStack stack) : IsStack (components.foldl foldComponent stack) := by
  induction components generalizing stack with
  | nil => exact isStack
  | cons component rest inductionHypothesis =>
      exact inductionHypothesis (foldComponent_isStack isStack component)

theorem IsStack.ne_dot {stack : List (List Char)} (isStack : IsStack stack)
    {component : List Char} (member : component ∈ stack) : component ≠ ['.'] := by
  induction stack with
  | nil => cases member
  | cons first below inductionHypothesis =>
      rcases List.mem_cons.mp member with rfl | behind
      · exact isStack.2.1
      · exact inductionHypothesis isStack.2.2.2 behind

theorem IsStack.below {front stack : List (List Char)} (isStack : IsStack (front ++ stack)) :
    IsStack stack := by
  induction front with
  | nil => exact isStack
  | cons component rest inductionHypothesis => exact inductionHypothesis isStack.2.2.2

/-- A component that fits on the stack is put there. -/
theorem foldComponent_push {stack : List (List Char)} {component : List Char}
    (isStack : IsStack (component :: stack)) :
    foldComponent stack component = component :: stack := by
  obtain ⟨filled, noDot, steps, -⟩ := isStack
  unfold foldComponent
  rw [if_neg (not_or.mpr ⟨filled, noDot⟩)]
  split
  · rename_i up
    cases stack with
    | nil => rfl
    | cons last before => exact if_pos (steps up last List.mem_cons_self)
  · rfl

/-- Folded components are folded into themselves. -/
theorem foldl_folded (components : List (List Char)) {stack : List (List Char)}
    (isStack : IsStack (components.reverse ++ stack)) :
    components.foldl foldComponent stack = components.reverse ++ stack := by
  induction components generalizing stack with
  | nil => rfl
  | cons component rest inductionHypothesis =>
      rw [List.reverse_cons, List.append_assoc, List.singleton_append] at isStack ⊢
      rw [List.foldl_cons, foldComponent_push isStack.below, inductionHypothesis isStack]

/-- The characters of components with one separator for each. -/
def weight (components : List (List Char)) : Nat :=
  (components.map fun component => component.length + 1).sum

theorem weight_foldComponent_le (stack : List (List Char)) (component : List Char) :
    weight (foldComponent stack component) ≤ weight stack + (component.length + 1) := by
  have push : weight (component :: stack) = weight stack + (component.length + 1) := by
    unfold weight
    rw [List.map_cons, List.sum_cons, Nat.add_comm]
  unfold foldComponent
  split
  · omega
  · split
    · cases stack with
      | nil => exact Nat.le_of_eq push
      | cons last before =>
          dsimp only
          split
          · exact Nat.le_of_eq push
          · unfold weight
            rw [List.map_cons, List.sum_cons]
            omega
    · exact Nat.le_of_eq push

theorem weight_foldl_le (components stack : List (List Char)) :
    weight (components.foldl foldComponent stack) ≤ weight stack + weight components := by
  induction components generalizing stack with
  | nil => exact Nat.le_refl _
  | cons component rest inductionHypothesis =>
      have first := weight_foldComponent_le stack component
      have others := inductionHypothesis (foldComponent stack component)
      have split : weight (component :: rest) = (component.length + 1) + weight rest := by
        unfold weight
        rw [List.map_cons, List.sum_cons]
      rw [List.foldl_cons, split]
      omega

theorem weight_reverse (components : List (List Char)) :
    weight components.reverse = weight components := by
  unfold weight
  rw [List.map_reverse, List.sum_reverse]

/-- A folded path is no longer than the path. -/
theorem length_fold_le {path : List Char} (filled : path ≠ []) :
    (fold path).length ≤ path.length := by
  have whole := Text.length_join '/' (Text.split_ne_nil '/' path)
  rw [Text.join_split] at whole
  have light := weight_foldl_le (Text.split '/' path) []
  rw [← weight_reverse (List.foldl _ _ _)] at light
  unfold fold foldComponents
  split
  · cases path with
    | nil => exact absurd rfl filled
    | cons c rest => simp
  · rename_i components some
    have joined := Text.length_join '/' some
    have empty : weight [] = 0 := rfl
    unfold weight at light empty
    omega

theorem mem_foldComponent {stack : List (List Char)} {component member : List Char}
    (inside : member ∈ foldComponent stack component) : member = component ∨ member ∈ stack := by
  unfold foldComponent at inside
  split at inside
  · exact Or.inr inside
  · split at inside
    · cases stack with
      | nil => exact Or.inl (List.mem_singleton.mp inside)
      | cons last before =>
          dsimp only at inside
          split at inside
          · exact List.mem_cons.mp inside
          · exact Or.inr (List.mem_cons_of_mem _ inside)
    · exact List.mem_cons.mp inside

theorem mem_foldl {components stack : List (List Char)} {member : List Char}
    (inside : member ∈ components.foldl foldComponent stack) :
    member ∈ components ∨ member ∈ stack := by
  induction components generalizing stack with
  | nil => exact Or.inr inside
  | cons component rest inductionHypothesis =>
      rcases inductionHypothesis inside with behind | folded
      · exact Or.inl (List.mem_cons_of_mem _ behind)
      · rcases mem_foldComponent folded with rfl | earlier
        · exact Or.inl List.mem_cons_self
        · exact Or.inr earlier

/-- A path in normal form consists of folded components without slashes of either kind. -/
structure IsNormal (path : List Char) (components : List (List Char)) : Prop where
  joined : path = Text.join ['/'] components
  some : components ≠ []
  folded : IsStack components.reverse
  slashless : ∀ component ∈ components, '/' ∉ component ∧ '\\' ∉ component

/-- The path that a value names, before it is folded. -/
def givenPath (raw : Value) : List Char := unified raw.shown.toList

/-- The path begins at a root or at a drive. -/
def isAbsolute (path : List Char) : Bool := startsAtRoot path || startsWithDrive path

/-- A folded path is refused if it is a single dot, or if it begins with two dots and a slash. -/
def Escapes (folded : List Char) : Prop := folded = ['.'] ∨ leavesRoot folded = true

instance (folded : List Char) : Decidable (Escapes folded) := inferInstanceAs (Decidable (_ ∨ _))

/-- A path is accepted in its folded form if it can be shown, is relative and does not escape in
this form. -/
theorem normalize_eq_ok_iff {raw : Value} {path : String} :
    normalize raw = .ok path ↔ raw.CanBeShown ∧
      givenPath raw ≠ [] ∧ isAbsolute (givenPath raw) = false ∧
        ¬ Escapes (fold (givenPath raw)) ∧ path.toList = fold (givenPath raw) := by
  unfold normalize
  rw [Value.whenShown_ok_iff]
  refine and_congr_right fun _ => ?_
  dsimp only
  change (if (givenPath raw).isEmpty then _ else if isAbsolute (givenPath raw) then _ else
    if Escapes (fold (givenPath raw)) then _ else _) = _ ↔ _
  split
  · rename_i empty
    exact iff_of_false (fun normal => nomatch normal) fun accepted =>
      accepted.1 (List.isEmpty_iff.mp empty)
  · rename_i filled
    have filled : givenPath raw ≠ [] := mt List.isEmpty_iff.mpr filled
    split
    · rename_i absolute
      exact iff_of_false (fun normal => nomatch normal) fun accepted =>
        nomatch absolute.symm.trans accepted.2.1
    · rename_i relative
      have relative : isAbsolute (givenPath raw) = false := Bool.not_eq_true _ ▸ relative
      split
      · rename_i escapes
        exact iff_of_false (fun normal => nomatch normal) fun accepted =>
          accepted.2.2.1 escapes
      · rename_i inside
        constructor
        · intro normal
          rw [← Except.ok.inj normal, String.toList_ofList]
          exact ⟨filled, relative, inside, rfl⟩
        · rintro ⟨-, -, -, whole⟩
          rw [← String.ofList_toList (s := path), whole]
          rfl

theorem backslash_notMem_givenPath (raw : Value) : '\\' ∉ givenPath raw := by
  intro backslash
  unfold givenPath unified at backslash
  obtain ⟨c, -, same⟩ := List.mem_map.mp backslash
  split at same
  · cases same
  · rename_i other
    exact other same

/-- A value that names no path of the source tree is refused, if it can be shown. -/
theorem normalize_onlyRefuses {raw : Value} (shown : raw.CanBeShown) :
    Outcome.OnlyRefuses (normalize raw) := by
  unfold normalize
  rw [Value.whenShown_of shown]
  dsimp only
  split
  · exact Outcome.refuse_onlyRefuses _
  · split
    · exact Outcome.refuse_onlyRefuses _
    · split
      · exact Outcome.refuse_onlyRefuses _
      · exact Outcome.ok_onlyRefuses _

/-- A path that is accepted is brought into normal form. -/
theorem normalize_isNormal {raw : Value} {path : String} (normal : normalize raw = .ok path) :
    ∃ components, IsNormal path.toList components := by
  obtain ⟨-, -, -, inside, whole⟩ := normalize_eq_ok_iff.mp normal
  rw [whole]
  have noDot : fold (givenPath raw) ≠ ['.'] := fun dot => inside (Or.inl dot)
  unfold fold at noDot ⊢
  cases components : foldComponents (Text.split '/' (givenPath raw)) with
  | nil =>
      rw [components] at noDot
      exact absurd rfl noDot
  | cons first rest =>
      refine ⟨first :: rest, rfl, List.cons_ne_nil _ _, ?_, fun component member => ?_⟩
      · rw [← components]
        unfold foldComponents
        rw [List.reverse_reverse]
        exact foldl_isStack _ trivial
      · rw [← components] at member
        have part := (mem_foldl (List.mem_reverse.mp member)).resolve_right List.not_mem_nil
        exact ⟨Text.notMem_of_mem_split part, fun backslash =>
          backslash_notMem_givenPath raw (Text.mem_of_mem_split part backslash)⟩

theorem mem_join {separator c : Char} {parts : List (List Char)}
    (inside : c ∈ Text.join [separator] parts) : c = separator ∨ ∃ part ∈ parts, c ∈ part := by
  induction parts with
  | nil => cases inside
  | cons part rest inductionHypothesis =>
      cases rest with
      | nil => exact Or.inr ⟨part, List.mem_cons_self, inside⟩
      | cons next more =>
          rw [Text.join, List.mem_append, List.mem_append, List.mem_singleton] at inside
          rcases inside with (here | here) | behind
          · exact Or.inr ⟨part, List.mem_cons_self, here⟩
          · exact Or.inl here
          · rcases inductionHypothesis behind with mark | ⟨other, member, inner⟩
            · exact Or.inl mark
            · exact Or.inr ⟨other, List.mem_cons_of_mem _ member, inner⟩

theorem IsNormal.backslash_notMem {path : List Char} {components : List (List Char)}
    (isNormal : IsNormal path components) : '\\' ∉ path := by
  rw [isNormal.joined]
  intro member
  rcases mem_join member with mark | ⟨component, inside, here⟩
  · cases mark
  · exact (isNormal.slashless component inside).2 here

theorem IsNormal.fold_eq {path : List Char} {components : List (List Char)}
    (isNormal : IsNormal path components) : fold path = path := by
  have split : Text.split '/' path = components := by
    rw [isNormal.joined]
    exact Text.split_join isNormal.some fun component member =>
      (isNormal.slashless component member).1
  have folded : foldComponents components = components := by
    unfold foldComponents
    rw [foldl_folded components (by simpa using isNormal.folded), List.append_nil,
      List.reverse_reverse]
  unfold fold
  rw [split, folded]
  split
  · exact absurd rfl isNormal.some
  · exact isNormal.joined.symm

/-- A path in normal form has only its blanks to lose before it is folded. -/
theorem IsNormal.givenPath_eq {path : String} {components : List (List Char)}
    (isNormal : IsNormal path.toList components) :
    givenPath (.text path) = Text.strip path.toList := by
  have kept : ∀ c ∈ Text.strip path.toList, (if c = '\\' then '/' else c) = id c := by
    intro c inside
    refine if_neg fun backslash => ?_
    subst backslash
    exact isNormal.backslash_notMem ((Text.strip_sublist _).subset inside)
  exact (List.map_congr_left kept).trans (List.map_id _)

/-- A path in normal form that is accepted again stays as it is, or it becomes shorter. -/
theorem normalize_again {raw : Value} {path again : String} (first : normalize raw = .ok path)
    (second : normalize (.text path) = .ok again) :
    again = path ∨ again.toList.length < path.toList.length := by
  obtain ⟨components, isNormal⟩ := normalize_isNormal first
  obtain ⟨-, filled, -, -, whole⟩ := normalize_eq_ok_iff.mp second
  rw [isNormal.givenPath_eq] at filled whole
  by_cases same : Text.strip path.toList = path.toList
  · refine Or.inl ?_
    rw [same, isNormal.fold_eq] at whole
    exact String.toList_inj.mp whole
  · refine Or.inr ?_
    have shorter : (Text.strip path.toList).length < path.toList.length := by
      refine Nat.lt_of_le_of_ne (Text.strip_sublist _).length_le fun equal => same ?_
      exact (Text.strip_sublist _).eq_of_length equal
    rw [whole]
    exact Nat.lt_of_le_of_lt (length_fold_le filled) shorter

end FilePath

end CodeGraph

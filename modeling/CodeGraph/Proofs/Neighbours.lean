import CodeGraph.Proofs.DiskFrame
import CodeGraph.Proofs.FoldedPath

/-!
This file says where the names lie that are made from a path by adding to its end: beside the path,
each in a place of its own.
-/

namespace CodeGraph

namespace Text

/-- What is added to a text without a separator is added to the last part. -/
theorem split_append_plain {separator : Char} {more : List Char} (plain : separator ∉ more)
    (text : List Char) :
    split separator (text ++ more) =
      (split separator text).dropLast ++ [(split separator text).getLastD [] ++ more] := by
  induction text with
  | nil => exact split_of_notMem plain
  | cons c rest inductionHypothesis =>
      have some := split_ne_nil separator rest
      rw [List.cons_append]
      unfold split
      rw [inductionHypothesis]
      cases parts : split separator rest with
      | nil => exact absurd parts some
      | cons part behind =>
          by_cases here : c = separator
          · simp only [if_pos here]
            cases behind <;> rfl
          · simp only [if_neg here]
            cases behind <;> rfl

end Text

namespace Disk

/-- What is added to a path is long enough to be no step, and it stays in the directory. -/
structure IsEnding (ending : String) : Prop where
  slashless : '/' ∉ ending.toList
  long : 3 ≤ ending.toList.length

/-- The last component of a path. -/
def baseName (path : String) : String := (components path).getLastD ""

/-- The directory in which the last component of a path is looked up. -/
def base (disk : Disk) (path : String) : Except DiskFault (List String) :=
  disk.follow (origin path) (components path).dropLast

theorem components_append {ending : String} (isEnding : IsEnding ending) (path : String) :
    components (path ++ ending) = (components path).dropLast ++ [baseName path ++ ending] := by
  have some := Text.split_ne_nil '/' path.toList
  unfold baseName components
  rw [String.toList_append, Text.split_append_plain isEnding.slashless]
  rw [List.map_append, List.map_dropLast, List.map_singleton, String.ofList_append,
    String.ofList_toList]
  congr 3
  rw [List.getLastD_eq_getLast?, List.getLastD_eq_getLast?, List.getLast?_map]
  cases (Text.split '/' path.toList).getLast? <;> rfl

theorem startsAtRoot_cons (c : Char) (rest : List Char) :
    FilePath.startsAtRoot (c :: rest) = decide (c = '/') := by
  by_cases here : c = '/'
  · subst here
    rfl
  · unfold FilePath.startsAtRoot
    split
    · rename_i same
      exact absurd (List.cons.inj same).1 here
    · simp [here]

theorem origin_append {ending : String} (isEnding : IsEnding ending) (path : String) :
    origin (path ++ ending) = origin path := by
  have same : FilePath.startsAtRoot (path ++ ending).toList =
      FilePath.startsAtRoot path.toList := by
    rw [String.toList_append]
    cases path.toList with
    | cons c rest => rw [List.cons_append, startsAtRoot_cons, startsAtRoot_cons]
    | nil =>
        cases content : ending.toList with
        | nil => rfl
        | cons c rest =>
            have other : c ≠ '/' := fun here =>
              isEnding.slashless (by rw [content, here]; exact List.mem_cons_self)
            rw [List.nil_append, startsAtRoot_cons, decide_eq_false other]
            rfl
  unfold origin
  rw [same]

theorem follow_append (disk : Disk) (place front behind : List String) :
    disk.follow place (front ++ behind) =
      (disk.follow place front).bind fun next => disk.follow next behind := by
  induction front generalizing place with
  | nil => rfl
  | cons component rest inductionHypothesis =>
      rw [List.cons_append, follow, follow]
      cases disk.enter place component with
      | error fault => rfl
      | ok next => exact inductionHypothesis next

/-- A component of at least three characters is no step. -/
theorem not_step_of_long {name : String} (long : 3 ≤ name.toList.length) :
    staysInside name = false ∧ (name == stepUp) = false := by
  have apart {step : String} (short : step.toList.length < 3) : (name == step) = false := by
    rw [beq_eq_false_iff_ne]
    intro same
    rw [same] at long
    omega
  refine ⟨?_, apart (by decide)⟩
  unfold staysInside
  rw [apart (by decide), apart (by decide)]
  rfl

/-- A component of at least three characters is a name. -/
theorem enter_name {disk : Disk} {parent place : List String} {name : String}
    (long : 3 ≤ name.toList.length) (entered : disk.enter parent name = .ok place) :
    place = parent ++ [name] := by
  obtain ⟨inside, noStep⟩ := not_step_of_long long
  unfold enter at entered
  rw [inside, noStep] at entered
  split at entered
  · cases entered
  · cases entered
  · simp only [Bool.false_eq_true, if_false] at entered
    unfold named at entered
    split at entered
    · cases entered
    · exact (Except.ok.inj entered).symm

theorem IsEnding.long_append {ending : String} (isEnding : IsEnding ending) (name : String) :
    3 ≤ (name ++ ending).toList.length := by
  have long := isEnding.long
  rw [String.toList_append, List.length_append]
  omega

theorem follow_concat {disk : Disk} {place last : List String} {front : List String}
    {component : String} (followed : disk.follow place (front ++ [component]) = .ok last) :
    ∃ parent, disk.follow place front = .ok parent ∧ disk.enter parent component = .ok last := by
  rw [follow_append] at followed
  cases led : disk.follow place front with
  | error fault => rw [led] at followed; cases followed
  | ok parent =>
      rw [led] at followed
      obtain ⟨next, entered, done⟩ := follow_cons_eq_ok_iff.mp followed
      cases done
      exact ⟨parent, rfl, entered⟩

/-- A path that is made from another one by adding to its end leads beside it. -/
theorem resolve_append {disk : Disk} {path ending : String} {place : List String}
    (isEnding : IsEnding ending) (resolved : disk.resolve (path ++ ending) = .ok place) :
    ∃ parent, disk.base path = .ok parent ∧ place = parent ++ [baseName path ++ ending] := by
  have followed := (resolve_eq_ok_iff.mp resolved).2
  rw [components_append isEnding, origin_append isEnding] at followed
  obtain ⟨parent, led, entered⟩ := follow_concat followed
  exact ⟨parent, led, enter_name (isEnding.long_append _) entered⟩

/-- The last component of a path is looked up in its directory. -/
theorem resolve_path {disk : Disk} {path : String} {place : List String}
    (resolved : disk.resolve path = .ok place) :
    ∃ parent, disk.base path = .ok parent ∧ disk.enter parent (baseName path) = .ok place := by
  have some : components path ≠ [] := by
    unfold components
    simpa using Text.split_ne_nil '/' path.toList
  have whole : components path = (components path).dropLast ++ [baseName path] := by
    unfold baseName
    rw [List.getLastD_eq_getLast?, List.getLast?_eq_some_getLast some]
    exact (List.dropLast_concat_getLast some).symm
  have followed := (resolve_eq_ok_iff.mp resolved).2
  rw [whole] at followed
  exact follow_concat followed

/-- What stands in front of the names in a directory. -/
def lead (parent : List String) : String := if parent = [] then "" else label parent ++ "/"

theorem label_concat (parent : List String) (name : String) :
    label (parent ++ [name]) = lead parent ++ name := by
  unfold lead label
  by_cases none : parent = []
  · subst none
    rw [if_pos rfl, List.nil_append, String.intercalate_singleton, String.empty_append]
  · rw [if_neg none, String.intercalate_append_of_ne_nil none (List.cons_ne_nil _ _),
      String.intercalate_singleton]

/-- Different names in one directory have different labels. -/
theorem label_concat_injective {parent : List String} {first second : String}
    (same : label (parent ++ [first]) = label (parent ++ [second])) : first = second := by
  rw [label_concat, label_concat] at same
  have texts := congrArg String.toList same
  rw [String.toList_append, String.toList_append] at texts
  exact String.toList_inj.mp (List.append_cancel_left texts)

theorem length_label_concat (parent : List String) (name : String) :
    (label (parent ++ [name])).toList.length =
      (lead parent).toList.length + name.toList.length := by
  rw [label_concat, String.toList_append, List.length_append]

theorem length_label_le (parent : List String) :
    (label parent).toList.length ≤ (lead parent).toList.length := by
  unfold lead
  by_cases none : parent = []
  · subst none
    exact Nat.le_refl _
  · rw [if_neg none, String.toList_append, List.length_append]
    omega

/-- The directory above has no longer label. -/
theorem length_label_dropLast_le (parent : List String) :
    (label parent.dropLast).toList.length ≤ (lead parent).toList.length := by
  by_cases none : parent = []
  · subst none
    exact Nat.le_refl _
  · have whole := length_label_concat parent.dropLast (parent.getLast none)
    rw [List.dropLast_concat_getLast none] at whole
    have upper := length_label_le parent.dropLast
    have lower := length_label_le parent
    omega

theorem not_standing_name (parent : List String) {name : String} (long : 3 ≤ name.toList.length) :
    isStanding (parent ++ [name]) = false := by
  have apart {step : String} (short : step.toList.length < 3) : name ≠ step := by
    intro same
    rw [same] at long
    omega
  have noStep : name ≠ stepUp := apart (by decide)
  have noRoot : name ≠ root := apart (by decide)
  unfold isStanding
  rw [Bool.or_eq_false_iff]
  constructor
  · simp [noStep]
  · cases parent with
    | nil => simp [noRoot]
    | cons first rest => simp

/-- The label of a place to which a path leads is shorter than those of the names beside it, unless
the place is always there. -/
theorem length_label_lt {disk : Disk} {parent place : List String} {component ending : String}
    (isEnding : IsEnding ending) (entered : disk.enter parent component = .ok place)
    (unfixed : isStanding place = false) :
    (label place).toList.length < (label (parent ++ [component ++ ending])).toList.length := by
  have long := isEnding.long_append component
  have size := length_label_concat parent (component ++ ending)
  have upper := length_label_le parent
  unfold enter at entered
  split at entered
  · cases entered
  · cases entered
  · split at entered
    · cases entered
      omega
    · split at entered
      · cases entered
        unfold above at unfixed ⊢
        split
        · rename_i steps
          rw [if_pos steps] at unfixed
          unfold isStanding at unfixed
          simp only [List.all_append, steps] at unfixed
          cases unfixed
        · split
          · omega
          · have dropped := length_label_dropLast_le parent
            omega
      · unfold named at entered
        split at entered
        · cases entered
        · cases entered
          have name := length_label_concat parent component
          have extended : (component ++ ending).toList.length =
              component.toList.length + ending.toList.length := by
            rw [String.toList_append, List.length_append]
          have positive := isEnding.long
          omega

end Disk

end CodeGraph

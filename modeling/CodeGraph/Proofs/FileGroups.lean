import CodeGraph.Proofs.Agreement
import CodeGraph.Proofs.BuiltSnapshot

/-!
This file says which entities the grouping by files gathers. A file whose path is a text has exactly
the entities of the source tree with that path, in the order of their keys.
-/

namespace CodeGraph

/-- Only the same text agrees with a text. -/
theorem Atom.agrees_text_iff {atom : Atom} {name : String} :
    atom.agrees (.text name) = true ↔ atom = .text name := by
  constructor
  · intro agreeing
    have same := agrees_iff.mp agreeing
    cases atom with
    | text value => exact congrArg text (Essence.text.inj same)
    | float number => cases number <;> cases same
    | null | bool | int => cases same
  · rintro rfl
    exact agrees_iff.mpr rfl

theorem Atom.toValue_eq_text_iff {atom : Atom} {name : String} :
    atom.toValue = .text name ↔ atom = .text name := by
  cases atom <;> simp [toValue]

/-- What is read as an atom is that atom as a value. -/
theorem Value.eq_of_toAtom {value : Value} {atom : Atom} (read : value.toAtom = .ok atom) :
    value = atom.toValue := by
  cases value <;> cases read <;> rfl

/-- The entity is in the source tree and has the path. -/
def Entity.IsIn (entity : Entity) (path : String) : Prop :=
  entity.isExternal = false ∧ entity.filePath = .text path

instance (entity : Entity) (path : String) : Decidable (entity.IsIn path) :=
  decidable_of_iff (entity.isExternal = false ∧ entity.filePath.agrees (.text path) = true)
    (and_congr_right fun _ => Value.agrees_text_iff)

namespace Snapshot

/-- The addresses of the entities with a path, in the order of their keys. -/
def addressesIn (path : String) (entities : List Entity) : List Address :=
  (entities.filter fun entity => decide (entity.IsIn path)).map Entity.address

theorem addressesIn_cons (path : String) (entity : Entity) (rest : List Entity) :
    addressesIn path (entity :: rest) =
      (if entity.IsIn path then [entity.address] else []) ++ addressesIn path rest := by
  by_cases inside : entity.IsIn path <;> simp [addressesIn, inside]

theorem entitiesOfFile_cons (path : Atom) (addresses : List Address)
    (rest : List (Atom × List Address)) (name : String) :
    entitiesOfFile ((path, addresses) :: rest) (.text name) =
      if path = .text name then addresses else entitiesOfFile rest (.text name) := by
  simp only [entitiesOfFile, List.find?_cons]
  split_ifs with same
  · rw [Atom.agrees_text_iff.mpr same]
  · rw [Bool.eq_false_iff.mpr (mt Atom.agrees_text_iff.mp same)]

/-- One more address joins the end of its file and no other. -/
theorem entitiesOfFile_addToFile (path : Atom) (address : Address)
    (groups : List (Atom × List Address)) (name : String) :
    entitiesOfFile (addToFile path address groups) (.text name) =
      entitiesOfFile groups (.text name) ++ if path = .text name then [address] else [] := by
  induction groups with
  | nil => rw [addToFile, entitiesOfFile_cons]; rfl
  | cons group rest inductionHypothesis =>
      obtain ⟨other, addresses⟩ := group
      have sameFile : other.agrees path = true →
          (other = .text name ↔ path = .text name) := fun agreeing => by
        rw [← Atom.agrees_text_iff, ← Atom.agrees_text_iff, Atom.agrees_iff, Atom.agrees_iff,
          Atom.agrees_iff.mp agreeing]
      have otherFile : other = .text name → path = .text name → other.agrees path = true := by
        rintro rfl rfl
        exact Atom.agrees_text_iff.mpr rfl
      unfold addToFile
      by_cases here : other = .text name
      · by_cases joins : path = .text name
        · rw [if_pos (otherFile here joins), entitiesOfFile_cons, entitiesOfFile_cons,
            if_pos here, if_pos here, if_pos joins]
        · rw [if_neg fun agreeing => joins ((sameFile agreeing).mp here), entitiesOfFile_cons,
            entitiesOfFile_cons, if_pos here, if_pos here, if_neg joins, List.append_nil]
      · split
        · rename_i agreeing
          rw [entitiesOfFile_cons, entitiesOfFile_cons, if_neg here, if_neg here,
            if_neg (mt (sameFile agreeing).mpr here), List.append_nil]
        · rw [entitiesOfFile_cons, entitiesOfFile_cons, if_neg here, if_neg here,
            inductionHypothesis]

/-- Each entity of the source tree joins the file of its path. -/
theorem entitiesOfFile_groupFiles {entities : List Entity}
    {groups files : List (Atom × List Address)} (made : groupFiles groups entities = .ok files)
    (name : String) : entitiesOfFile files (.text name) =
      entitiesOfFile groups (.text name) ++ addressesIn name entities := by
  induction entities generalizing groups with
  | nil =>
      cases made
      exact (List.append_nil _).symm
  | cons entity rest inductionHypothesis =>
      unfold groupFiles at made
      split at made
      · rename_i outside
        have elsewhere : ¬entity.IsIn name := fun inside => by
          rw [inside.1] at outside
          cases outside
        rw [inductionHypothesis made, addressesIn_cons, if_neg elsewhere, List.nil_append]
      · rename_i inside
        split at made
        · cases made
        · rename_i path isAtom
          have named : entity.IsIn name ↔ path = .text name := by
            rw [Entity.IsIn, Value.eq_of_toAtom isAtom, Atom.toValue_eq_text_iff]
            exact and_iff_right (Bool.eq_false_iff.mpr inside)
          rw [inductionHypothesis made, entitiesOfFile_addToFile, List.append_assoc,
            addressesIn_cons]
          simp only [named]

/-- The members of a file are the entities of the source tree with its path. -/
theorem entitiesOfFile_files {snapshot : Snapshot} {files : List (Atom × List Address)}
    (grouped : snapshot.files = .ok files) (name : String) :
    entitiesOfFile files (.text name) = addressesIn name snapshot.entities.rows :=
  entitiesOfFile_groupFiles grouped name

end Snapshot

end CodeGraph

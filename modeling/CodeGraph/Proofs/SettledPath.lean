import CodeGraph.Proofs.SourcePaths
import CodeGraph.Proofs.WrittenItems

/-!
This file says which paths stay as they are when they are brought into normal form once more. Blanks
and drives are looked for before a path is folded, and folding can put them at an end of the path,
where only the next time they are seen.
-/

namespace CodeGraph

namespace FilePath

/-- Nothing of the path is left to be taken away or refused: no blank stands at either end, and no
drive in front. -/
structure IsSettled (path : String) : Prop where
  stripped : Text.strip path.toList = path.toList
  driveless : startsWithDrive path.toList = false

/-- An accepted path is not the source root, and it does not lead out of it. -/
theorem normalize_staysInside {raw : Value} {path : String} (normal : normalize raw = .ok path) :
    ¬ Escapes path.toList := by
  obtain ⟨-, -, -, inside, whole⟩ := normalize_eq_ok_iff.mp normal
  rwa [whole]

/-- A settled path stays as it is. -/
theorem IsSettled.normalize_eq {raw : Value} {path : String} (settled : IsSettled path)
    (normal : normalize raw = .ok path) : normalize (.text path) = .ok path := by
  obtain ⟨components, isNormal⟩ := normalize_isNormal normal
  obtain ⟨filled, relative⟩ := normalize_isRelative normal
  rw [normalize_eq_ok_iff, isNormal.givenPath_eq, settled.stripped, isNormal.fold_eq]
  exact ⟨Value.canBeShown_text path, filled, Bool.or_eq_false_iff.mpr ⟨relative, settled.driveless⟩,
    normalize_staysInside normal, rfl⟩

/-- A path that stays as it is lost nothing before it was folded. -/
theorem isSettled_of_normalize {raw : Value} {path : String} (normal : normalize raw = .ok path)
    (again : normalize (.text path) = .ok path) : IsSettled path := by
  obtain ⟨components, isNormal⟩ := normalize_isNormal normal
  obtain ⟨-, filled, relative, -, whole⟩ := normalize_eq_ok_iff.mp again
  rw [isNormal.givenPath_eq] at filled relative whole
  have short := length_fold_le filled
  rw [← whole] at short
  have stripped := (Text.strip_sublist path.toList).eq_of_length_le short
  rw [stripped] at relative
  exact ⟨stripped, (Bool.or_eq_false_iff.mp relative).2⟩

theorem normalize_eq_self_iff {raw : Value} {path : String} (normal : normalize raw = .ok path) :
    normalize (.text path) = .ok path ↔ IsSettled path :=
  ⟨isSettled_of_normalize normal, fun settled => settled.normalize_eq normal⟩

end FilePath

/-- A change set is read back from its written form exactly if all its paths are settled. -/
theorem Snapshot.storedChange_eq_self_iff {id files : Value} {change : ChangeSet}
    (made : ChangeSet.create id files = .ok change) :
    storedChange change.toValue = .ok change ↔
      ∀ path ∈ change.files.rows, FilePath.IsSettled path := by
  have accepted := ChangeSet.create_ok made
  have fixed : (∀ path ∈ change.files.rows, FilePath.normalize (.text path) = .ok path) ↔
      ∀ path ∈ change.files.rows, FilePath.IsSettled path := by
    refine forall₂_congr fun path member => ?_
    obtain ⟨raw, normal⟩ := accepted path member
    exact FilePath.normalize_eq_self_iff normal
  rw [← fixed, storedChange_toValue]
  constructor
  · intro restored
    obtain ⟨paths, again, same⟩ := Outcome.map_ok restored
    exact FilePath.fixed_of_ofList accepted (Outcome.mapM_ok again) (congrArg ChangeSet.files same)
  · intro stays
    rw [mapM_normalize_fixed stays]
    exact congrArg Except.ok (congrArg (ChangeSet.mk change.id) (Table.ofList_rows change.files))

namespace FilePath

/-- An accepted path stays as it is exactly if it is settled; otherwise it is refused the next time,
or it becomes shorter. So a change set comes back from where it is stored exactly if all its paths
are settled. -/
theorem normalize_settles (raw id files : Value) :
    (∀ path, normalize raw = .ok path →
      (normalize (.text path) = .ok path ↔ IsSettled path) ∧
      (¬ IsSettled path → (∃ refusal, normalize (.text path) = refuse refusal) ∨
        ∃ again, normalize (.text path) = .ok again ∧
          again.toList.length < path.toList.length)) ∧
    ∀ change, ChangeSet.create id files = .ok change →
      (Snapshot.storedChange change.toValue = .ok change ↔
        ∀ path ∈ change.files.rows, IsSettled path) := by
  refine ⟨fun path normal => ⟨normalize_eq_self_iff normal, fun unsettled => ?_⟩,
    fun change made => Snapshot.storedChange_eq_self_iff made⟩
  cases again : normalize (.text path) with
  | error fault =>
      obtain ⟨refusal, rfl⟩ := normalize_onlyRefuses (Value.canBeShown_text _) fault again
      exact .inl ⟨refusal, rfl⟩
  | ok next =>
      refine .inr ⟨next, rfl, (normalize_again normal again).resolve_left ?_⟩
      rintro rfl
      exact unsettled (isSettled_of_normalize normal again)

/-- A detour in front of a blank or of a drive is folded away, and what it hid is stripped or
refused the next time. A path with a blank inside is settled. -/
theorem normalize_settles_hidden :
    (normalize (.text "./ a") = .ok " a" ∧ normalize (.text " a") = .ok "a" ∧
      ¬ IsSettled " a") ∧
    (normalize (.text "./C:/a") = .ok "C:/a" ∧
      normalize (.text "C:/a") = refuse (.absolutePath "C:/a") ∧ ¬ IsSettled "C:/a") ∧
    (normalize (.text " src\\./my file.py") = .ok "src/my file.py" ∧ IsSettled "src/my file.py") ∧
    ∃ change, ChangeSet.create (.text "c") (.list [.text "./ a"]) = .ok change ∧
      Snapshot.storedChange change.toValue ≠ .ok change := by
  obtain ⟨hidesBlank, changes⟩ :=
    normalize_settles (.text "./ a") (.text "c") (.list [.text "./ a"])
  obtain ⟨hidesDrive, -⟩ := normalize_settles (.text "./C:/a") (.text "c") .null
  obtain ⟨hidesNothing, -⟩ := normalize_settles (.text " src\\./my file.py") (.text "c") .null
  have blank : normalize (.text "./ a") = .ok " a" := rfl
  have drive : normalize (.text "./C:/a") = .ok "C:/a" := rfl
  have inner : normalize (.text " src\\./my file.py") = .ok "src/my file.py" := rfl
  have strips : normalize (.text " a") = .ok "a" := rfl
  have refuses : normalize (.text "C:/a") = refuse (.absolutePath "C:/a") := rfl
  have restless : ¬ IsSettled " a" := fun settled =>
    absurd (strips.symm.trans ((hidesBlank _ blank).1.mpr settled)) (by decide)
  refine ⟨⟨blank, strips, restless⟩, ⟨drive, refuses, fun settled => ?_⟩,
    ⟨inner, (hidesNothing _ inner).1.mp rfl⟩, ⟨⟨"c", Table.ofList [" a"]⟩, rfl, fun restored => ?_⟩⟩
  · cases refuses.symm.trans ((hidesDrive _ drive).1.mpr settled)
  · have settled := (changes _ rfl).mp restored
    exact restless (settled " a" (List.mem_singleton.mpr rfl))

/-- An accepted path need not be accepted as it is the next time. -/
theorem exists_unsettled : ¬ ∀ (raw : Value) (path : String), normalize raw = .ok path →
    normalize (.text path) = .ok path := by
  intro stays
  have moved : normalize (.text " a") = .ok "a" := rfl
  exact absurd (moved.symm.trans (stays (.text "./ a") " a" rfl)) (by decide)

end FilePath

end CodeGraph

import CodeGraph.Proofs.ShortestDecimal
import CodeGraph.Proofs.StoredItems
import CodeGraph.Proofs.WriteLimits
import Mathlib.Data.List.Nodup
import Mathlib.Data.List.Perm.Subperm

/-!
This file says that agreement is an equivalence of values, of metadata and of entities. Atoms agree
when they have the same essence, and objects agree when their entries match.
-/

namespace CodeGraph

/-- What agreeing atoms have in common. A number is counted in units, whatever its type. -/
inductive Essence where
  | null
  | text (value : String)
  | nan (payload : Nat)
  | infinite (negative : Bool)
  | amount (units : Int)

namespace Atom

def essence : Atom → Essence
  | .null => .null
  | .text value => .text value
  | .bool value => .amount (Value.boolInt value * Binary64.unitsPerOne)
  | .int value => .amount (value * Binary64.unitsPerOne)
  | .float (.nan payload) => .nan payload
  | .float (.infinite negative) => .infinite negative
  | .float (.finite negative units) => .amount (Binary64.signedUnits negative units)

section Numbers

variable {value other : Int} {number second : Binary64}

theorem int_agrees_int_iff : (int value).agrees (.int other) = true ↔
    (int value).essence = (int other).essence := by
  have units : (Binary64.unitsPerOne : Int) ≠ 0 :=
    Int.natCast_ne_zero.mpr (Nat.ne_of_gt Decimal.unitsPerOne_pos)
  change (some (compare value other) == some Ordering.eq) = true ↔ _
  rw [beq_iff_eq, Option.some.injEq, compare_eq_iff_eq, essence, essence, Essence.amount.injEq,
    Int.mul_eq_mul_right_iff units]

theorem float_agrees_int_iff : (float number).agrees (.int value) = true ↔
    (float number).essence = (int value).essence := by
  cases number with
  | nan payload => exact iff_of_false Bool.false_ne_true (by rintro ⟨⟩)
  | infinite negative => cases negative <;> exact iff_of_false Bool.false_ne_true (by rintro ⟨⟩)
  | finite negative units =>
      change (some (compare (Binary64.signedUnits negative units)
        (value * Binary64.unitsPerOne)) == some Ordering.eq) = true ↔ _
      rw [beq_iff_eq, Option.some.injEq, compare_eq_iff_eq, essence, essence, Essence.amount.injEq]

theorem int_agrees_float_iff : (int value).agrees (.float second) = true ↔
    (int value).essence = (float second).essence := by
  have swapped : (int value).agrees (.float second) = (float second).agrees (.int value) := by
    cases second with
    | nan payload => rfl
    | infinite negative => cases negative <;> rfl
    | finite negative units =>
        have swapped (order : Ordering) :
            (some order.swap == some Ordering.eq) = (some order == some .eq) := by
          cases order <;> rfl
        exact swapped _
  rw [swapped, float_agrees_int_iff, eq_comm]

theorem float_agrees_float_iff : (float number).agrees (.float second) = true ↔
    (float number).essence = (float second).essence := by
  cases number with
  | nan payload =>
      cases second with
      | nan other => rw [agrees, beq_iff_eq, essence, essence, Essence.nan.injEq]
      | infinite | finite => exact iff_of_false Bool.false_ne_true (by rintro ⟨⟩)
  | infinite negative =>
      cases second with
      | nan | finite => cases negative <;> exact iff_of_false Bool.false_ne_true (by rintro ⟨⟩)
      | infinite other =>
          rw [essence, essence, Essence.infinite.injEq]
          cases negative <;> cases other <;> decide
  | finite negative units =>
      cases second with
      | nan => exact iff_of_false Bool.false_ne_true (by rintro ⟨⟩)
      | infinite other => cases other <;> exact iff_of_false Bool.false_ne_true (by rintro ⟨⟩)
      | finite other otherUnits =>
          change (some (compare (Binary64.signedUnits negative units)
            (Binary64.signedUnits other otherUnits)) == some Ordering.eq) = true ↔ _
          rw [beq_iff_eq, Option.some.injEq, compare_eq_iff_eq, essence, essence,
            Essence.amount.injEq]

end Numbers

/-- A truth value agrees like the whole number for which it stands. -/
theorem bool_agrees (value : Bool) (second : Atom) :
    (bool value).agrees second = (int (Value.boolInt value)).agrees second := by
  cases second <;> rfl

theorem agrees_bool (first : Atom) (value : Bool) :
    first.agrees (.bool value) = first.agrees (.int (Value.boolInt value)) := by
  cases first with
  | float number => cases number <;> rfl
  | null | text | bool | int => rfl

/-- Atoms agree exactly if they have the same essence. -/
theorem agrees_iff {first second : Atom} :
    first.agrees second = true ↔ first.essence = second.essence := by
  cases first with
  | null =>
      cases second with
      | null => exact iff_of_true rfl rfl
      | float number => cases number <;> exact iff_of_false Bool.false_ne_true (by rintro ⟨⟩)
      | text | bool | int => exact iff_of_false Bool.false_ne_true (by rintro ⟨⟩)
  | text value =>
      cases second with
      | text other => rw [agrees, beq_iff_eq, essence, essence, Essence.text.injEq]
      | float number => cases number <;> exact iff_of_false Bool.false_ne_true (by rintro ⟨⟩)
      | null | bool | int => exact iff_of_false Bool.false_ne_true (by rintro ⟨⟩)
  | bool value =>
      rw [bool_agrees]
      cases second with
      | bool other =>
          rw [agrees_bool]
          exact int_agrees_int_iff
      | int other => exact int_agrees_int_iff
      | float number => exact int_agrees_float_iff
      | null | text => exact iff_of_false Bool.false_ne_true (by rintro ⟨⟩)
  | int value =>
      cases second with
      | bool other =>
          rw [agrees_bool]
          exact int_agrees_int_iff
      | int other => exact int_agrees_int_iff
      | float number => exact int_agrees_float_iff
      | null | text => exact iff_of_false Bool.false_ne_true (by rintro ⟨⟩)
  | float number =>
      cases second with
      | bool other =>
          rw [agrees_bool]
          exact float_agrees_int_iff
      | int other => exact float_agrees_int_iff
      | float other => exact float_agrees_float_iff
      | null | text => cases number <;> exact iff_of_false Bool.false_ne_true (by rintro ⟨⟩)

end Atom

section Matching

variable {κ ν γ : Type} {key : κ → γ} {related : ν → ν → Prop} {first second third : List (κ × ν)}

/-- There are as many entries in both lists, and each entry of the first one has an entry of the
same key and a related value in the second one. -/
def Matches (key : κ → γ) (related : ν → ν → Prop) (first second : List (κ × ν)) : Prop :=
  first.length = second.length ∧ ∀ entry ∈ first, ∃ other ∈ second,
    key other.1 = key entry.1 ∧ related entry.2 other.2

/-- The keys of the entries differ. -/
def HasDistinctKeys (key : κ → γ) (entries : List (κ × ν)) : Prop :=
  (entries.map fun entry => key entry.1).Nodup

theorem HasDistinctKeys.eq_of_key (distinct : HasDistinctKeys key first) {entry other : κ × ν}
    (member : entry ∈ first) (otherMember : other ∈ first) (same : key entry.1 = key other.1) :
    entry = other :=
  List.inj_on_of_nodup_map distinct member otherMember same

theorem Matches.refl (related_refl : ∀ entry ∈ first, related entry.2 entry.2) :
    Matches key related first first :=
  ⟨rfl, fun entry member => ⟨entry, member, rfl, related_refl entry member⟩⟩

theorem Matches.trans
    (related_trans : ∀ entry ∈ first, ∀ other ∈ second, ∀ last ∈ third,
      related entry.2 other.2 → related other.2 last.2 → related entry.2 last.2)
    (former : Matches key related first second) (latter : Matches key related second third) :
    Matches key related first third := by
  refine ⟨former.1.trans latter.1, fun entry member => ?_⟩
  obtain ⟨other, otherMember, otherKey, otherRelated⟩ := former.2 entry member
  obtain ⟨last, lastMember, lastKey, lastRelated⟩ := latter.2 other otherMember
  exact ⟨last, lastMember, lastKey.trans otherKey,
    related_trans entry member other otherMember last lastMember otherRelated lastRelated⟩

/-- As many distinct keys in the first list as there are entries in the second one are all keys of
both. -/
theorem Matches.keys_perm (firstDistinct : HasDistinctKeys key first)
    (matching : Matches key related first second) :
    (first.map fun entry => key entry.1).Perm (second.map fun entry => key entry.1) := by
  obtain ⟨lengths, partner⟩ := matching
  have keys : (first.map fun entry => key entry.1) ⊆ second.map fun entry => key entry.1 := by
    intro name member
    obtain ⟨entry, inside, rfl⟩ := List.mem_map.mp member
    obtain ⟨other, otherInside, same, -⟩ := partner entry inside
    exact List.mem_map.mpr ⟨other, otherInside, same⟩
  exact (List.subperm_of_subset firstDistinct keys).perm_of_length_le (by simp [lengths])

/-- No entry of the second list is left without a partner. -/
theorem Matches.symm (firstDistinct : HasDistinctKeys key first)
    (secondDistinct : HasDistinctKeys key second)
    (related_symm : ∀ entry ∈ first, ∀ other ∈ second,
      related entry.2 other.2 → related other.2 entry.2)
    (matching : Matches key related first second) : Matches key related second first := by
  have all := matching.keys_perm firstDistinct
  obtain ⟨lengths, partner⟩ := matching
  refine ⟨lengths.symm, fun other member => ?_⟩
  obtain ⟨entry, inside, same⟩ := List.mem_map.mp (all.mem_iff.mpr (List.mem_map.mpr
    ⟨other, member, rfl⟩))
  obtain ⟨found, foundInside, foundKey, foundRelated⟩ := partner entry inside
  rw [secondDistinct.eq_of_key foundInside member (foundKey.trans same)] at foundRelated
  exact ⟨entry, inside, same, related_symm entry inside other member foundRelated⟩

end Matching

namespace Value

/-- Only an atom agrees with an atom. -/
theorem agrees_atom_iff {atom : Atom} {value : Value} : atom.toValue.agrees value = true ↔
    ∃ other : Atom, value = other.toValue ∧ atom.agrees other = true := by
  have same : atom.toValue.agrees value = atomsAgree atom.toValue value := by
    cases atom <;> rfl
  have known (atom : Atom) : Atom.ofValue? atom.toValue = some atom := by cases atom <;> rfl
  rw [same, atomsAgree, known]
  constructor
  · intro agreeing
    cases value <;> first | cases agreeing | exact ⟨_, by rfl, agreeing⟩
  · rintro ⟨other, rfl, agreeing⟩
    rw [known]
    exact agreeing

theorem itemsAgree_iff {first second : List Value} : itemsAgree first second = true ↔
    List.Forall₂ (fun left right => left.agrees right = true) first second := by
  induction first generalizing second with
  | nil => cases second <;> simp [itemsAgree]
  | cons left rest inductionHypothesis =>
      cases second with
      | nil => simp [itemsAgree]
      | cons right others => simp [itemsAgree, inductionHypothesis]

theorem agrees_list_iff {items : List Value} {value : Value} :
    (Value.list items).agrees value = true ↔ ∃ others, value = .list others ∧
      List.Forall₂ (fun left right => left.agrees right = true) items others := by
  cases value <;> simp [agrees, atomsAgree, Atom.ofValue?, itemsAgree_iff]

/-- With distinct names a look-up finds exactly the fields of an object. -/
theorem lookup_eq_some_iff {name : String} {value : Value} {fields : List (String × Value)}
    (distinct : (fields.map Prod.fst).Nodup) :
    lookup name fields = some value ↔ (name, value) ∈ fields := by
  induction fields with
  | nil => simp [lookup]
  | cons field rest inductionHypothesis =>
      obtain ⟨other, old⟩ := field
      obtain ⟨fresh, restDistinct⟩ := List.nodup_cons.mp distinct
      unfold lookup
      split
      · rename_i same
        subst same
        have absent : (other, value) ∉ rest := fun member =>
          fresh (List.mem_map.mpr ⟨_, member, rfl⟩)
        simp [absent, eq_comm]
      · rename_i apart
        rw [inductionHypothesis restDistinct]
        simp [Ne.symm apart]

theorem fieldsAgree_iff {first second : List (String × Value)}
    (distinct : (second.map Prod.fst).Nodup) : fieldsAgree first second = true ↔
      ∀ field ∈ first, ∃ other ∈ second, other.1 = field.1 ∧ field.2.agrees other.2 = true := by
  induction first with
  | nil => simp [fieldsAgree]
  | cons field rest inductionHypothesis =>
      rw [fieldsAgree, Bool.and_eq_true, List.forall_mem_cons]
      refine and_congr ⟨fun agreeing => ?_, ?_⟩ inductionHypothesis
      · split at agreeing
        · rename_i other present
          exact ⟨_, (lookup_eq_some_iff distinct).mp present, rfl, agreeing⟩
        · cases agreeing
      · rintro ⟨other, member, same, agreeing⟩
        rw [← same, (lookup_eq_some_iff distinct).mpr member]
        exact agreeing

/-- Objects agree when their fields match. -/
theorem agrees_object_iff {first : List (String × Value)} {value : Value}
    (distinct : value.HasDistinctNames) : (Value.object first).agrees value = true ↔
      ∃ second, value = .object second ∧
        Matches id (fun left right => left.agrees right = true) first second := by
  cases value with
  | object second =>
      simp [agrees, Matches, fieldsAgree_iff distinct.1]
  | _ => simp [agrees, atomsAgree, Atom.ofValue?]

/-- A value with distinct names agrees with itself. -/
theorem agrees_refl (value : Value) (distinct : value.HasDistinctNames) :
    value.agrees value = true := by
  induction value using Value.induct with
  | atom atom => exact agrees_atom_iff.mpr ⟨atom, rfl, Atom.agrees_iff.mpr rfl⟩
  | list items inductionHypothesis =>
      have parts := itemsHaveDistinctNames_iff.mp distinct
      exact agrees_list_iff.mpr ⟨items, rfl, List.forall₂_same.mpr fun value member =>
        inductionHypothesis value member (parts value member)⟩
  | object fields inductionHypothesis =>
      have parts := fieldsHaveDistinctNames_iff.mp distinct.2
      exact (agrees_object_iff distinct).mpr ⟨fields, rfl, Matches.refl fun field member =>
        inductionHypothesis field member (parts field member)⟩

theorem agrees_symm {first second : Value} (firstDistinct : first.HasDistinctNames)
    (secondDistinct : second.HasDistinctNames) (agreeing : first.agrees second = true) :
    second.agrees first = true := by
  induction first using Value.induct generalizing second with
  | atom atom =>
      obtain ⟨other, rfl, same⟩ := agrees_atom_iff.mp agreeing
      exact agrees_atom_iff.mpr ⟨atom, rfl, Atom.agrees_iff.mpr (Atom.agrees_iff.mp same).symm⟩
  | list items inductionHypothesis =>
      obtain ⟨others, rfl, pairs⟩ := agrees_list_iff.mp agreeing
      have parts := itemsHaveDistinctNames_iff.mp firstDistinct
      have otherParts := itemsHaveDistinctNames_iff.mp secondDistinct
      rw [List.forall₂_iff_get] at pairs
      exact agrees_list_iff.mpr ⟨items, rfl, List.forall₂_iff_get.mpr ⟨pairs.1.symm,
        fun index inside otherInside => inductionHypothesis _ (List.get_mem _ _)
          (parts _ (List.get_mem _ _)) (otherParts _ (List.get_mem _ _))
          (pairs.2 index otherInside inside)⟩⟩
  | object fields inductionHypothesis =>
      obtain ⟨others, rfl, matching⟩ := (agrees_object_iff secondDistinct).mp agreeing
      have parts := fieldsHaveDistinctNames_iff.mp firstDistinct.2
      have otherParts := fieldsHaveDistinctNames_iff.mp secondDistinct.2
      exact (agrees_object_iff firstDistinct).mpr ⟨fields, rfl,
        matching.symm firstDistinct.1 secondDistinct.1 fun field member other otherMember =>
          inductionHypothesis field member (parts field member) (otherParts other otherMember)⟩

theorem agrees_trans {first second third : Value} (secondDistinct : second.HasDistinctNames)
    (thirdDistinct : third.HasDistinctNames) (former : first.agrees second = true)
    (latter : second.agrees third = true) : first.agrees third = true := by
  induction first using Value.induct generalizing second third with
  | atom atom =>
      obtain ⟨other, rfl, same⟩ := agrees_atom_iff.mp former
      obtain ⟨last, rfl, same'⟩ := agrees_atom_iff.mp latter
      exact agrees_atom_iff.mpr ⟨last, rfl, Atom.agrees_iff.mpr
        ((Atom.agrees_iff.mp same).trans (Atom.agrees_iff.mp same'))⟩
  | list items inductionHypothesis =>
      obtain ⟨others, rfl, pairs⟩ := agrees_list_iff.mp former
      obtain ⟨lasts, rfl, pairs'⟩ := agrees_list_iff.mp latter
      have otherParts := itemsHaveDistinctNames_iff.mp secondDistinct
      have lastParts := itemsHaveDistinctNames_iff.mp thirdDistinct
      rw [List.forall₂_iff_get] at pairs pairs'
      exact agrees_list_iff.mpr ⟨lasts, rfl, List.forall₂_iff_get.mpr ⟨pairs.1.trans pairs'.1,
        fun index inside lastInside => inductionHypothesis _ (List.get_mem _ _)
          (otherParts _ (List.get_mem _ _)) (lastParts _ (List.get_mem _ _))
          (pairs.2 index inside (pairs.1 ▸ inside)) (pairs'.2 index (pairs.1 ▸ inside) lastInside)⟩⟩
  | object fields inductionHypothesis =>
      obtain ⟨others, rfl, matching⟩ := (agrees_object_iff secondDistinct).mp former
      obtain ⟨lasts, rfl, matching'⟩ := (agrees_object_iff thirdDistinct).mp latter
      have otherParts := fieldsHaveDistinctNames_iff.mp secondDistinct.2
      have lastParts := fieldsHaveDistinctNames_iff.mp thirdDistinct.2
      exact (agrees_object_iff thirdDistinct).mpr ⟨lasts, rfl,
        matching.trans (fun field member other otherMember last lastMember =>
          inductionHypothesis field member (otherParts other otherMember)
            (lastParts last lastMember)) matching'⟩

/-- A value that agrees with one that can be written needs no more levels than that one. Its own
digits are in order if it can be written at all. -/
theorem IsWritable.of_agrees {first second : Value} (secondDistinct : second.HasDistinctNames)
    (agreeing : first.agrees second = true) {room large : Nat}
    (writable : second.IsWritable room) (short : first.IsWritable large) :
    first.IsWritable room := by
  induction first using Value.induct generalizing second room large with
  | atom atom =>
      cases atom with
      | int number => exact isWritable_int short.int room
      | null | bool | float | text => exact ⟨rfl⟩
  | list items inductionHypothesis =>
      obtain ⟨others, rfl, pairs⟩ := agrees_list_iff.mp agreeing
      obtain ⟨some, parts⟩ := isWritable_list_iff.mp writable
      refine isWritable_list_iff.mpr ⟨some, fun item member => ?_⟩
      obtain ⟨other, inside, same⟩ := Outcome.exists_of_forall₂ pairs member
      exact inductionHypothesis item member
        (itemsHaveDistinctNames_iff.mp secondDistinct other inside) same (parts other inside)
        ((isWritable_list_iff.mp short).2 item member)
  | object fields inductionHypothesis =>
      obtain ⟨others, rfl, -, partner⟩ := (agrees_object_iff secondDistinct).mp agreeing
      obtain ⟨some, parts⟩ := isWritable_object_iff.mp writable
      refine isWritable_object_iff.mpr ⟨some, fun field member => ?_⟩
      obtain ⟨other, inside, -, same⟩ := partner field member
      exact inductionHypothesis field member
        (fieldsHaveDistinctNames_iff.mp secondDistinct.2 other inside) same (parts other inside)
        ((isWritable_object_iff.mp short).2 field member)

end Value

namespace Metadata

/-- The names of well-formed metadata have different essences. -/
theorem IsWellFormed.distinct {metadata : Metadata} (wellFormed : metadata.IsWellFormed) :
    HasDistinctKeys Atom.essence metadata.entries := by
  refine List.pairwise_map.mpr (wellFormed.names.imp fun apart same => ?_)
  rw [Atom.agrees_iff.mpr same] at apart
  cases apart

/-- With distinct names a look-up finds exactly the entries whose name agrees. -/
theorem lookupEntry_eq_some_iff {name : Atom} {value : Value} {entries : List (Atom × Value)}
    (distinct : HasDistinctKeys Atom.essence entries) : lookupEntry name entries = some value ↔
      ∃ entry ∈ entries, entry.1.essence = name.essence ∧ entry.2 = value := by
  induction entries with
  | nil => simp [lookupEntry]
  | cons entry rest inductionHypothesis =>
      obtain ⟨other, old⟩ := entry
      obtain ⟨fresh, restDistinct⟩ := List.nodup_cons.mp distinct
      unfold lookupEntry
      split
      · rename_i same
        rw [Atom.agrees_iff] at same
        constructor
        · intro found
          exact ⟨_, List.mem_cons_self, same, Option.some.inj found⟩
        · rintro ⟨entry, member, named, rfl⟩
          rcases List.mem_cons.mp member with rfl | behind
          · rfl
          · exact absurd (List.mem_map.mpr ⟨entry, behind, named.trans same.symm⟩) fresh
      · rename_i apart
        rw [Atom.agrees_iff] at apart
        rw [inductionHypothesis restDistinct]
        simp [apart]

/-- Metadata agree when their entries match. -/
theorem agrees_iff {first second : Metadata} (wellFormed : second.IsWellFormed) :
    first.agrees second = true ↔ Matches Atom.essence (fun left right => left.agrees right = true)
      first.entries second.entries := by
  unfold agrees entriesAgree Matches
  rw [Bool.and_eq_true, beq_iff_eq, List.all_eq_true]
  refine and_congr_right fun _ => forall₂_congr fun entry _ => ?_
  constructor
  · intro agreeing
    split at agreeing
    · rename_i value found
      obtain ⟨other, member, named, rfl⟩ :=
        (lookupEntry_eq_some_iff wellFormed.distinct).mp found
      exact ⟨other, member, named, agreeing⟩
    · cases agreeing
  · rintro ⟨other, member, named, agreeing⟩
    rw [(lookupEntry_eq_some_iff wellFormed.distinct).mpr ⟨other, member, named, rfl⟩]
    exact agreeing

theorem agrees_refl {metadata : Metadata} (wellFormed : metadata.IsWellFormed) :
    metadata.agrees metadata = true :=
  (agrees_iff wellFormed).mpr (Matches.refl fun entry member =>
    entry.2.agrees_refl (wellFormed.values entry member).names)

theorem agrees_symm {first second : Metadata} (firstWellFormed : first.IsWellFormed)
    (secondWellFormed : second.IsWellFormed) (agreeing : first.agrees second = true) :
    second.agrees first = true :=
  (agrees_iff firstWellFormed).mpr (((agrees_iff secondWellFormed).mp agreeing).symm
    firstWellFormed.distinct secondWellFormed.distinct fun entry member other otherMember =>
      Value.agrees_symm (firstWellFormed.values entry member).names
        (secondWellFormed.values other otherMember).names)

theorem agrees_trans {first second third : Metadata} (secondWellFormed : second.IsWellFormed)
    (thirdWellFormed : third.IsWellFormed) (former : first.agrees second = true)
    (latter : second.agrees third = true) : first.agrees third = true :=
  (agrees_iff thirdWellFormed).mpr (((agrees_iff secondWellFormed).mp former).trans
    (fun _ _ other otherMember last lastMember =>
      Value.agrees_trans (secondWellFormed.values other otherMember).names
        (thirdWellFormed.values last lastMember).names)
    ((agrees_iff thirdWellFormed).mp latter))

/-- Metadata that agree with such as can be written need no more levels than those. -/
theorem isWritable_of_agrees {first second : Metadata} (secondWellFormed : second.IsWellFormed)
    (agreeing : first.agrees second = true) {room large : Nat}
    (writable : second.toValue.IsWritable room) (short : first.toValue.IsWritable large) :
    first.toValue.IsWritable room := by
  obtain ⟨-, partner⟩ := (agrees_iff secondWellFormed).mp agreeing
  obtain ⟨some, parts⟩ := Value.isWritable_object_iff.mp writable
  refine Value.isWritable_object_iff.mpr ⟨some, List.forall_mem_map.mpr fun entry member => ?_⟩
  obtain ⟨other, inside, -, same⟩ := partner entry member
  exact Value.IsWritable.of_agrees (secondWellFormed.values other inside).names same
    (parts _ (List.mem_map_of_mem inside))
    ((Value.isWritable_object_iff.mp short).2 _ (List.mem_map_of_mem member))

end Metadata

namespace Entity

/-- The path is a text, and the metadata are well formed. -/
structure IsWellFormed (entity : Entity) : Prop where
  path : ∃ path, entity.filePath = .text path
  metadata : entity.metadata.IsWellFormed

/-- Well-formed entities agree when they have the same address and path and their metadata agree. -/
theorem agrees_iff {first second : Entity} (firstPath : ∃ path, first.filePath = .text path)
    (secondPath : ∃ path, second.filePath = .text path) : first.agrees second = true ↔
      first.address = second.address ∧ first.filePath = second.filePath ∧
        first.metadata.agrees second.metadata = true := by
  obtain ⟨path, firstPath⟩ := firstPath
  obtain ⟨other, secondPath⟩ := secondPath
  unfold agrees
  rw [Bool.and_eq_true, Bool.and_eq_true, decide_eq_true_eq, firstPath, secondPath]
  simp [Value.agrees, Value.atomsAgree, Atom.ofValue?, Atom.agrees, and_assoc]

theorem IsWellFormed.agrees_refl {entity : Entity} (wellFormed : entity.IsWellFormed) :
    entity.agrees entity = true :=
  (agrees_iff wellFormed.path wellFormed.path).mpr
    ⟨rfl, rfl, Metadata.agrees_refl wellFormed.metadata⟩

theorem IsWellFormed.agrees_symm {first second : Entity} (firstWellFormed : first.IsWellFormed)
    (secondWellFormed : second.IsWellFormed) (agreeing : first.agrees second = true) :
    second.agrees first = true := by
  obtain ⟨address, path, metadata⟩ :=
    (agrees_iff firstWellFormed.path secondWellFormed.path).mp agreeing
  exact (agrees_iff secondWellFormed.path firstWellFormed.path).mpr ⟨address.symm, path.symm,
    Metadata.agrees_symm firstWellFormed.metadata secondWellFormed.metadata metadata⟩

theorem IsWellFormed.agrees_trans {first second third : Entity}
    (firstWellFormed : first.IsWellFormed) (secondWellFormed : second.IsWellFormed)
    (thirdWellFormed : third.IsWellFormed) (former : first.agrees second = true)
    (latter : second.agrees third = true) : first.agrees third = true := by
  obtain ⟨address, path, metadata⟩ :=
    (agrees_iff firstWellFormed.path secondWellFormed.path).mp former
  obtain ⟨address', path', metadata'⟩ :=
    (agrees_iff secondWellFormed.path thirdWellFormed.path).mp latter
  exact (agrees_iff firstWellFormed.path thirdWellFormed.path).mpr
    ⟨address.trans address', path.trans path', Metadata.agrees_trans secondWellFormed.metadata
      thirdWellFormed.metadata metadata metadata'⟩

end Entity

end CodeGraph

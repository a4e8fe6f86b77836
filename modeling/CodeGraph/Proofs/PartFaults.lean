import CodeGraph.Proofs.SourcePaths
import CodeGraph.Proofs.StoredFaults

/-!
This file says how the parts of a record fail. A part that lacks nothing is converted or refused,
and what it may lack is named with each part: a name, entries, items, or a text.
-/

namespace CodeGraph

/-- The fault is a refusal of the allowed ones, or it is a defect and the shape is missing. -/
inductive Fault.ComesOf (allowed : Refusal → Prop) (shaped : Prop) : Fault → Prop where
  | refused {refusal : Refusal} (permitted : allowed refusal) :
      ComesOf allowed shaped (.refused refusal)
  | defect {cause : Defect} (unshaped : ¬ shaped) : ComesOf allowed shaped (.defect cause)

theorem Fault.ComesOf.permits {allowed : Refusal → Prop} {shaped : Prop} {refusal : Refusal}
    (comes : ComesOf allowed shaped (.refused refusal)) : allowed refusal := by
  cases comes with
  | refused permitted => exact permitted

/-- Nothing is refused for its path token. -/
def Refusal.SparesToken : Refusal → Prop
  | .pathToken _ => False
  | _ => True

open FailsWithin

section Kinds

variable {α : Type} {allowed : Refusal → Prop} {shaped : Prop}

theorem refuse_comesOf {refusal : Refusal} (permitted : allowed refusal) :
    FailsWithin (Fault.ComesOf allowed shaped) (refuse refusal : Outcome α) :=
  error (.refused permitted)

theorem crash_comesOf {cause : Defect} (unshaped : ¬ shaped) :
    FailsWithin (Fault.ComesOf allowed shaped) (crash cause : Outcome α) :=
  error (.defect unshaped)

/-- Showing a value is a defect only if the value cannot be shown. -/
theorem FailsWithin.comesOf_whenShown {value : Value} {outcome : Outcome α}
    (shown : shaped → value.CanBeShown)
    (within : FailsWithin (Fault.ComesOf allowed shaped) outcome) :
    FailsWithin (Fault.ComesOf allowed shaped) (value.whenShown outcome) :=
  within.whenShown fun _ found => .defect fun fits => by
    cases found.symm.trans (shown fits).defectless

theorem Outcome.OnlyRefuses.comesOf {outcome : Outcome α} (only : OnlyRefuses outcome) :
    FailsWithin (Fault.ComesOf (fun _ => True) shaped) outcome := by
  intro fault failed
  obtain ⟨refusal, rfl⟩ := only fault failed
  exact .refused trivial

/-- A larger thing of a shape has the shape of its part, and more may be allowed. -/
theorem FailsWithin.comesOf_mono {more : Refusal → Prop} {larger : Prop} {outcome : Outcome α}
    (within : FailsWithin (Fault.ComesOf allowed shaped) outcome)
    (permits : ∀ refusal, allowed refusal → more refusal) (smaller : larger → shaped) :
    FailsWithin (Fault.ComesOf more larger) outcome := by
  refine within.mono fun fault comes => ?_
  cases comes with
  | refused permitted => exact .refused (permits _ permitted)
  | defect unshaped => exact .defect fun whole => unshaped (smaller whole)

end Kinds

namespace Value

/-- A text is checked as a name, and what counts as false is refused. -/
def CanBeName (value : Value) : Prop := (∃ text, value = .text text) ∨ value.isTruthy = false

/-- Neither a text nor what counts as false has levels or digits to spare. -/
theorem CanBeName.canBeShown {value : Value} (named : value.CanBeName) : value.CanBeShown := by
  rcases named with ⟨text, rfl⟩ | absent
  · exact canBeShown_text text
  · cases value with
    | int number =>
        obtain rfl : number = 0 := by simpa [isTruthy] using absent
        exact isWritable_int (by decide +kernel) _
    | list items =>
        obtain rfl : items = [] := by simpa [isTruthy] using absent
        exact ⟨rfl⟩
    | object fields =>
        obtain rfl : fields = [] := by simpa [isTruthy] using absent
        exact ⟨rfl⟩
    | _ => exact ⟨rfl⟩

/-- The value can be walked over two items, and the first of them can stand for a name. -/
def IsPair (value : Value) : Prop :=
  ∃ first second atom, value.items? = some [first, second] ∧ Atom.ofValue? first = some atom

/-- The value counts as false, or it has fields, or it can be walked over pairs. -/
def GivesEntries (value : Value) : Prop :=
  value.isTruthy = false ∨ (∃ fields, value = .object fields) ∨
    ∃ items, value.items? = some items ∧ ∀ item ∈ items, item.IsPair

/-- The value is an object, and its fields have the shape. -/
def HasFields (shape : List (String × Value) → Prop) (value : Value) : Prop :=
  ∃ fields, value = .object fields ∧ shape fields

/-- A value without fields is a defect, whatever follows on its fields. -/
theorem toFields_comesOf {α : Type} {allowed : Refusal → Prop}
    {shape : List (String × Value) → Prop} {next : List (String × Value) → Outcome α}
    (each : ∀ fields, FailsWithin (Fault.ComesOf allowed (shape fields)) (next fields))
    (value : Value) :
    FailsWithin (Fault.ComesOf allowed (value.HasFields shape)) (value.toFields >>= next) := by
  cases value with
  | object fields =>
      refine (each fields).comesOf_mono (fun _ permitted => permitted) ?_
      rintro ⟨others, same, shaped⟩
      cases same
      exact shaped
  | _ => exact crash_comesOf fun ⟨_, same, _⟩ => nomatch same

theorem items_comesOf (value : Value) {allowed : Refusal → Prop} :
    FailsWithin (Fault.ComesOf allowed (∃ items, value.items? = some items)) value.items := by
  unfold items
  split
  · exact ok _
  · rename_i none
    refine crash_comesOf fun ⟨items, walked⟩ => ?_
    cases none.symm.trans walked

end Value

namespace Metadata

theorem pairOf_comesOf (position : Nat) (item : Value) :
    FailsWithin (Fault.ComesOf (fun _ => False) item.IsPair) (pairOf position item) := by
  unfold pairOf
  split
  · rename_i unwalked
    refine crash_comesOf fun ⟨first, second, atom, walked, _⟩ => ?_
    cases unwalked.symm.trans walked
  · rename_i name value parts
    refine map ?_ _
    unfold Value.toAtom
    split
    · exact ok _
    · rename_i none
      refine crash_comesOf fun ⟨first, second, atom, walked, named⟩ => ?_
      cases parts.symm.trans walked
      cases none.symm.trans named
  · rename_i parts other walked
    refine crash_comesOf fun ⟨first, second, atom, pair, _⟩ => ?_
    cases walked.symm.trans pair
    exact other _ _ rfl

theorem pairOf_isPair {position : Nat} {item : Value} {entry : Atom × Value}
    (given : pairOf position item = .ok entry) : item.IsPair := by
  unfold pairOf at given
  split at given
  · cases given
  · rename_i name value parts
    obtain ⟨atom, named, -⟩ := Outcome.map_ok given
    unfold Value.toAtom at named
    split at named
    · rename_i found
      exact ⟨name, value, _, parts, found⟩
    · cases named
  · cases given

theorem ofItems_comesOf (position : Nat) (entries : List (Atom × Value)) (items : List Value) :
    FailsWithin (Fault.ComesOf (fun _ => False) (∀ item ∈ items, item.IsPair))
      (ofItems position entries items) := by
  induction items generalizing position entries with
  | nil => exact ok _
  | cons item rest inductionHypothesis =>
      unfold ofItems
      split
      · rename_i fault failed
        have first := (pairOf_comesOf position item).comesOf_mono (fun _ => id)
          fun all : ∀ other ∈ item :: rest, other.IsPair => all item List.mem_cons_self
        exact error (first fault failed)
      · exact (inductionHypothesis _ _).comesOf_mono (fun _ => id)
          fun all other member => all other (List.mem_cons_of_mem _ member)

theorem ofItems_arePairs {position : Nat} {items : List Value}
    {entries result : List (Atom × Value)} (given : ofItems position entries items = .ok result) :
    ∀ item ∈ items, item.IsPair := by
  induction items generalizing position entries with
  | nil => exact fun _ member => absurd member List.not_mem_nil
  | cons item rest inductionHypothesis =>
      unfold ofItems at given
      split at given
      · cases given
      · rename_i pair
        exact List.forall_mem_cons.mpr ⟨pairOf_isPair pair, inductionHypothesis given⟩

/-- A value that gives no entries is a defect. -/
theorem ofOptional_comesOf (value : Value) :
    FailsWithin (Fault.ComesOf (fun _ => False) value.GivesEntries) (ofOptional value) := by
  unfold ofOptional
  split
  · rename_i present
    unfold ofValue
    split
    · exact ok _
    · rename_i fieldless
      -- Of the three cases of the shape only the walk over pairs is left.
      have walks (shaped : value.GivesEntries) :
          ∃ items, value.items? = some items ∧ ∀ item ∈ items, item.IsPair := by
        rcases shaped with absent | ⟨fields, rfl⟩ | walked
        · cases present.symm.trans absent
        · exact absurd rfl (fieldless fields)
        · exact walked
      refine bind ?_ fun items walked => map ?_ _
      · exact value.items_comesOf.comesOf_mono (fun _ => id) fun shaped =>
          (walks shaped).imp fun _ => And.left
      · refine (ofItems_comesOf 0 [] items).comesOf_mono (fun _ => id) fun shaped => ?_
        obtain ⟨others, same, pairs⟩ := walks shaped
        cases (Value.items_ok walked).symm.trans same
        exact pairs
  · exact ok _

theorem ofOptional_givesEntries {value : Value} {metadata : Metadata}
    (given : ofOptional value = .ok metadata) : value.GivesEntries := by
  unfold ofOptional at given
  split at given
  · unfold ofValue at given
    split at given
    · exact .inr (.inl ⟨_, rfl⟩)
    · obtain ⟨items, walked, given⟩ := Outcome.bind_ok given
      obtain ⟨entries, made, -⟩ := Outcome.map_ok given
      exact .inr (.inr ⟨items, Value.items_ok walked, ofItems_arePairs made⟩)
  · rename_i absent
    exact .inl (Bool.eq_false_iff.mpr absent)

end Metadata

section Parts

variable {shaped : Prop}

theorem RecordKind.require_spares (kind : RecordKind) (fields : List (String × Value))
    (name : String) :
    FailsWithin (Fault.ComesOf Refusal.SparesToken shaped) (kind.require fields name) := by
  unfold require
  split
  · exact ok _
  · exact refuse_comesOf trivial

theorem Language.normalize_spares {raw : Value} (shown : shaped → raw.CanBeShown) :
    FailsWithin (Fault.ComesOf Refusal.SparesToken shaped) (normalize raw) := by
  refine FailsWithin.comesOf_whenShown shown ?_
  split
  · exact ok _
  · exact refuse_comesOf trivial

theorem Vocabulary.normalizeKind_spares (vocabulary : Vocabulary) (language : Option Language)
    {raw : Value} (shown : shaped → raw.CanBeShown) :
    FailsWithin (Fault.ComesOf Refusal.SparesToken shaped)
      (vocabulary.normalizeKind language raw) := by
  refine FailsWithin.comesOf_whenShown shown ?_
  split
  · exact ok _
  · exact refuse_comesOf trivial

theorem FilePath.normalize_spares {raw : Value} (shown : shaped → raw.CanBeShown) :
    FailsWithin (Fault.ComesOf Refusal.SparesToken shaped) (normalize raw) := by
  refine FailsWithin.comesOf_whenShown shown ?_
  dsimp only
  split
  · exact refuse_comesOf trivial
  · split
    · exact refuse_comesOf trivial
    · split
      · exact refuse_comesOf trivial
      · exact ok _

theorem FilePath.colon_notMem_token (path : String) : ':' ∉ (token path).toList := by
  unfold token
  rw [String.toList_ofList]
  intro member
  obtain ⟨c, -, same⟩ := List.mem_map.mp member
  unfold tokenChar at same
  split at same
  · cases same
  · rename_i other
    exact other (.inr (.inr same))

theorem FilePath.token_ne_empty {raw : Value} {path : String}
    (normal : normalize raw = .ok path) : token path ≠ "" := by
  intro empty
  have characters := congrArg String.toList empty
  unfold token at characters
  rw [String.toList_ofList] at characters
  exact (normalize_isRelative normal).1 (List.map_eq_nil_iff.mp characters)

/-- Both line numbers have a text. -/
structure AreWritable (first last : Int) : Prop where
  first : Decimal.isWritable first = true
  last : Decimal.isWritable last = true

theorem AreWritable.canBeShown {first last : Int} (written : AreWritable first last) :
    (Value.list [.int first, .int last]).CanBeShown := by
  refine Value.isWritable_list_iff.mpr ⟨by decide, List.forall_mem_cons.mpr
    ⟨Value.isWritable_int written.first _, List.forall_mem_singleton.mpr ?_⟩⟩
  exact Value.isWritable_int written.last _

/-- The token of a path in normal form is never found to be empty or to hold a colon. -/
theorem SourcePlace.create_spares {raw : Value} {path : String}
    (normal : FilePath.normalize raw = .ok path) {first last : Int}
    (written : shaped → AreWritable first last) :
    FailsWithin (Fault.ComesOf Refusal.SparesToken shaped)
      (create (FilePath.token path) first last) := by
  unfold create
  rw [dif_neg (FilePath.token_ne_empty normal), dif_neg (FilePath.colon_notMem_token path)]
  split
  · exact refuse_comesOf trivial
  · split
    · exact FailsWithin.comesOf_whenShown (fun fits => (written fits).canBeShown)
        (refuse_comesOf trivial)
    · exact ok _

theorem Address.create_spares (language : Language) (kind : EntityKind) {name : Value}
    (named : shaped → name.CanBeName) {location : Location}
    (written : shaped → location.isWritable = true) :
    FailsWithin (Fault.ComesOf Refusal.SparesToken shaped)
      (create language kind name location) := by
  unfold create
  split
  · split
    · split
      · exact ok _
      · rename_i unwritten
        exact crash_comesOf fun fits => unwritten (written fits)
    · exact refuse_comesOf trivial
  · rename_i textless
    split
    · rename_i present
      refine crash_comesOf fun fits => ?_
      rcases named fits with ⟨text, rfl⟩ | absent
      · exact textless text rfl
      · cases present.symm.trans absent
    · exact refuse_comesOf trivial

theorem Location.isWritable_external : Location.external.isWritable = true :=
  Address.isWritable_of_lastLine (by decide)

/-- A place that is made has the lines that were given for it. -/
theorem SourcePlace.isWritable_iff {token : String} {first last : Int} {place : SourcePlace}
    (created : create token first last = .ok place) :
    (Location.source place).isWritable = true ↔ AreWritable first last := by
  obtain ⟨-, starts, ends⟩ := create_ok created
  rw [← starts, ← ends, Location.isWritable, Bool.and_eq_true]
  exact ⟨fun both => ⟨both.1, both.2⟩, fun written => ⟨written.first, written.last⟩⟩

section Words

variable (vocabulary : Vocabulary) {language kind name filePath : Value}
  (languageShown : shaped → language.CanBeShown) (kindShown : shaped → kind.CanBeShown)
  (named : shaped → name.CanBeName)

include languageShown kindShown named

theorem Address.forExternal_spares :
    FailsWithin (Fault.ComesOf Refusal.SparesToken shaped)
      (forExternal vocabulary language kind name) :=
  (Language.normalize_spares languageShown).bind fun language _ =>
    (vocabulary.normalizeKind_spares language kindShown).bind fun kind _ =>
      create_spares language kind named fun _ => Location.isWritable_external

theorem Address.forSource_spares (pathShown : shaped → filePath.CanBeShown) {first last : Int}
    (written : shaped → AreWritable first last) :
    FailsWithin (Fault.ComesOf Refusal.SparesToken shaped)
      (forSource vocabulary language kind name filePath (.int first) (.int last)) := by
  unfold forSource
  apply (Language.normalize_spares languageShown).bind
  intro language _
  apply (FilePath.normalize_spares pathShown).bind
  intro path normal
  have number (value : Int) :
      FailsWithin (Fault.ComesOf Refusal.SparesToken shaped) (Value.int value).toInteger := ok value
  apply (number first).bind
  rintro _ ⟨⟩
  apply (number last).bind
  rintro _ ⟨⟩
  apply (SourcePlace.create_spares normal written).bind
  intro place placed
  exact (vocabulary.normalizeKind_spares language kindShown).bind fun kind _ =>
    create_spares language kind named fun fits =>
      (SourcePlace.isWritable_iff placed).mpr (written fits)

end Words

/-- An address has a text for its name, and its lines have texts. -/
theorem Address.of_create {language : Language} {kind : EntityKind} {name : Value}
    {location : Location} {address : Address}
    (created : create language kind name location = .ok address) :
    name.CanBeName ∧ location.isWritable = true := by
  unfold create at created
  split at created
  · refine ⟨.inl ⟨_, rfl⟩, ?_⟩
    split at created
    · split at created
      · rename_i written
        exact written
      · cases created
    · cases created
  · split at created <;> cases created

end Parts

end CodeGraph

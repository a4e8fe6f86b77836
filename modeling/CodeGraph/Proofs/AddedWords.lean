import CodeGraph.Proofs.KeyRoundTrip
import CodeGraph.Proofs.WrittenItems

/-!
This file says what words that are added for languages change. They give a kind where no name of a
kind stands, the last one for a word wins, and everything else is found as before. So keys and
stored snapshots, which spell kinds by their names, are read alike whatever words are added.
-/

namespace CodeGraph

namespace EntityKind

theorem ofName?_name (kind : EntityKind) : ofName? kind.name = some kind := by
  cases kind <;> decide

theorem ofName?_eq_none {word : String} (foreign : ∀ kind : EntityKind, kind.name ≠ word) :
    ofName? word = none := by
  apply List.find?_eq_none.mpr
  intro kind _
  simpa using foreign kind

end EntityKind

/-- A word that is to be added for a language. -/
structure Registration where
  language : Language
  word : String
  kind : EntityKind

namespace Registration

/-- The registration gives the language a kind for a folded word. -/
def names (language : Language) (folded : String) (registration : Registration) : Bool :=
  registration.language == language && foldedWord registration.word == folded

/-- The kind of the last registration that gives the language one for a folded word. -/
def lastKind? (language : Language) (folded : String) (registrations : List Registration) :
    Option EntityKind :=
  (registrations.filter (names language folded)).getLast?.map kind

theorem lastKind?_concat (language : Language) (folded : String)
    (registrations : List Registration) (last : Registration) :
    lastKind? language folded (registrations ++ [last]) =
      if last.names language folded then some last.kind
      else lastKind? language folded registrations := by
  unfold lastKind?
  rw [List.filter_append]
  split
  · rename_i named
    rw [List.filter_cons_of_pos named, List.filter_nil, List.getLast?_concat]
    rfl
  · rename_i other
    rw [List.filter_cons_of_neg other, List.filter_nil, List.append_nil]

theorem lastKind?_of_language_ne {language : Language} {registrations : List Registration}
    (others : ∀ registration ∈ registrations, registration.language ≠ language)
    (folded : String) : lastKind? language folded registrations = none := by
  have none : registrations.filter (names language folded) = [] := by
    apply List.filter_eq_nil_iff.mpr
    intro registration member
    simp [names, others registration member]
  rw [lastKind?, none]
  rfl

end Registration

namespace Vocabulary

variable {vocabulary : Vocabulary} {registrations : List Registration}

/-- The vocabulary after all registrations in turn. -/
def registerAll (vocabulary : Vocabulary) (registrations : List Registration) : Vocabulary :=
  registrations.foldl (fun words registration =>
    words.register registration.language registration.word registration.kind) vocabulary

/-- One more word is found under its folded form for its language, and all others as before. -/
theorem addedKind?_register (vocabulary : Vocabulary) (registration : Registration)
    (language : Language) (folded : String) :
    (vocabulary.register registration.language registration.word registration.kind).addedKind?
        language folded =
      if registration.names language folded then some registration.kind
      else vocabulary.addedKind? language folded := by
  unfold addedKind? register Registration.names
  rw [List.find?_cons]
  split
  · rename_i named
    rw [if_pos named]
    rfl
  · rename_i other
    rw [if_neg (Bool.eq_false_iff.mp other)]

/-- After many registrations the last one for a word and a language is found. -/
theorem addedKind?_registerAll (language : Language) (folded : String) :
    (vocabulary.registerAll registrations).addedKind? language folded =
      (Registration.lastKind? language folded registrations).or
        (vocabulary.addedKind? language folded) := by
  induction registrations using List.reverseRecOn with
  | nil => rfl
  | append_singleton registrations last inductionHypothesis =>
      have more : vocabulary.registerAll (registrations ++ [last]) =
          (vocabulary.registerAll registrations).register last.language last.word last.kind :=
        List.foldl_append
      rw [more, addedKind?_register, Registration.lastKind?_concat, inductionHypothesis]
      split <;> rfl

/-- A name of a kind names this kind in every vocabulary. -/
theorem normalizeKind_of_name {raw : Value} (shown : raw.CanBeShown) {kind : EntityKind}
    (named : foldedWord raw.shown = kind.name) (language : Option Language) :
    vocabulary.normalizeKind language raw = .ok kind := by
  unfold normalizeKind kindOfWord?
  rw [Value.whenShown_of shown, named, EntityKind.ofName?_name]

/-- Only the added words of its language can change what a word means. -/
theorem normalizeKind_congr {other : Vocabulary} {language : Language} {raw : Value}
    (same : vocabulary.addedKind? language (foldedWord raw.shown) =
      other.addedKind? language (foldedWord raw.shown)) :
    vocabulary.normalizeKind (some language) raw = other.normalizeKind (some language) raw := by
  simp only [normalizeKind, kindOfWord?, Option.bind_some, languageKind?, same]

/-- A word that is no name of a kind means what was last added for it. -/
theorem normalizeKind_of_added {language : Language} {raw : Value} (shown : raw.CanBeShown)
    {kind : EntityKind} (foreign : ∀ kind : EntityKind, kind.name ≠ foldedWord raw.shown)
    (added : vocabulary.addedKind? language (foldedWord raw.shown) = some kind) :
    vocabulary.normalizeKind (some language) raw = .ok kind := by
  simp only [normalizeKind, Value.whenShown_of shown, kindOfWord?,
    EntityKind.ofName?_eq_none foreign, Option.bind_some, languageKind?, added]

/-- Without a language no added word counts. -/
theorem normalizeKind_none (vocabulary other : Vocabulary) (raw : Value) :
    vocabulary.normalizeKind none raw = other.normalizeKind none raw := by
  unfold normalizeKind kindOfWord?
  rw [Option.bind_none, Option.bind_none]

end Vocabulary

/-- The key of an address is read alike in all vocabularies. -/
theorem Address.parse_text_alike (vocabulary other : Vocabulary) (address : Address) :
    parse vocabulary (.text address.text) = parse other (.text address.text) := by
  rw [parse_text, parse_text]

namespace Snapshot

theorem storedEntity_alike (vocabulary other : Vocabulary) (entity : Entity) :
    storedEntity vocabulary entity.toValue = storedEntity other entity.toValue := by
  rw [storedEntity_toValue, storedEntity_toValue]
  exact congrArg (Except.bind · _) (Address.parse_text_alike vocabulary other entity.address)

theorem storedEdge_alike (vocabulary other : Vocabulary) (edge : Edge) :
    storedEdge vocabulary edge.toValue = storedEdge other edge.toValue := by
  rw [storedEdge_toValue, storedEdge_toValue,
    Address.parse_text_alike vocabulary other edge.source,
    Address.parse_text_alike vocabulary other edge.target]

/-- A written snapshot is restored alike in all vocabularies. -/
theorem ofValue_written_alike (vocabulary other : Vocabulary) (now : String) (snapshot : Snapshot)
    (entities : List Entity) (edges : List Edge) (changes : List ChangeSet) :
    ofValue vocabulary now (.object (snapshot.writtenWith entities edges changes)) =
      ofValue other now (.object (snapshot.writtenWith entities edges changes)) := by
  have entitiesAlike (builder : Builder) : stageStored (storedEntity vocabulary)
      Builder.stageEntity builder (entities.map Entity.toValue) =
        stageStored (storedEntity other) Builder.stageEntity builder
          (entities.map Entity.toValue) := by
    refine stageStored_congr (fun item member => ?_) builder
    obtain ⟨entity, -, rfl⟩ := List.mem_map.mp member
    exact storedEntity_alike vocabulary other entity
  have edgesAlike (builder : Builder) : stageStored (storedEdge vocabulary) Builder.stageEdge
      builder (edges.map Edge.toValue) = stageStored (storedEdge other) Builder.stageEdge builder
        (edges.map Edge.toValue) := by
    refine stageStored_congr (fun item member => ?_) builder
    obtain ⟨edge, -, rfl⟩ := List.mem_map.mp member
    exact storedEdge_alike vocabulary other edge
  have staged : stageFields vocabulary (snapshot.writtenWith entities edges changes) =
      stageFields other (snapshot.writtenWith entities edges changes) := by
    simp only [stageFields, storedItems, storedFieldOr, writtenWith, Value.lookup,
      String.reduceEq, if_true, if_false, Option.getD_some, Value.items, Value.items?,
      Outcome.ok_bind, entitiesAlike, edgesAlike]
  show ofFields vocabulary now (snapshot.writtenWith entities edges changes) =
    ofFields other now (snapshot.writtenWith entities edges changes)
  unfold ofFields rebuild
  rw [staged]

end Snapshot

namespace Vocabulary

/-- Adding words is a conservative extension. A name of a kind names this kind, any other word means
what was last added for it and its language, and without such an addition it means what it meant
before, as it does for other languages and without a language. So the keys of addresses and the
written forms of snapshots are read as before. A word is any value that can be shown, and every text
can. -/
theorem registerAll_extends (vocabulary : Vocabulary) (registrations : List Registration) :
    (∀ language raw kind, raw.CanBeShown → foldedWord raw.shown = EntityKind.name kind →
      (vocabulary.registerAll registrations).normalizeKind language raw = .ok kind) ∧
    (∀ language raw kind, raw.CanBeShown →
      (∀ kind : EntityKind, kind.name ≠ foldedWord raw.shown) →
      Registration.lastKind? language (foldedWord raw.shown) registrations = some kind →
      (vocabulary.registerAll registrations).normalizeKind (some language) raw = .ok kind) ∧
    (∀ language raw,
      Registration.lastKind? language (foldedWord raw.shown) registrations = none →
      (vocabulary.registerAll registrations).normalizeKind (some language) raw =
        vocabulary.normalizeKind (some language) raw) ∧
    (∀ language, (∀ registration ∈ registrations, registration.language ≠ language) → ∀ raw,
      (vocabulary.registerAll registrations).normalizeKind (some language) raw =
        vocabulary.normalizeKind (some language) raw) ∧
    (∀ raw, (vocabulary.registerAll registrations).normalizeKind none raw =
      vocabulary.normalizeKind none raw) ∧
    (∀ address : Address,
      Address.parse (vocabulary.registerAll registrations) (.text address.text) =
        Address.parse vocabulary (.text address.text)) ∧
    ∀ now (snapshot : Snapshot),
      Snapshot.ofValue (vocabulary.registerAll registrations) now snapshot.toValue =
        Snapshot.ofValue vocabulary now snapshot.toValue := by
  have unnamed (language : Language) (raw : Value)
      (none : Registration.lastKind? language (foldedWord raw.shown) registrations = none) :
      (vocabulary.registerAll registrations).normalizeKind (some language) raw =
        vocabulary.normalizeKind (some language) raw := by
    apply normalizeKind_congr
    rw [addedKind?_registerAll, none, Option.none_or]
  refine ⟨?_, ?_, unnamed, ?_, ?_, ?_, ?_⟩
  · intro language raw kind shown named
    exact normalizeKind_of_name shown named language
  · intro language raw kind shown foreign last
    apply normalizeKind_of_added shown foreign
    rw [addedKind?_registerAll, last, Option.some_or]
  · intro language others raw
    exact unnamed language raw (Registration.lastKind?_of_language_ne others _)
  · exact normalizeKind_none _ vocabulary
  · exact Address.parse_text_alike _ vocabulary
  · intro now snapshot
    exact Snapshot.ofValue_written_alike _ vocabulary now snapshot _ _ _

/-- A common word that is added twice for one language. -/
def twiceAdded : List Registration :=
  [⟨.go, " Func ", .method⟩, ⟨.rust, "func", .trait⟩, ⟨.go, "FUNC", .struct⟩]

/-- The last addition for the language counts, and another language keeps its meaning. -/
theorem registerAll_extends_twice :
    Registration.lastKind? .go "func" twiceAdded = some .struct ∧
      (initial.registerAll twiceAdded).normalizeKind (some .go) (.text "Func") = .ok .struct ∧
      (initial.registerAll twiceAdded).normalizeKind (some .python) (.text "Func") =
        initial.normalizeKind (some .python) (.text "Func") := by
  have last : Registration.lastKind? .go "func" twiceAdded = some .struct := by decide +kernel
  have folded : foldedWord (Value.text "Func").shown = "func" := by decide +kernel
  obtain ⟨-, added, -, others, -⟩ := registerAll_extends initial twiceAdded
  refine ⟨last, added .go (.text "Func") .struct (Value.canBeShown_text _) ?_
    (by rw [folded]; exact last), others .python ?_ (.text "Func")⟩
  · intro kind
    rw [folded]
    cases kind <;> decide
  · decide

end Vocabulary

end CodeGraph

import CodeGraph.Proofs.AnsweredReports
import CodeGraph.Proofs.ReadLimits
import CodeGraph.Service

/-!
This file says which questions are answered by an envelope of a success or of a failure. A question
ends in a defect over a whole number past the range of double precision, over an argument that no
message can name, and over a content that cannot be written to count its tokens.
-/

namespace CodeGraph

open FailsWithin

/-- A whole number of at most three hundred digits is in the range of double precision. -/
theorem Value.exists_intToBinary64 {whole : Int} (short : whole.natAbs < 10 ^ 300) :
    ∃ number, intToBinary64 whole = .ok number := by
  obtain ⟨negative, units, finite⟩ := Binary64.ofInt_finite short
  unfold intToBinary64
  rw [finite]
  exact ⟨_, rfl⟩

namespace Argument

theorem text_onlyRefuses (value : Value) (name : String) :
    Outcome.OnlyRefuses (text value name) := by
  unfold text
  split
  · exact Outcome.ok_onlyRefuses _
  · exact Outcome.refuse_onlyRefuses _

/-- A numeral is far too short for a number that cannot be shown. -/
theorem numeral?_canBeShown {text : List Char} {number : Int} (read : numeral? text = some number) :
    (Value.int number).CanBeShown := by
  unfold numeral? at read
  dsimp only at read
  split at read
  · rename_i digits
    rw [← Option.some.inj read]
    have short : (Numeral.sign text).2.length ≤ Decimal.digitLimit :=
      digits.2.2.trans (by decide)
    exact Value.isWritable_int
      (Json.isWritable_digitsValue (List.all_eq_true.mp digits.1) short _) _
  · cases read

section Positive

variable {value : Value} (shown : value.CanBeShown) {name : String}

theorem checkPositive_onlyRefuses {value : Int} (shown : (Value.int value).CanBeShown)
    (name : String) : Outcome.OnlyRefuses (checkPositive value name) := by
  unfold checkPositive
  rw [Value.whenShown_of shown]
  split
  · exact Outcome.ok_onlyRefuses _
  · exact Outcome.refuse_onlyRefuses _

theorem checkPositive_ok {value : Int} {count : Nat} (read : checkPositive value name = .ok count) :
    value = count := by
  unfold checkPositive at read
  split at read
  · rename_i positive
    rw [← Except.ok.inj read]
    exact (Int.toNat_of_nonneg positive.le).symm
  · exact absurd read Value.whenShown_error_ne_ok

include shown

theorem positive_onlyRefuses (name : String) : Outcome.OnlyRefuses (positive value name) := by
  unfold positive
  split
  · exact checkPositive_onlyRefuses shown _
  · split
    · rename_i read
      exact checkPositive_onlyRefuses (numeral?_canBeShown read) _
    · exact Outcome.refuse_onlyRefuses _
  · rw [Value.whenShown_of shown]
    exact Outcome.refuse_onlyRefuses _

/-- The number that is read can be shown too. -/
theorem positive_canBeShown {count : Nat} (read : positive value name = .ok count) :
    (Value.int count).CanBeShown := by
  unfold positive at read
  split at read
  · rw [← checkPositive_ok read]
    exact shown
  · split at read
    · rename_i numeral
      rw [← checkPositive_ok read]
      exact numeral?_canBeShown numeral
    · cases read
  · exact absurd read Value.whenShown_error_ne_ok

/-- The number that is read is passed on as a value. -/
theorem positive_map_canBeShown {bound : Value}
    (given : (do let count ← positive value name; pure (count : Int)).map Value.int = .ok bound) :
    bound.CanBeShown := by
  obtain ⟨number, counted, rfl⟩ := Outcome.map_ok given
  obtain ⟨count, read, same⟩ := Outcome.bind_ok counted
  cases same
  exact positive_canBeShown shown read

end Positive

/-- Only a whole number can be too large to be read as a number. -/
theorem toBinary64_ne_tooLarge {value : Value} (notFlag : ∀ flag, value ≠ .bool flag)
    (inRange : ∀ whole, value = .int whole → ∃ number, Value.intToBinary64 whole = .ok number) :
    value.toBinary64 ≠ crash .integerTooLarge := by
  intro tooLarge
  cases value with
  | bool flag => exact notFlag flag rfl
  | int whole =>
      obtain ⟨number, given⟩ := inRange whole rfl
      cases given.symm.trans tooLarge
  | text value =>
      unfold Value.toBinary64 at tooLarge
      dsimp only at tooLarge
      split at tooLarge <;> cases tooLarge
  | _ => cases tooLarge

theorem number_onlyRefuses {value : Value} (shown : value.CanBeShown) (name : String)
    (inRange : ∀ whole, value = .int whole → ∃ number, Value.intToBinary64 whole = .ok number) :
    Outcome.OnlyRefuses (number value name) := by
  unfold number
  split
  · exact Outcome.refuse_onlyRefuses _
  · rename_i notFlag
    split
    · split
      · exact Outcome.refuse_onlyRefuses _
      · exact Outcome.ok_onlyRefuses _
    · rename_i tooLarge
      exact absurd tooLarge (toBinary64_ne_tooLarge notFlag inRange)
    · rw [Value.whenShown_of shown]
      exact Outcome.refuse_onlyRefuses _

end Argument

/-- The settings have the types that are declared for them. -/
structure Config.IsTyped (config : Config) : Prop where
  contextMaxDepth : ∃ depth, config.contextMaxDepth = .int depth
  clusterThreshold : ∃ density, config.clusterThreshold = .float density
  searchLimit : ∃ limit, config.searchLimit = .int limit
  blastSample : ∃ count, config.blastSample = .int count

/-- The settings that a message may name can be shown. -/
structure Config.CanBeShown (config : Config) : Prop where
  contextMaxDepth : config.contextMaxDepth.CanBeShown
  clusterThreshold : config.clusterThreshold.CanBeShown
  searchLimit : config.searchLimit.CanBeShown

namespace Query

/-- The arguments of a question. -/
def arguments : Query → List Value
  | .health | .overview | .edges | .cycles => []
  | .entities kind language => [kind, language]
  | .entity key => [key]
  | .search query limit => [query, limit]
  | .callers key | .callees key => [key]
  | .blastRadius key hops => [key, hops]
  | .hotspots top => [top]
  | .clusters threshold => [threshold]
  | .smartContext focus tokens maxDepth => [focus, tokens, maxDepth]
  | .temporalCoupling key minStrength minCoChanges => [key, minStrength, minCoChanges]

/-- The arguments that a message may name. A key that is no text is never named. -/
def named : Query → List Value
  | .entities kind language => [kind, language]
  | .search _ limit => [limit]
  | .blastRadius _ hops => [hops]
  | .hotspots top => [top]
  | .clusters threshold => [threshold]
  | .smartContext _ tokens maxDepth => [tokens, maxDepth]
  | .temporalCoupling _ minStrength minCoChanges => [minStrength, minCoChanges]
  | _ => []

/-- The arguments that are read as numbers of double precision. -/
def numbers : Query → List Value
  | .clusters threshold => [threshold]
  | .temporalCoupling _ minStrength _ => [minStrength]
  | _ => []

theorem numbers_subset (query : Query) : query.numbers ⊆ query.arguments := by
  cases query <;> simp [numbers, arguments]

/-- The whole numbers among these arguments are in the range of double precision. -/
def IsInRange (query : Query) : Prop :=
  ∀ whole, .int whole ∈ query.numbers → ∃ number, Value.intToBinary64 whole = .ok number

theorem isInRange_of_short {query : Query}
    (short : ∀ whole, .int whole ∈ query.arguments → whole.natAbs < 10 ^ 300) :
    query.IsInRange :=
  fun whole member => Value.exists_intToBinary64 (short whole (query.numbers_subset member))

end Query

namespace Service

variable {service : Service} {snapshot : Snapshot}

theorem entities_isAnswerable (service : Service) (snapshot : Snapshot) {kind language : Value}
    (kindShown : kind.CanBeShown) (languageShown : language.CanBeShown) :
    FailsWithin Fault.IsAnswerable (service.entities snapshot kind language) := by
  unfold entities
  split
  · exact ok _
  · exact (Snapshot.listEntities_onlyRefuses _ _ kindShown languageShown).isAnswerable

theorem detail_isAnswerable (service : Service) (snapshot : Snapshot) (key : Value) :
    FailsWithin Fault.IsAnswerable (service.detail snapshot key) := by
  apply (Argument.text_onlyRefuses key "key").isAnswerable.bind
  intro text _
  exact (Snapshot.get_isAnswerable _ _ _).bind fun entity _ => ok _

theorem search_isAnswerable (settings : service.config.CanBeShown) (snapshot : Snapshot)
    (query : Value) {limit : Value} (shown : limit.CanBeShown) :
    FailsWithin Fault.IsAnswerable (service.search snapshot query limit) := by
  have page {limit : Value} (shown : limit.CanBeShown) :=
    SearchPage.ofRequest_isAnswerable snapshot query shown
  unfold search
  dsimp only
  split
  · exact (page settings.searchLimit).bind fun page _ => ok _
  · have read := (Argument.positive_onlyRefuses shown "limit").isAnswerable
    apply ((read.bind fun count _ => ok _).map _).bind
    intro bound given
    exact (page (Argument.positive_map_canBeShown shown given)).bind fun page _ => ok _

theorem callers_isAnswerable (service : Service) (snapshot : Snapshot) (entity : Value) :
    FailsWithin Fault.IsAnswerable (service.callers snapshot entity) := by
  apply (Argument.text_onlyRefuses entity "entity").isAnswerable.bind
  intro key _
  exact (Relative.callers_isAnswerable _ _ _).bind fun relatives _ => ok _

theorem callees_isAnswerable (service : Service) (snapshot : Snapshot) (entity : Value) :
    FailsWithin Fault.IsAnswerable (service.callees snapshot entity) := by
  apply (Argument.text_onlyRefuses entity "entity").isAnswerable.bind
  intro key _
  exact (Relative.callees_isAnswerable _ _ _).bind fun relatives _ => ok _

theorem blastRadius_isAnswerable (typed : service.config.IsTyped) (snapshot : Snapshot)
    (entity : Value) {hops : Value} (shown : hops.CanBeShown) :
    FailsWithin Fault.IsAnswerable (service.blastRadius snapshot entity hops) := by
  obtain ⟨count, isCount⟩ := typed.blastSample
  have capped : Cap.ofValue? service.config.blastSample ≠ none := by
    rw [isCount]
    exact Option.some_ne_none _
  apply (Argument.text_onlyRefuses entity "entity").isAnswerable.bind
  intro key _
  apply (Argument.positive_onlyRefuses shown "hops").isAnswerable.bind
  intro count read
  exact (BlastRadius.ofRequest_isAnswerable _ _ _ (Argument.positive_canBeShown shown read)
    (Value.canBeShown_text _) capped).bind fun radius _ => ok _

theorem hotspots_isAnswerable (snapshot : Snapshot) {top : Value} (shown : top.CanBeShown) :
    FailsWithin Fault.IsAnswerable (hotspots snapshot top) := by
  apply (Argument.positive_onlyRefuses shown "top").isAnswerable.bind
  intro count read
  exact (Hotspot.ofRequest_isAnswerable _ (Argument.positive_canBeShown shown read)).bind
    fun hotspots _ => ok _

theorem clusters_isAnswerable (settings : service.config.CanBeShown) (texts : snapshot.HasTexts)
    {threshold : Value} (shown : threshold.CanBeShown)
    (inRange : (Query.clusters threshold).IsInRange) :
    FailsWithin Fault.IsAnswerable (service.clusters snapshot threshold) := by
  unfold clusters
  dsimp only
  split
  · exact (Clustering.ofRequest_isAnswerable texts settings.clusterThreshold).bind
      fun clustering _ => ok _
  · have read := Argument.number_onlyRefuses shown "threshold" fun whole same =>
      inRange whole (same ▸ List.mem_singleton_self _)
    apply (read.isAnswerable.map _).bind
    intro bound given
    obtain ⟨density, -, rfl⟩ := Outcome.map_ok given
    exact (Clustering.ofRequest_isAnswerable texts ⟨rfl⟩).bind fun clustering _ => ok _

theorem smartContext_isAnswerable (settings : service.config.CanBeShown) (snapshot : Snapshot)
    (focus : Value) {tokens maxDepth : Value} (tokensShown : tokens.CanBeShown)
    (depthShown : maxDepth.CanBeShown) :
    FailsWithin Fault.IsAnswerable (service.smartContext snapshot focus tokens maxDepth) := by
  have selected {depth : Value} (shown : depth.CanBeShown) : FailsWithin Fault.IsAnswerable (do
      let focus ← Argument.text focus "focus"
      let tokens ← Argument.positive tokens "tokens"
      let selection ← ContextSelection.ofRequest service.vocabulary snapshot (.text focus)
        (.int tokens) depth
      return Answer.report selection.toValue) := by
    apply (Argument.text_onlyRefuses focus "focus").isAnswerable.bind
    intro focus _
    apply (Argument.positive_onlyRefuses tokensShown "tokens").isAnswerable.bind
    intro budget read
    exact (ContextSelection.ofRequest_isAnswerable _ _ _
      (Argument.positive_canBeShown tokensShown read) shown).bind fun selection _ => ok _
  unfold smartContext
  dsimp only
  split
  · exact selected settings.contextMaxDepth
  · have read := (Argument.positive_onlyRefuses depthShown "max_depth").isAnswerable
    apply ((read.bind fun count _ => ok _).map _).bind
    exact fun depth given => selected (Argument.positive_map_canBeShown depthShown given)

theorem temporalCoupling_isAnswerable (service : Service) (texts : snapshot.HasTexts)
    {entity minStrength minCoChanges : Value} (strengthShown : minStrength.CanBeShown)
    (countShown : minCoChanges.CanBeShown)
    (inRange : (Query.temporalCoupling entity minStrength minCoChanges).IsInRange) :
    FailsWithin Fault.IsAnswerable
      (service.temporalCoupling snapshot entity minStrength minCoChanges) := by
  have measured (strength : Binary64) (count : Int) : FailsWithin Fault.IsAnswerable (do
      let key ← Argument.text entity "entity"
      let report ← CouplingReport.ofRequest service.vocabulary snapshot (.text key)
        (.float strength) (.int count)
      return Answer.report report.toValue) := by
    apply (Argument.text_onlyRefuses entity "entity").isAnswerable.bind
    intro key _
    exact (CouplingReport.ofRequest_isAnswerable texts _ _ strength count).bind
      fun report _ => ok _
  have counted (strength : Binary64) : FailsWithin Fault.IsAnswerable (do
      let minCoChanges : Value ←
        (Argument.positive minCoChanges "min_co_changes").map fun count => .int count
      let key ← Argument.text entity "entity"
      let report ← CouplingReport.ofRequest service.vocabulary snapshot (.text key)
        (.float strength) minCoChanges
      return Answer.report report.toValue) := by
    have read := (Argument.positive_onlyRefuses countShown "min_co_changes").isAnswerable
    apply ((read.bind fun count _ => ok _).map _).bind
    intro bound given
    obtain ⟨count, -, rfl⟩ := Outcome.map_ok given
    exact measured strength count
  unfold temporalCoupling
  dsimp only
  split
  · split
    · exact measured _ _
    · exact counted _
  · have read := Argument.number_onlyRefuses strengthShown "min_strength" fun whole same =>
      inRange whole (same ▸ List.mem_singleton_self _)
    apply (read.isAnswerable.map _).bind
    intro bound given
    obtain ⟨strength, -, rfl⟩ := Outcome.map_ok given
    split
    · exact measured strength _
    · exact counted strength

/-- On a snapshot with texts every question finds something or fails, if its numbers are in range
and whatever a message may name can be shown. -/
theorem contentOf_isAnswerable (typed : service.config.IsTyped)
    (settings : service.config.CanBeShown) (texts : snapshot.HasTexts) {query : Query}
    (shown : ∀ value ∈ query.named, value.CanBeShown) (inRange : query.IsInRange) :
    FailsWithin Fault.IsAnswerable (service.contentOf snapshot query) := by
  cases query with
  | health => exact ok _
  | overview => exact (of_exists (Overview.exists_measure texts)).map _
  | entities kind language =>
      refine (entities_isAnswerable service snapshot (shown kind ?_) (shown language ?_)).map _ <;>
        simp [Query.named]
  | entity key => exact detail_isAnswerable service snapshot key
  | search query limit =>
      exact search_isAnswerable settings snapshot query (shown limit (List.mem_singleton_self _))
  | edges => exact ok _
  | callers entity => exact callers_isAnswerable service snapshot entity
  | callees entity => exact callees_isAnswerable service snapshot entity
  | blastRadius entity hops =>
      exact blastRadius_isAnswerable typed snapshot entity (shown hops (List.mem_singleton_self _))
  | cycles => exact ok _
  | hotspots top => exact hotspots_isAnswerable snapshot (shown top (List.mem_singleton_self _))
  | clusters threshold =>
      exact clusters_isAnswerable settings texts (shown threshold (List.mem_singleton_self _))
        inRange
  | smartContext focus tokens maxDepth =>
      refine smartContext_isAnswerable settings snapshot focus (shown tokens ?_)
        (shown maxDepth ?_) <;> simp [Query.named]
  | temporalCoupling entity minStrength minCoChanges =>
      refine temporalCoupling_isAnswerable service texts (shown minStrength ?_)
        (shown minCoChanges ?_) inRange <;> simp [Query.named]

/-- A question finds something or fails if nothing is served, or if what is served has texts. -/
theorem content_isAnswerable (typed : service.config.IsTyped)
    (settings : service.config.CanBeShown)
    (texts : ∀ snapshot, service.manager.served = some snapshot → snapshot.HasTexts)
    {query : Query} (shown : ∀ value ∈ query.named, value.CanBeShown) (inRange : query.IsInRange) :
    FailsWithin Fault.IsAnswerable (service.content query) := by
  unfold content
  split
  · exact ok _
  · unfold Manager.current
    split
    · rename_i snapshot served
      exact contentOf_isAnswerable typed settings (texts snapshot served) shown inRange
    · exact error rfl

end Service

namespace FailureKind

/-- A fault that an answer can tell is of a kind. -/
theorem exists_ofFault {fault : Fault} (answerable : fault.IsAnswerable) :
    ∃ kind, ofFault? fault = some kind := by
  cases fault with
  | defect cause => cases answerable
  | _ => exact ⟨_, rfl⟩

/-- The words of the kinds of failures. -/
def words : List String := ["NotFound", "InvalidParameter", "StorageError"]

theorem word_mem_words (kind : FailureKind) : kind.word ∈ words := by
  cases kind <;> decide

end FailureKind

namespace Value

/-- The value shows the success of a question at an endpoint. -/
def ShowsSuccess (endpoint : String) (value : Value) : Prop :=
  ∃ data tokens, value = .object [
    ("success", .bool true), ("endpoint", .text endpoint), ("data", data), ("tokens", .int tokens)]

/-- The value shows a failure of a question at an endpoint: it has no data, and its error has a
type. -/
def ShowsFailure (endpoint type : String) (value : Value) : Prop :=
  ∃ message tokens, value = .object [
    ("success", .bool false), ("endpoint", .text endpoint), ("data", .null),
    ("error", .object [("type", .text type), ("message", .text message)]),
    ("tokens", .int tokens)]

end Value

namespace Envelope

theorem showsSuccess (endpoint : String) (data : Value) :
    (toValue ⟨endpoint, .success data⟩).ShowsSuccess endpoint := ⟨data, _, rfl⟩

theorem showsFailure (endpoint : String) (kind : FailureKind) (message : String) :
    (toValue ⟨endpoint, .failure kind message⟩).ShowsFailure endpoint kind.word :=
  ⟨message, _, rfl⟩

section Outcomes

variable {room : Nat} {endpoint : String} {data : Value}

theorem ofOutcome_of_isWritable (writable : data.IsWritable room) :
    ofOutcome room endpoint (.ok data) = .ok ⟨endpoint, .success data⟩ := by
  unfold ofOutcome
  dsimp only
  rw [writable.defectless]

/-- What is found has an envelope exactly if its text can be written. -/
theorem exists_ofOutcome_ok_iff :
    (∃ envelope, ofOutcome room endpoint (.ok data) = .ok envelope) ↔ data.IsWritable room := by
  constructor
  · rintro ⟨envelope, made⟩
    refine ⟨?_⟩
    unfold ofOutcome at made
    dsimp only at made
    split at made
    · cases made
    · rename_i none
      exact none
  · exact fun writable => ⟨_, ofOutcome_of_isWritable writable⟩

/-- An outcome without a defect has an envelope exactly if what is found can be written. -/
theorem exists_ofOutcome_iff {outcome : Outcome Value}
    (answerable : FailsWithin Fault.IsAnswerable outcome) :
    (∃ envelope, ofOutcome room endpoint outcome = .ok envelope ∧
      (envelope.toValue.ShowsSuccess endpoint ∨
        ∃ type ∈ FailureKind.words, envelope.toValue.ShowsFailure endpoint type)) ↔
      ∀ data, outcome = .ok data → data.IsWritable room := by
  cases outcome with
  | ok data =>
      constructor
      · rintro ⟨envelope, made, -⟩ _ ⟨⟩
        exact exists_ofOutcome_ok_iff.mp ⟨envelope, made⟩
      · intro writable
        exact ⟨_, ofOutcome_of_isWritable (writable data rfl), .inl (showsSuccess endpoint data)⟩
  | error fault =>
      obtain ⟨kind, isKind⟩ := FailureKind.exists_ofFault (answerable fault rfl)
      refine iff_of_true ⟨⟨endpoint, .failure kind fault.message⟩, ?_, .inr
        ⟨_, kind.word_mem_words, showsFailure endpoint kind fault.message⟩⟩ fun data found => ?_
      · unfold ofOutcome
        dsimp only
        rw [isKind]
      · cases found

end Outcomes

end Envelope

namespace Service

variable {room : Nat} {service : Service} {query : Query}

/-- Without a snapshot nothing is found, unless the question is about health. -/
theorem content_of_none (empty : service.manager.served = none) (other : query ≠ .health) :
    service.content query = .error .noSnapshot := by
  have current : service.manager.current = .error .noSnapshot := by
    unfold Manager.current
    rw [empty]
  unfold content
  split
  · contradiction
  · rw [current]
    rfl

/-- Without a snapshot a question fails, unless it is about health. -/
theorem answer_of_none (empty : service.manager.served = none) (other : query ≠ .health) :
    service.answer room query =
      .ok ⟨query.endpoint, .failure .storage Fault.noSnapshot.message⟩ := by
  unfold answer
  rw [content_of_none empty other]
  rfl

/-- Where a snapshot is served, the question is about this one. -/
theorem content_of_served {snapshot : Snapshot}
    (served : service.manager.served = some snapshot) (query : Query) :
    service.content query = service.contentOf snapshot query := by
  have current : service.manager.current = .ok snapshot := by
    unfold Manager.current
    rw [served]
  unfold content
  split
  · rfl
  · rw [current]
    rfl

/-- If nothing is served or a snapshot that was built from records, then a question is answered with
an envelope that shows a success or one of the three failures, exactly if what is found for it can
be written where so many levels may be opened. Settings and arguments have to be such that a message
can name them. Without a snapshot every question fails but the one about health, and this one always
succeeds, as long as its numbers have texts. -/
theorem answer_shows (typed : service.config.IsTyped) (settings : service.config.CanBeShown)
    (built : ∀ snapshot, service.manager.served = some snapshot →
      ∃ setting feed manager, Manager.build setting feed manager = .ok snapshot)
    (shown : ∀ value ∈ query.named, value.CanBeShown)
    (short : ∀ whole, .int whole ∈ query.arguments → whole.natAbs < 10 ^ 300) :
    ((∃ envelope, service.answer room query = .ok envelope ∧
      (envelope.toValue.ShowsSuccess query.endpoint ∨
        ∃ type ∈ FailureKind.words, envelope.toValue.ShowsFailure query.endpoint type)) ↔
      ∀ found, service.content query = .ok found → found.toValue.IsWritable room) ∧
    (service.manager.served = none → query ≠ .health →
      ∃ envelope, service.answer room query = .ok envelope ∧
        envelope.toValue.ShowsFailure query.endpoint "StorageError") ∧
    (service.health.IsWritable room →
      ∃ envelope, service.answer room .health = .ok envelope ∧
        envelope.toValue.ShowsSuccess "health") := by
  have texts (snapshot : Snapshot) (served : service.manager.served = some snapshot) :
      snapshot.HasTexts := by
    obtain ⟨setting, feed, manager, made⟩ := built snapshot served
    exact Manager.build_hasTexts made
  have content := content_isAnswerable typed settings texts shown (Query.isInRange_of_short short)
  refine ⟨(Envelope.exists_ofOutcome_iff (content.map Answer.toValue)).trans ?_,
    fun empty other => ?_, fun writable => ?_⟩
  · constructor
    · intro writable found given
      exact writable _ (Outcome.map_ok_iff.mpr ⟨found, given, rfl⟩)
    · intro writable data given
      obtain ⟨found, answered, rfl⟩ := Outcome.map_ok given
      exact writable found answered
  · exact ⟨_, answer_of_none empty other, Envelope.showsFailure _ .storage _⟩
  · exact ⟨_, Envelope.ofOutcome_of_isWritable writable,
      Envelope.showsSuccess "health" service.health⟩

/-- A service with the settings that hold where none are given. -/
def plain (served : Option Snapshot) : Service :=
  ⟨Vocabulary.initial, Config.default, Storage.memoryName, ⟨served, 1⟩⟩

/-- A document with one entity. -/
def oneEntity : Value := .object [("entities", .list [.object [
  ("language", .text "python"), ("entity_type", .text "function"), ("name", .text "f"),
  ("file_path", .text "a.py"), ("line_range", .list [.int 1, .int 2])]])]

/-- The snapshot of a document with one entity. -/
def oneEntityBuilt : Outcome Snapshot :=
  Manager.build ⟨Vocabulary.initial, "2024-01-02T00:00:00+00:00", 1000⟩
    (Feed.ofDocument oneEntity) Manager.initial

theorem plain_isTyped (served : Option Snapshot) : (plain served).config.IsTyped :=
  ⟨⟨_, rfl⟩, ⟨_, rfl⟩, ⟨_, rfl⟩, ⟨_, rfl⟩⟩

theorem plain_canBeShown (served : Option Snapshot) : (plain served).config.CanBeShown where
  contextMaxDepth := Value.isWritable_int (by decide +kernel) _
  clusterThreshold := ⟨rfl⟩
  searchLimit := Value.isWritable_int (by decide +kernel) _

/-- The content of the answer can be written where so many levels may be opened. -/
def contentFits (room : Nat) (service : Service) (query : Query) : Bool :=
  match service.content query with
  | .ok found => (found.toValue.writeDefect? room).isNone
  | .error _ => true

theorem isWritable_of_contentFits (fits : contentFits room service query = true) (found : Answer)
    (given : service.content query = .ok found) : found.toValue.IsWritable room := by
  unfold contentFits at fits
  rw [given] at fits
  exact ⟨Option.isNone_iff_eq_none.mp fits⟩

/-- A list in place of a key is answered by a failure, and the entities are listed. -/
theorem answer_shows_list : ∃ snapshot : Snapshot,
    (∃ setting feed manager, Manager.build setting feed manager = .ok snapshot) ∧
    (∃ envelope, (plain (some snapshot)).answer 975 (.callers (.list [.int 1])) = .ok envelope ∧
      (envelope.toValue.ShowsSuccess "callers" ∨
        ∃ type ∈ FailureKind.words, envelope.toValue.ShowsFailure "callers" type)) ∧
    ∃ envelope, (plain (some snapshot)).answer 975 (.entities .null .null) = .ok envelope ∧
      (envelope.toValue.ShowsSuccess "list_entities" ∨
        ∃ type ∈ FailureKind.words, envelope.toValue.ShowsFailure "list_entities" type) := by
  have passes : oneEntityBuilt.toOption.any (fun snapshot =>
      contentFits 975 (plain (some snapshot)) (.entities .null .null)) = true := by decide +kernel
  obtain ⟨snapshot, built, fits⟩ := Outcome.exists_of_any passes
  have served (other : Snapshot) (same : (plain (some snapshot)).manager.served = some other) :
      ∃ setting feed manager, Manager.build setting feed manager = .ok other :=
    ⟨_, _, _, built.trans (congrArg Except.ok (Option.some.inj same))⟩
  have typed := plain_isTyped (some snapshot)
  have settings := plain_canBeShown (some snapshot)
  refine ⟨snapshot, ⟨_, _, _, built⟩, ?_, ?_⟩
  · refine (@answer_shows 975 _ (.callers (.list [.int 1])) typed settings served ?_ ?_).1.mpr ?_
    · exact fun value member => absurd member List.not_mem_nil
    · intro whole member
      cases List.mem_singleton.mp member
    · intro found given
      cases given
  · refine (@answer_shows 975 _ (.entities .null .null) typed settings served ?_ ?_).1.mpr
      (isWritable_of_contentFits fits)
    · intro value member
      obtain rfl : value = .null := by simpa [Query.named] using member
      exact ⟨rfl⟩
    · intro whole member
      simp [Query.arguments] at member

/-- A list inside a list, and so on for so many levels. -/
def nested : Nat → Value
  | 0 => .list []
  | levels + 1 => .list [nested levels]

theorem writeDefect?_nested (levels room : Nat) (deep : room ≤ levels) :
    (nested levels).writeDefect? room = some .tooDeep := by
  induction levels generalizing room with
  | zero =>
      obtain rfl := Nat.le_zero.mp deep
      rfl
  | succ levels inductionHypothesis =>
      unfold nested
      simp only [Value.writeDefect?, Value.itemsWriteDefect?]
      split
      · rfl
      · rw [inductionHypothesis (room - 1) (by omega)]
        rfl

/-- A list of too many levels cannot be named in the message that refuses it as a number. -/
theorem hotspots_nested (snapshot : Snapshot) {levels : Nat} (deep : Value.shownLimit ≤ levels) :
    hotspots snapshot (nested levels) = crash .tooDeep := by
  have found := writeDefect?_nested levels Value.shownLimit deep
  have unread : Argument.positive (nested levels) "top" = crash .tooDeep := by
    obtain ⟨items, isList⟩ : ∃ items, nested levels = .list items := by
      cases levels <;> exact ⟨_, rfl⟩
    rw [isList] at found ⊢
    change (Value.list items).whenShown _ = _
    unfold Value.whenShown
    rw [found]
  unfold hotspots
  rw [unread]
  rfl

/-- Not every question is answered: a list of a thousand levels in place of a number is a defect. -/
theorem exists_unanswered : ∃ snapshot : Snapshot,
    (∃ setting feed manager, Manager.build setting feed manager = .ok snapshot) ∧
    ∀ room, (plain (some snapshot)).answer room (.hotspots (nested 1000)) = crash .tooDeep := by
  have succeeds : oneEntityBuilt.toOption.isSome = true := by decide +kernel
  obtain ⟨snapshot, built⟩ := Outcome.exists_ok succeeds
  refine ⟨snapshot, ⟨_, _, _, built⟩, fun room => ?_⟩
  have found := (@content_of_served (plain (some snapshot)) snapshot rfl
    (.hotspots (nested 1000))).trans (hotspots_nested snapshot (by decide))
  unfold answer
  rw [found]
  rfl

end Service

end CodeGraph

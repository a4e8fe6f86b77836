import CodeGraph.Proofs.AnsweredQueries
import CodeGraph.Proofs.NumberNumerals
import CodeGraph.Proofs.RoundedOrder

/-!
This file says when two values give the same argument of a question. A whole number and its decimal
text do, and so do a finite number and its text, so that the same question is asked with either.
-/

namespace CodeGraph

/-- What an argument of a question has to be. -/
inductive ArgumentSort where
  | text
  | whole
  | number
  deriving DecidableEq, Repr

/-- A value and a text that stand for the same argument. A text stands for itself, a whole number of
at most eighteen digits for its decimal text, and where a number is wanted any whole number and any
finite number of double precision for its text. -/
inductive ArgumentSort.IsWritten : ArgumentSort → Value → String → Prop where
  | text (sort : ArgumentSort) (text : String) : IsWritten sort (.text text) text
  | whole {number : Int} (short : number.natAbs < 10 ^ 18) :
      IsWritten .whole (.int number) (Decimal.integerText number)
  | integer (number : Int) : IsWritten .number (.int number) (Decimal.integerText number)
  | float (layout : NumberLayout) (negative : Bool) {units : Nat}
      (representable : Binary64.IsRepresentable units) :
      IsWritten .number (.float (.finite negative units))
        (String.ofList (layout.text (.finite negative units)))

/-- The first value may take the place of the second one in an argument. -/
inductive ArgumentSort.IsSame : ArgumentSort → Value → Value → Prop where
  | refl (sort : ArgumentSort) (value : Value) : IsSame sort value value
  | written {sort : ArgumentSort} {value : Value} {text : String}
      (isWritten : sort.IsWritten value text) : IsSame sort value (.text text)

/-- A whole number in the range of double precision has far fewer digits than can be written. -/
theorem Value.isWritable_of_intToBinary64 {whole : Int} {number : Binary64}
    (made : intToBinary64 whole = .ok number) : Decimal.isWritable whole = true := by
  by_contra long
  have many : Nat.pow 10 Decimal.digitLimit ≤ whole.natAbs := by
    simpa [Decimal.isWritable] using long
  have past : Binary64.overflowUnits ≤ Nat.pow 10 Decimal.digitLimit := by decide +kernel
  have positive : 0 < Binary64.unitsPerOne := by decide +kernel
  have units : Binary64.overflowUnits ≤ whole.natAbs * Binary64.unitsPerOne :=
    (past.trans many).trans (Nat.le_mul_of_pos_right _ positive)
  unfold intToBinary64 Binary64.ofInt Binary64.ofQuotient at made
  rw [Binary64.ofUnitsQuotient_infinite _ units] at made
  cases made

/-- A value with a text can be shown, if it is in the range where it is taken as a number. -/
theorem ArgumentSort.IsWritten.canBeShown {sort : ArgumentSort} {value : Value} {text : String}
    (isWritten : sort.IsWritten value text)
    (inRange : sort = .number → ∀ whole, value = .int whole →
      ∃ number, Value.intToBinary64 whole = .ok number) : value.CanBeShown := by
  cases isWritten with
  | text => exact Value.canBeShown_text text
  | whole short => exact Value.isWritable_int (Decimal.isWritable_of_few (by decide) short) _
  | integer whole =>
      obtain ⟨number, made⟩ := inRange rfl whole rfl
      exact Value.isWritable_int (Value.isWritable_of_intToBinary64 made) _
  | float => exact ⟨rfl⟩

namespace Argument

variable {value other : Value} (name : String)

theorem positive_written {text : String} (isWritten : ArgumentSort.whole.IsWritten value text) :
    positive (.text text) name = positive value name := by
  cases isWritten with
  | text => rfl
  | whole short =>
      unfold positive
      dsimp only
      rw [Decimal.strip_integerText, Decimal.numeral?_integerText short]

/-- The whole number in an argument may be given by its text. -/
theorem positive_same (same : ArgumentSort.whole.IsSame value other) :
    positive other name = positive value name := by
  cases same with
  | refl => rfl
  | written isWritten => exact positive_written name isWritten

/-- A number that passes the check against infinity is taken as it is. -/
theorem checkNearest_of_exists (nearest : Binary64)
    (inRange : ∃ number, Value.checkNearest nearest = .ok number) :
    Value.checkNearest nearest = .ok nearest := by
  cases nearest with
  | infinite negative =>
      obtain ⟨number, made⟩ := inRange
      cases made
  | _ => rfl

theorem checkNearest_of_not_exists (nearest : Binary64)
    (beyond : ¬∃ number, Value.checkNearest nearest = .ok number) :
    Value.checkNearest nearest = crash .integerTooLarge := by
  cases nearest with
  | infinite negative => rfl
  | _ => exact absurd ⟨_, rfl⟩ beyond

theorem ofInt_isNaN (whole : Int) : (Binary64.ofInt whole).isNaN = false := by
  unfold Binary64.ofInt Binary64.ofQuotient
  exact Binary64.ofUnitsQuotient_isNaN _ _ _

/-- What is read as a number is that number. -/
theorem number_of_toBinary64 {read : Binary64} (made : value.toBinary64 = .ok read)
    (isNumber : read.isNaN = false) (notFlag : ∀ flag, value ≠ .bool flag) :
    number value name = .ok read := by
  unfold number
  split
  · exact absurd rfl (notFlag _)
  · rw [made]
    dsimp only
    rw [isNumber]
    rfl

theorem toBinary64_text {text : String} {read : Binary64}
    (numeral : Numeral.number? text.toList = some read) :
    (Value.text text).toBinary64 = .ok read := by
  unfold Value.toBinary64
  dsimp only
  rw [numeral]

/-- The number in an argument may be given by its text if it is in the range of double precision. -/
theorem number_written {text : String} (isWritten : ArgumentSort.number.IsWritten value text)
    (inRange : ∀ whole, value = .int whole → ∃ number, Value.intToBinary64 whole = .ok number) :
    number (.text text) name = number value name := by
  cases isWritten with
  | text => rfl
  | integer whole =>
      have nearest : Value.intToBinary64 whole = .ok (Binary64.ofInt whole) :=
        checkNearest_of_exists (Binary64.ofInt whole) (inRange whole rfl)
      have made : (Value.int whole).toBinary64 = .ok (Binary64.ofInt whole) := nearest
      have read := toBinary64_text (Decimal.number?_integerText whole)
      exact (number_of_toBinary64 name read (ofInt_isNaN whole) nofun).trans
        (number_of_toBinary64 name made (ofInt_isNaN whole) nofun).symm
  | @float layout negative units representable =>
      have read := toBinary64_text ((congrArg Numeral.number?
        String.toList_ofList).trans (layout.number?_text negative representable))
      have made : (Value.float (.finite negative units)).toBinary64 =
          .ok (.finite negative units) := rfl
      exact (number_of_toBinary64 name read rfl nofun).trans
        (number_of_toBinary64 name made rfl nofun).symm

theorem number_of_crash (crashed : value.toBinary64 = crash .integerTooLarge)
    (notFlag : ∀ flag, value ≠ .bool flag) : number value name = crash .integerTooLarge := by
  unfold number
  split
  · exact absurd rfl (notFlag _)
  · rw [crashed]
    rfl

/-- A whole number past the range of double precision is no argument at all. -/
theorem number_of_tooLarge {whole : Int}
    (beyond : ¬∃ number, Value.intToBinary64 whole = .ok number) :
    number (.int whole) name = crash .integerTooLarge := by
  have nearest : Value.intToBinary64 whole = crash .integerTooLarge :=
    checkNearest_of_not_exists (Binary64.ofInt whole) beyond
  exact number_of_crash name nearest nofun

end Argument

/-- A text has one form alone. -/
theorem ArgumentSort.IsSame.eq {value other : Value} (same : ArgumentSort.text.IsSame value other) :
    value = other := by
  cases same with
  | refl => rfl
  | written isWritten =>
      cases isWritten with
      | text => rfl

open ArgumentSort in
/-- The second question asks what the first one asks, with other forms of the same arguments. -/
inductive Query.IsSame : Query → Query → Prop where
  | refl (query : Query) : IsSame query query
  | entities {kind language otherKind otherLanguage : Value} (sameKind : text.IsSame kind otherKind)
      (sameLanguage : text.IsSame language otherLanguage) :
      IsSame (.entities kind language) (.entities otherKind otherLanguage)
  | entity {key other : Value} (same : text.IsSame key other) : IsSame (.entity key) (.entity other)
  | search {term limit otherTerm otherLimit : Value} (sameTerm : text.IsSame term otherTerm)
      (sameLimit : whole.IsSame limit otherLimit) :
      IsSame (.search term limit) (.search otherTerm otherLimit)
  | callers {key other : Value} (same : text.IsSame key other) :
      IsSame (.callers key) (.callers other)
  | callees {key other : Value} (same : text.IsSame key other) :
      IsSame (.callees key) (.callees other)
  | blastRadius {key hops otherKey otherHops : Value} (sameKey : text.IsSame key otherKey)
      (sameHops : whole.IsSame hops otherHops) :
      IsSame (.blastRadius key hops) (.blastRadius otherKey otherHops)
  | hotspots {top other : Value} (same : whole.IsSame top other) :
      IsSame (.hotspots top) (.hotspots other)
  | clusters {threshold other : Value} (same : number.IsSame threshold other) :
      IsSame (.clusters threshold) (.clusters other)
  | smartContext {focus tokens depth otherFocus otherTokens otherDepth : Value}
      (sameFocus : text.IsSame focus otherFocus) (sameTokens : whole.IsSame tokens otherTokens)
      (sameDepth : whole.IsSame depth otherDepth) :
      IsSame (.smartContext focus tokens depth) (.smartContext otherFocus otherTokens otherDepth)
  | temporalCoupling {key strength count otherKey otherStrength otherCount : Value}
      (sameKey : text.IsSame key otherKey) (sameStrength : number.IsSame strength otherStrength)
      (sameCount : whole.IsSame count otherCount) :
      IsSame (.temporalCoupling key strength count)
        (.temporalCoupling otherKey otherStrength otherCount)

theorem Query.IsSame.endpoint {query other : Query} (same : query.IsSame other) :
    other.endpoint = query.endpoint := by
  cases same <;> rfl

namespace Service

variable {service : Service} {snapshot : Snapshot} {query other : Query}

theorem search_same (text : Value) {limit other : Value}
    (same : ArgumentSort.whole.IsSame limit other) :
    service.search snapshot text other = service.search snapshot text limit := by
  cases same with
  | refl => rfl
  | written isWritten =>
      have read := Argument.positive_written "limit" isWritten
      cases isWritten with
      | text => rfl
      | _ =>
          unfold search
          dsimp only
          rw [read]

theorem blastRadius_same (entity : Value) {hops other : Value}
    (same : ArgumentSort.whole.IsSame hops other) :
    service.blastRadius snapshot entity other = service.blastRadius snapshot entity hops := by
  unfold blastRadius
  rw [Argument.positive_same _ same]

theorem hotspots_same {top other : Value} (same : ArgumentSort.whole.IsSame top other) :
    hotspots snapshot other = hotspots snapshot top := by
  unfold hotspots
  rw [Argument.positive_same _ same]

theorem clusters_same {threshold other : Value}
    (same : ArgumentSort.number.IsSame threshold other)
    (inRange : (Query.clusters threshold).IsInRange) :
    service.clusters snapshot other = service.clusters snapshot threshold := by
  cases same with
  | refl => rfl
  | written isWritten =>
      have read := Argument.number_written "threshold" isWritten fun whole same =>
        inRange whole (same ▸ List.mem_singleton_self _)
      cases isWritten with
      | text => rfl
      | _ =>
          unfold clusters
          dsimp only
          rw [read]

theorem smartContext_same (focus : Value) {tokens maxDepth otherTokens otherDepth : Value}
    (sameTokens : ArgumentSort.whole.IsSame tokens otherTokens)
    (sameDepth : ArgumentSort.whole.IsSame maxDepth otherDepth) :
    service.smartContext snapshot focus otherTokens otherDepth =
      service.smartContext snapshot focus tokens maxDepth := by
  have budget (depth : Value) : service.smartContext snapshot focus otherTokens depth =
      service.smartContext snapshot focus tokens depth := by
    unfold smartContext
    rw [Argument.positive_same _ sameTokens]
  rw [budget]
  cases sameDepth with
  | refl => rfl
  | written isWritten =>
      have read := Argument.positive_written "max_depth" isWritten
      cases isWritten with
      | text => rfl
      | _ =>
          unfold smartContext
          dsimp only
          rw [read]

theorem temporalCoupling_same (entity : Value) {strength count otherStrength otherCount : Value}
    (sameStrength : ArgumentSort.number.IsSame strength otherStrength)
    (sameCount : ArgumentSort.whole.IsSame count otherCount)
    (inRange : (Query.temporalCoupling entity strength count).IsInRange) :
    service.temporalCoupling snapshot entity otherStrength otherCount =
      service.temporalCoupling snapshot entity strength count := by
  have counted (strength : Value) :
      service.temporalCoupling snapshot entity strength otherCount =
        service.temporalCoupling snapshot entity strength count := by
    cases sameCount with
    | refl => rfl
    | written isWritten =>
        have read := Argument.positive_written "min_co_changes" isWritten
        cases isWritten with
        | text => rfl
        | _ =>
            unfold temporalCoupling
            dsimp only
            rw [read]
  rw [counted]
  cases sameStrength with
  | refl => rfl
  | written isWritten =>
      have read := Argument.number_written "min_strength" isWritten fun whole same =>
        inRange whole (same ▸ List.mem_singleton_self _)
      cases isWritten with
      | text => rfl
      | _ =>
          unfold temporalCoupling
          dsimp only
          rw [read]

/-- A question finds the same content with its arguments in other forms. -/
theorem content_same (same : query.IsSame other) (inRange : query.IsInRange) :
    service.content other = service.content query := by
  cases same with
  | refl => rfl
  | entities sameKind sameLanguage => rw [sameKind.eq, sameLanguage.eq]
  | entity same => rw [same.eq]
  | search sameTerm sameLimit =>
      rw [sameTerm.eq]
      exact bind_congr fun snapshot => search_same _ sameLimit
  | callers same => rw [same.eq]
  | callees same => rw [same.eq]
  | blastRadius sameKey sameHops =>
      rw [sameKey.eq]
      exact bind_congr fun snapshot => blastRadius_same _ sameHops
  | hotspots same => exact bind_congr fun snapshot => hotspots_same same
  | clusters same => exact bind_congr fun snapshot => clusters_same same inRange
  | smartContext sameFocus sameTokens sameDepth =>
      rw [sameFocus.eq]
      exact bind_congr fun snapshot => smartContext_same _ sameTokens sameDepth
  | temporalCoupling sameKey sameStrength sameCount =>
      rw [sameKey.eq] at inRange ⊢
      exact bind_congr fun snapshot => temporalCoupling_same _ sameStrength sameCount inRange

theorem clusters_of_crash {threshold : Value} (given : threshold ≠ .null)
    (crashed : Argument.number threshold "threshold" = crash .integerTooLarge) :
    service.clusters snapshot threshold = crash .integerTooLarge := by
  unfold clusters
  split
  · contradiction
  · rw [crashed]
    rfl

theorem temporalCoupling_of_crash (entity minCoChanges : Value) {minStrength : Value}
    (given : minStrength ≠ .null)
    (crashed : Argument.number minStrength "min_strength" = crash .integerTooLarge) :
    service.temporalCoupling snapshot entity minStrength minCoChanges =
      crash .integerTooLarge := by
  unfold temporalCoupling
  cases minStrength with
  | null => contradiction
  | _ =>
      dsimp only
      rw [crashed]
      rfl

/-- Where a snapshot is served, a whole number past the range of double precision is a defect. -/
theorem content_of_not_isInRange (served : service.manager.served = some snapshot)
    (beyond : ¬query.IsInRange) : service.content query = crash .integerTooLarge := by
  obtain ⟨whole, outside⟩ := not_forall.mp beyond
  obtain ⟨member, tooLarge⟩ := Classical.not_imp.mp outside
  have crashed (name : String) := Argument.number_of_tooLarge name tooLarge
  rw [content_of_served served]
  cases query with
  | clusters threshold =>
      have same : threshold = .int whole := (List.mem_singleton.mp member).symm
      exact clusters_of_crash (by rw [same]; exact nofun) (by rw [same]; exact crashed _)
  | temporalCoupling entity minStrength minCoChanges =>
      have same : minStrength = .int whole := (List.mem_singleton.mp member).symm
      exact temporalCoupling_of_crash entity minCoChanges (by rw [same]; exact nofun)
        (by rw [same]; exact crashed _)
  | _ => exact absurd member List.not_mem_nil

/-- If messages can name settings and arguments, then a question ends in a defect exactly where a
snapshot is served and an argument is a whole number past the range of double precision. -/
theorem content_isAnswerable_iff (typed : service.config.IsTyped)
    (settings : service.config.CanBeShown)
    (texts : ∀ snapshot, service.manager.served = some snapshot → snapshot.HasTexts)
    (shown : query.IsInRange → ∀ value ∈ query.named, value.CanBeShown) :
    FailsWithin Fault.IsAnswerable (service.content query) ↔
      service.manager.served = none ∨ query.IsInRange := by
  constructor
  · intro answerable
    cases served : service.manager.served with
    | none => exact .inl rfl
    | some snapshot =>
        by_contra outside
        have beyond : ¬query.IsInRange := fun inRange => outside (.inr inRange)
        cases answerable _ (content_of_not_isInRange served beyond)
  · rintro (empty | inRange)
    · by_cases health : query = .health
      · subst health
        exact FailsWithin.ok _
      · rw [content_of_none empty health]
        exact FailsWithin.error rfl
    · exact content_isAnswerable typed settings texts (shown inRange) inRange

/-- A question finds the same content with its arguments in other forms, if it is answered. -/
theorem content_alike (same : query.IsSame other)
    (fits : service.manager.served = none ∨ query.IsInRange) :
    service.content other = service.content query := by
  rcases fits with empty | inRange
  · cases same with
    | refl => rfl
    | _ =>
        refine Eq.trans (content_of_none empty ?_) (content_of_none empty ?_).symm <;>
          exact nofun
  · exact content_same same inRange

end Service

end CodeGraph

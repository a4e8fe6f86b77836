import CodeGraph.Proofs.AnsweredReports
import CodeGraph.Proofs.NameMatch
import CodeGraph.Proofs.RelationOrder

/-!
This file says which entities a search finds and in which order. The scores put whole names first,
then those that begin with the query, those that contain it and those that resemble it. A page is
the front of all hits.
-/

namespace CodeGraph

/-- The name of an entity as it is searched. -/
def Entity.loweredName (entity : Entity) : List Char := Text.lower entity.address.name.toList

namespace Hit

variable {threshold : Value} {query : List Char} {first second : Hit}

/-- The first hit matches in a better way than the second one, or it comes first among the hits that
match in the same way. Those that merely resemble the query stand in the order of their scores. -/
def IsBefore (query : List Char) (first second : Hit) : Prop :=
  first.rating.kind.rank < second.rating.kind.rank ∨
    (first.rating.kind = second.rating.kind ∧ match first.rating.kind with
      | .whole | .front => first.entity.key < second.entity.key
      | .inside => ∃ near far, Match.IsFirstPlace query first.entity.loweredName near ∧
          Match.IsFirstPlace query second.entity.loweredName far ∧
          (min near Match.farthestPosition < min far Match.farthestPosition ∨
            (min near Match.farthestPosition = min far Match.farthestPosition ∧
              first.entity.key < second.entity.key))
      | .similar | .none => second.rating.score.le first.rating.score = true)

theorem precedes_iff : first.precedes second = true ↔
    second.rating.score.lt first.rating.score = true ∨
      (first.rating.score.lt second.rating.score = false ∧
        first.entity.key < second.entity.key) := by
  simp [precedes]

/-- The rating of the hit is that of its name, and it is above zero. -/
structure IsRated (threshold : Value) (query : List Char) (hit : Hit) : Prop where
  rates : Match.Rates threshold query hit.entity.loweredName hit.rating
  counts : Binary64.zero.lt hit.rating.score = true

theorem IsRated.matched (rated : first.IsRated threshold query) : first.rating.kind ≠ .none := by
  intro nothing
  have highest := rated.rates.within.2
  rw [nothing, MatchKind.highest] at highest
  have above := rated.counts
  rw [Binary64.lt_eq_false_of_le highest] at above
  cases above

theorem IsRated.isNaN (rated : first.IsRated threshold query) :
    first.rating.score.isNaN = false :=
  (Binary64.isNaN_of_le rated.rates.within.1).2

theorem not_precedes_of_lt (lower : first.rating.score.lt second.rating.score = true) :
    ¬first.precedes second = true := by
  rw [precedes_iff, lower, Binary64.lt_eq_false_of_le (Binary64.lt_iff.mp lower).1]
  simp

/-- Hits of the same score stand in the order of their keys. -/
theorem key_lt_of_precedes (rated : first.IsRated threshold query)
    (same : first.rating.score = second.rating.score) (before : first.precedes second = true) :
    first.entity.key < second.entity.key := by
  rw [precedes_iff, ← same, Binary64.lt_eq_false_of_le (Binary64.le_refl rated.isNaN)] at before
  simpa using before

theorem score_le_of_precedes (former : first.IsRated threshold query)
    (latter : second.IsRated threshold query) (before : first.precedes second = true) :
    second.rating.score.le first.rating.score = true := by
  rcases precedes_iff.mp before with higher | ⟨notLower, -⟩
  · exact (Binary64.lt_iff.mp higher).1
  · exact Binary64.le_of_lt_eq_false former.isNaN latter.isNaN notLower

/-- The scores put the hits in the order of their ways to match. -/
theorem isBefore_of_precedes (former : first.IsRated threshold query)
    (latter : second.IsRated threshold query) (before : first.precedes second = true) :
    IsBefore query first second := by
  rcases Nat.lt_trichotomy first.rating.kind.rank second.rating.kind.rank with
    better | same | worse
  · exact .inl better
  · have kinds := MatchKind.rank_injective same
    refine .inr ⟨kinds, ?_⟩
    cases kind : first.rating.kind with
    | whole =>
        have scores : first.rating.score = second.rating.score := by
          rw [former.rates.score_of_whole kind, latter.rates.score_of_whole (kinds.symm.trans kind)]
        exact key_lt_of_precedes former scores before
    | front =>
        have scores : first.rating.score = second.rating.score := by
          rw [former.rates.score_of_front kind, latter.rates.score_of_front (kinds.symm.trans kind)]
        exact key_lt_of_precedes former scores before
    | inside =>
        obtain ⟨near, nearFirst, nearScore⟩ := former.rates.exists_place kind
        obtain ⟨far, farFirst, farScore⟩ :=
          latter.rates.exists_place (kinds.symm.trans kind)
        refine ⟨near, far, nearFirst, farFirst, ?_⟩
        rcases Nat.lt_trichotomy (min near Match.farthestPosition)
          (min far Match.farthestPosition) with nearer | level | farther
        · exact .inl nearer
        · have scores : first.rating.score = second.rating.score := by
            rw [nearScore, farScore, Match.insideScoreAt_eq level]
          exact .inr ⟨level, key_lt_of_precedes former scores before⟩
        · have lower : first.rating.score.lt second.rating.score = true := by
            rw [nearScore, farScore]
            exact Match.insideScoreAt_lt farther
          exact absurd before (not_precedes_of_lt lower)
    | similar => exact score_le_of_precedes former latter before
    | none => exact score_le_of_precedes former latter before
  · have lower := latter.rates.score_lt former.rates worse former.matched
    exact absurd before (not_precedes_of_lt lower)

/-- The place of the score on the line of numbers. -/
def height (hit : Hit) : WithBot (WithTop Int) :=
  (Atom.float hit.rating.score).essence.place?.getD ⊥

theorem IsRated.lt_iff (former : first.IsRated threshold query)
    (latter : second.IsRated threshold query) :
    first.rating.score.lt second.rating.score = true ↔ first.height < second.height := by
  obtain ⟨left, leftPlace⟩ := (Atom.IsOrdered.of_isNaN former.isNaN).exists_place rfl
  obtain ⟨right, rightPlace⟩ := (Atom.IsOrdered.of_isNaN latter.isNaN).exists_place rfl
  have places : first.rating.score.lt second.rating.score = true ↔ left < right :=
    Atom.float_lt_float_iff.trans (Atom.isSmaller_iff leftPlace rightPlace)
  rw [places, height, height, leftPlace, rightPlace]
  rfl

/-- Hits of different entities are in a strict order. -/
theorem precedes_strict {hits : List Hit} (rated : ∀ hit ∈ hits, hit.IsRated threshold query)
    (distinct : (hits.map fun hit => hit.entity.key).Nodup) :
    Order.IsStrict precedes (· ∈ hits) := by
  have compared (first : Hit) (firstIn : first ∈ hits) (second : Hit) (secondIn : second ∈ hits) :
      first.precedes second = true ↔ second.height < first.height ∨
        (first.height = second.height ∧ first.entity.key < second.entity.key) := by
    have forth := (rated first firstIn).lt_iff (rated second secondIn)
    have back := (rated second secondIn).lt_iff (rated first firstIn)
    rw [precedes_iff, ← Bool.not_eq_true, forth, back]
    constructor
    · rintro (higher | ⟨notLower, smaller⟩)
      · exact .inl higher
      · rcases lt_or_eq_of_le (not_lt.mp notLower) with higher | level
        · exact .inl higher
        · exact .inr ⟨level.symm, smaller⟩
    · rintro (higher | ⟨level, smaller⟩)
      · exact .inl higher
      · exact .inr ⟨level.not_lt, smaller⟩
  exact .of_rank compared distinct

end Hit

/-- The hits are the entities that match the query, each one once and the best one first. -/
structure AreHits (snapshot : Snapshot) (query : List Char) (hits : List Hit) : Prop where
  known : ∀ hit ∈ hits, hit.entity ∈ snapshot.entities.rows
  once : (hits.map fun hit => hit.entity.key).Nodup
  complete : ∀ entity ∈ snapshot.entities.rows, query <:+: entity.loweredName →
    ∃ hit ∈ hits, hit.entity = entity
  holds : ∀ hit ∈ hits, hit.rating.kind.Holds query hit.entity.loweredName
  ordered : hits.Pairwise (Hit.IsBefore query)
  shown : ∀ hit ∈ hits, hit.toValue.field? "key" = some (.text hit.entity.key) ∧
    hit.toValue.field? "score" = some (.float hit.rating.score) ∧
    hit.toValue.field? "match" = some (.text hit.rating.kind.word)

namespace SearchPage

/-- The page shows these hits and tells how many there are in all. -/
structure Shows (query : String) (total : Nat) (hits : List Hit) (page : SearchPage) : Prop where
  query : page.toValue.field? "query" = some (.text query)
  total : page.toValue.field? "total_matches" = some (.int total)
  returned : page.toValue.field? "returned" = some (.int hits.length)
  hits : page.toValue.field? "entities" = some (.list (hits.map Hit.toValue))

theorem shows (query : String) (total : Nat) (hits : List Hit) :
    Shows query total hits ⟨query, total, hits⟩ := ⟨rfl, rfl, rfl, rfl⟩

variable {snapshot : Snapshot} {threshold : Value} {query : String}

/-- The hits are the entities with a positive score. -/
theorem collect_eq_ok {entities : List Entity} {hits : List Hit}
    (collected : collect threshold query entities = .ok hits) :
    (hits.map Hit.entity).Sublist entities ∧ ∀ hit, hit ∈ hits ↔ hit.entity ∈ entities ∧
      Match.measure threshold query hit.entity.address.name = .ok hit.rating ∧
        Binary64.zero.lt hit.rating.score = true := by
  induction entities generalizing hits with
  | nil =>
      cases collected
      simp
  | cons entity rest inductionHypothesis =>
      unfold collect at collected
      obtain ⟨rating, rated, collected⟩ := Outcome.bind_ok collected
      obtain ⟨others, behind, joined⟩ := Outcome.bind_ok collected
      obtain ⟨part, exact⟩ := inductionHypothesis behind
      have here (hit : Hit) : hit.entity = entity ∧
          Match.measure threshold query hit.entity.address.name = .ok hit.rating ↔
            hit = ⟨entity, rating⟩ := by
        obtain ⟨other, given⟩ := hit
        constructor
        · rintro ⟨rfl, measured⟩
          rw [rated, Except.ok.injEq] at measured
          rw [measured]
        · intro same
          cases same
          exact ⟨rfl, rated⟩
      by_cases counts : Binary64.zero.lt rating.score = true
      · rw [if_pos counts] at joined
        cases joined
        refine ⟨part.cons_cons entity, fun hit => ?_⟩
        have scored : hit = ⟨entity, rating⟩ → Binary64.zero.lt hit.rating.score = true := by
          rintro rfl
          exact counts
        rw [List.mem_cons, List.mem_cons, exact]
        rw [← here hit] at scored ⊢
        tauto
      · rw [if_neg counts] at joined
        cases joined
        refine ⟨part.cons entity, fun hit => ?_⟩
        have unscored : hit = ⟨entity, rating⟩ → ¬Binary64.zero.lt hit.rating.score = true := by
          rintro rfl
          exact counts
        rw [List.mem_cons, exact]
        rw [← here hit] at unscored
        tauto

/-- A name that contains the query is rated above zero, whatever the threshold. -/
theorem exists_measure_of_contained {name : String}
    (inside : Text.lower query.toList <:+: Text.lower name.toList) :
    ∃ rating, Match.measure threshold query name = .ok rating ∧
      Binary64.zero.lt rating.score = true := by
  obtain ⟨rating, rated⟩ := Match.exists_ofLowered threshold inside
  exact ⟨rating, rated, (Match.rates_of_ofLowered rated).zero_lt_score inside⟩

theorem sort_areHits {hits : List Hit}
    (collected : collect threshold query snapshot.entities.rows = .ok hits) :
    AreHits snapshot (Text.lower query.toList) (Order.sort Hit.precedes hits) := by
  obtain ⟨part, exact⟩ := collect_eq_ok collected
  have rated : ∀ hit ∈ hits, hit.IsRated threshold (Text.lower query.toList) := by
    intro hit member
    obtain ⟨-, measured, counts⟩ := (exact hit).mp member
    exact ⟨Match.rates_of_ofLowered measured, counts⟩
  have distinct : (hits.map fun hit => hit.entity.key).Nodup := by
    have keys := snapshot.nodup_keys.sublist (part.map Entity.key)
    rwa [List.map_map] at keys
  have ordered := Order.sort_pairwise (Hit.precedes_strict rated distinct) distinct.of_map
  have sorted := Order.sort_perm Hit.precedes hits
  exact {
    known := fun hit member => ((exact hit).mp (Order.mem_sort.mp member)).1
    once := (sorted.map fun hit => hit.entity.key).nodup_iff.mpr distinct
    complete := by
      intro entity member inside
      obtain ⟨rating, measured, counts⟩ := @exists_measure_of_contained threshold query _ inside
      exact ⟨⟨entity, rating⟩, Order.mem_sort.mpr ((exact _).mpr ⟨member, measured, counts⟩), rfl⟩
    holds := fun hit member => (rated hit (Order.mem_sort.mp member)).rates.holds
    ordered := ordered.imp fun ⟨firstIn, secondIn, before⟩ =>
      Hit.isBefore_of_precedes (rated _ firstIn) (rated _ secondIn) before
    shown := fun _ _ => ⟨rfl, rfl, rfl⟩ }

/-- The text of a request is searched without the blanks around it. -/
def stripped (raw : String) : String := String.ofList (Text.strip raw.toList)

/-- Every request with a text that is not blank is answered. All hits are found in their order, and
a limit only cuts them off. The page shows the hits, and the number of all of them beside. -/
theorem ofRequest_areHits {raw : String} (filled : Text.strip raw.toList ≠ [])
    (isNumber : threshold.IsNumber) : ∃ hits,
      AreHits snapshot (Text.lower (Text.strip raw.toList)) hits ∧
      ofRequest snapshot (.text raw) .null threshold = .ok ⟨stripped raw, hits.length, hits⟩ ∧
      (∀ limit : Nat, 0 < limit → ofRequest snapshot (.text raw) (.int limit) threshold =
        .ok ⟨stripped raw, hits.length, hits.take limit⟩) ∧
      ∀ cut, Shows (stripped raw) hits.length cut ⟨stripped raw, hits.length, cut⟩ := by
  have asked : Argument.text? (.text raw) = some (stripped raw) := by
    unfold Argument.text?
    exact if_neg (mt List.isEmpty_iff.mp filled)
  obtain ⟨hits, collected⟩ :=
    exists_collect isNumber (stripped raw) snapshot.entities.rows
  have areHits := sort_areHits collected
  rw [stripped, String.toList_ofList] at areHits
  have measured (limit : Option Nat) : measure snapshot threshold (stripped raw) limit =
      .ok ⟨stripped raw, (Order.sort Hit.precedes hits).length,
        limit.elim (Order.sort Hit.precedes hits) (Order.sort Hit.precedes hits).take⟩ := by
    rw [measure, ranked, collected]
    cases limit <;> rfl
  refine ⟨Order.sort Hit.precedes hits, areHits, ?_, fun limit positive => ?_, shows _ _⟩
  · unfold ofRequest
    rw [asked]
    exact measured none
  · have limited : Argument.positive? (.int limit) = some limit := by
      simp [Argument.positive?, positive]
    unfold ofRequest
    rw [asked]
    dsimp only
    rw [limited]
    exact measured (some limit)

/-- Four functions outside the source tree, whose names contain the same word at different
places. -/
def readingFunctions : Snapshot where
  entities := Table.ofList [
    Entity.sentinel ⟨.rust, .function, "ahead_read", .external, by decide⟩,
    Entity.sentinel ⟨.rust, .function, "Read", .external, by decide⟩,
    Entity.sentinel ⟨.rust, .function, "reader", .external, by decide⟩,
    Entity.sentinel ⟨.rust, .function, "unread", .external, by decide⟩]
  edges := []
  changeSets := Table.empty
  id := ""
  createdAt := .null
  generation := 1
  endpointsPresent := by decide

/-- The word itself comes first, then the name that begins with it. Of the other two names the one
with the larger key comes first, because the word stands nearer to its start. -/
theorem ofRequest_areHits_readingFunctions : ∃ hits,
    AreHits readingFunctions "read".toList hits ∧
      ofRequest readingFunctions (.text " READ ") .null Match.defaultThreshold =
        .ok ⟨"READ", hits.length, hits⟩ ∧
      ofRequest readingFunctions (.text " READ ") (.int (2 : Nat)) Match.defaultThreshold =
        .ok ⟨"READ", hits.length, hits.take 2⟩ ∧
      hits.map (fun hit => (hit.entity.address.name, hit.rating.kind)) =
        [("Read", .whole), ("reader", .front), ("unread", .inside), ("ahead_read", .inside)] := by
  have listed : (ofRequest readingFunctions (.text " READ ") .null
      Match.defaultThreshold).toOption.any (fun page => decide (page.hits.map
        (fun hit => (hit.entity.address.name, hit.rating.kind)) =
          [("Read", .whole), ("reader", .front), ("unread", .inside),
            ("ahead_read", .inside)])) = true := by decide +kernel
  have query : Text.lower (Text.strip " READ ".toList) = "read".toList := by decide +kernel
  have name : stripped " READ " = "READ" := by decide +kernel
  obtain ⟨hits, areHits, answered, limited, -⟩ := @ofRequest_areHits readingFunctions
    Match.defaultThreshold " READ " (by decide +kernel) ⟨_, rfl, rfl⟩
  rw [query] at areHits
  rw [name] at answered limited
  refine ⟨hits, areHits, answered, limited 2 (by decide), ?_⟩
  rw [answered] at listed
  exact of_decide_eq_true listed

end SearchPage

end CodeGraph

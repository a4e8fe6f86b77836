import CodeGraph.Proofs.MatchedRuns
import CodeGraph.Proofs.Outcomes
import CodeGraph.Report.Match

/-!
This file says how a name is rated. The ways in which a name matches have scores in bands that do
not overlap, and a query inside a name scores lower the farther back it stands.
-/

namespace CodeGraph

namespace Match

/-- The part stands at the place of the text and at no earlier one. -/
def IsFirstPlace (part text : List Char) (place : Nat) : Prop :=
  part <+: text.drop place ∧ ∀ earlier < place, ¬part <+: text.drop earlier

section Position

variable {part text : List Char} {place : Nat}

theorem isFirstPlace_zero : IsFirstPlace part text 0 ↔ part <+: text := by
  simp [IsFirstPlace]

/-- In front of later characters the first place moves on by one. -/
theorem isFirstPlace_succ {c : Char} : IsFirstPlace part (c :: text) (place + 1) ↔
    ¬part <+: c :: text ∧ IsFirstPlace part text place := by
  unfold IsFirstPlace
  rw [Nat.forall_lt_succ_left, List.drop_succ_cons, List.drop_zero]
  simp only [List.drop_succ_cons]
  exact and_left_comm

theorem IsFirstPlace.unique {other : Nat} (former : IsFirstPlace part text place)
    (latter : IsFirstPlace part text other) : place = other := by
  rcases Nat.lt_trichotomy place other with earlier | same | later
  · exact absurd former.1 (latter.2 place earlier)
  · exact same
  · exact absurd latter.1 (former.2 other later)

theorem isFirstPlace_of_position? (found : position? part text = some place) :
    IsFirstPlace part text place := by
  induction text generalizing place with
  | nil =>
      rw [position?, Option.ite_none_right_eq_some] at found
      obtain ⟨empty, here⟩ := found
      cases here
      exact isFirstPlace_zero.mpr (List.isEmpty_iff.mp empty ▸ List.prefix_rfl)
  | cons c rest inductionHypothesis =>
      unfold position? at found
      split_ifs at found with here
      · cases found
        exact isFirstPlace_zero.mpr (List.isPrefixOf_iff_prefix.mp here)
      · obtain ⟨behind, foundBehind, rfl⟩ := Option.map_eq_some_iff.mp found
        exact isFirstPlace_succ.mpr ⟨mt List.isPrefixOf_iff_prefix.mpr here,
          inductionHypothesis foundBehind⟩

/-- A part has a position exactly in the texts that contain it. -/
theorem position?_eq_none_iff : position? part text = none ↔ ¬part <:+: text := by
  induction text with
  | nil =>
      rw [position?, ite_eq_right_iff, List.infix_nil]
      simp
  | cons c rest inductionHypothesis =>
      unfold position?
      rw [List.infix_cons_iff, ← List.isPrefixOf_iff_prefix]
      split_ifs with here
      · simp [here]
      · simp [here, inductionHypothesis]

end Position

/-- The rating of a name by the way in which it matches. -/
inductive Rates (threshold : Value) (query name : List Char) : Match → Prop
  | whole : name = query → Rates threshold query name ⟨wholeScore, .whole⟩
  | front : query <+: name → name ≠ query → Rates threshold query name ⟨frontScore, .front⟩
  | inside {place : Nat} : IsFirstPlace query name place → ¬query <+: name →
      Rates threshold query name ⟨insideScoreAt place, .inside⟩
  | similar : ¬query <:+: name → reaches (Text.similarity query name) threshold = .ok true →
      Rates threshold query name ⟨similarScore (Text.similarity query name), .similar⟩
  | none : ¬query <:+: name → reaches (Text.similarity query name) threshold = .ok false →
      Rates threshold query name ⟨Binary64.zero, .none⟩

theorem rates_of_ofLowered {threshold : Value} {query name : List Char} {rating : Match}
    (rated : ofLowered threshold query name = .ok rating) :
    Rates threshold query name rating := by
  unfold ofLowered at rated
  split at rated
  · rename_i same
    rw [← Except.ok.inj rated]
    exact .whole same
  · rename_i apart
    split at rated
    · rename_i begins
      rw [← Except.ok.inj rated]
      exact .front (List.isPrefixOf_iff_prefix.mp begins) apart
    · rename_i later
      split at rated
      · rename_i place found
        rw [← Except.ok.inj rated]
        exact .inside (isFirstPlace_of_position? found) (mt List.isPrefixOf_iff_prefix.mpr later)
      · rename_i missing
        have outside := position?_eq_none_iff.mp missing
        obtain ⟨enough, reached, rfl⟩ := Outcome.map_ok rated
        cases enough with
        | true => exact .similar outside reached
        | false => exact .none outside reached

/-- The threshold does not matter for a name that contains the query. -/
theorem exists_ofLowered (threshold : Value) {query name : List Char} (inside : query <:+: name) :
    ∃ rating, ofLowered threshold query name = .ok rating := by
  unfold ofLowered
  split
  · exact ⟨_, rfl⟩
  · split
    · exact ⟨_, rfl⟩
    · split
      · exact ⟨_, rfl⟩
      · rename_i missing
        exact absurd inside (position?_eq_none_iff.mp missing)

section Bands

/-- The score of a query depends on its position up to the farthest one only. -/
theorem exists_band (place : Nat) : ∃ band : Fin (farthestPosition + 1),
    band.val = min place farthestPosition ∧ insideScoreAt place = insideScoreAt band.val := by
  refine ⟨⟨min place farthestPosition, by omega⟩, rfl, ?_⟩
  have capped : min (min (place : Int) farthestPosition) farthestPosition =
      min (place : Int) farthestPosition := by omega
  unfold insideScoreAt
  rw [Nat.cast_min, capped]

/-- A query inside a name scores lower the farther back it stands. -/
theorem insideScoreAt_lt {near far : Nat}
    (nearer : min near farthestPosition < min far farthestPosition) :
    (insideScoreAt far).lt (insideScoreAt near) = true := by
  have falling : ∀ near far : Fin (farthestPosition + 1), near < far →
      (insideScoreAt far).lt (insideScoreAt near) = true := by decide +kernel
  obtain ⟨nearBand, nearPlace, nearScore⟩ := exists_band near
  obtain ⟨farBand, farPlace, farScore⟩ := exists_band far
  rw [nearScore, farScore]
  exact falling nearBand farBand (Fin.lt_def.mpr (by omega))

theorem insideScoreAt_eq {near far : Nat}
    (same : min near farthestPosition = min far farthestPosition) :
    insideScoreAt near = insideScoreAt far := by
  obtain ⟨nearBand, nearPlace, nearScore⟩ := exists_band near
  obtain ⟨farBand, farPlace, farScore⟩ := exists_band far
  rw [nearScore, farScore, nearPlace, farPlace, same]

/-- The scores of a query inside a name fall from the first position to the farthest one. -/
theorem insideScoreAt_within (place : Nat) :
    (insideScoreAt farthestPosition).le (insideScoreAt place) = true ∧
      (insideScoreAt place).le (insideScoreAt 0) = true := by
  have within : ∀ band : Fin (farthestPosition + 1),
      (insideScoreAt farthestPosition).le (insideScoreAt band) = true ∧
        (insideScoreAt band).le (insideScoreAt 0) = true := by decide +kernel
  obtain ⟨band, -, score⟩ := exists_band place
  rw [score]
  exact within band

/-- What is more similar does not score lower. -/
theorem similarScore_le {low high : Binary64} (atMost : low.le high = true) :
    (similarScore low).le (similarScore high) = true := by
  obtain ⟨factor, positive, ceiling⟩ := Binary64.exists_units similarCeiling (by decide +kernel)
  obtain ⟨lowNumber, highNumber⟩ := Binary64.isNaN_of_le atMost
  have isNumber : similarCeiling.isNaN = false := by decide +kernel
  unfold similarScore
  apply Binary64.roundPlaces_le
  rw [Binary64.mul_comm_of_isNaN lowNumber isNumber, Binary64.mul_comm_of_isNaN highNumber isNumber,
    ceiling]
  exact Binary64.mul_le_mul positive atMost

end Bands

end Match

namespace MatchKind

/-- The better ways to match have the smaller ranks. -/
def rank : MatchKind → Nat
  | .whole => 0
  | .front => 1
  | .inside => 2
  | .similar => 3
  | .none => 4

theorem rank_injective : Function.Injective rank := by
  intro first second same
  cases first <;> cases second <;> first | rfl | cases same

/-- The lowest score of a kind of match. -/
def lowest : MatchKind → Binary64
  | .whole => Match.wholeScore
  | .front => Match.frontScore
  | .inside => Match.insideScoreAt Match.farthestPosition
  | .similar | .none => Binary64.zero

/-- The highest score of a kind of match. -/
def highest : MatchKind → Binary64
  | .whole => Match.wholeScore
  | .front => Match.frontScore
  | .inside => Match.insideScoreAt 0
  | .similar => Match.similarScore (Binary64.ofInt 1)
  | .none => Binary64.zero

/-- What a kind of match says of the query and the name. -/
def Holds (query name : List Char) : MatchKind → Prop
  | .whole => name = query
  | .front => query <+: name ∧ name ≠ query
  | .inside => query <:+: name ∧ ¬query <+: name
  | .similar | .none => ¬query <:+: name

/-- A worse match scores lower than every better one. -/
theorem highest_lt_lowest {better worse : MatchKind} (above : better.rank < worse.rank)
    (matched : worse ≠ .none) : worse.highest.lt better.lowest = true := by
  -- The scores at the ends of the bands are closed numbers.
  revert above matched
  cases better <;> cases worse <;> decide +kernel

end MatchKind

namespace Match

variable {threshold : Value} {query name other : List Char} {rating first second : Match}

theorem Rates.holds (rates : Rates threshold query name rating) :
    rating.kind.Holds query name := by
  cases rates with
  | whole same => exact same
  | front begins apart => exact ⟨begins, apart⟩
  | inside place later =>
      exact ⟨place.1.isInfix.trans (List.drop_suffix _ _).isInfix, later⟩
  | similar outside => exact outside
  | none outside => exact outside

/-- The score of a match lies in the band of its kind. -/
theorem Rates.within (rates : Rates threshold query name rating) :
    rating.kind.lowest.le rating.score = true ∧ rating.score.le rating.kind.highest = true := by
  cases rates with
  | whole => decide +kernel
  | front => decide +kernel
  | @inside place =>
      dsimp only [MatchKind.lowest, MatchKind.highest]
      exact insideScoreAt_within place
  | similar =>
      have least : MatchKind.similar.lowest.le (similarScore Binary64.zero) = true := by
        decide +kernel
      exact ⟨Binary64.le_trans least (similarScore_le (Text.zero_le_similarity query name)),
        similarScore_le (Text.similarity_le_one query name)⟩
  | none => decide +kernel

/-- A name that contains the query has a score above zero. -/
theorem Rates.zero_lt_score (rates : Rates threshold query name rating) (inside : query <:+: name) :
    Binary64.zero.lt rating.score = true := by
  have lowest : Binary64.zero.lt rating.kind.lowest = true := by
    have holds := rates.holds
    cases kind : rating.kind with
    | whole | front | inside => decide +kernel
    | similar | none =>
        rw [kind] at holds
        exact absurd inside holds
  exact Binary64.lt_of_lt_of_le lowest rates.within.1

/-- A better kind of match has a higher score. -/
theorem Rates.score_lt (former : Rates threshold query name first)
    (latter : Rates threshold query other second) (better : first.kind.rank < second.kind.rank)
    (matched : second.kind ≠ .none) : second.score.lt first.score = true :=
  Binary64.lt_of_le_of_lt latter.within.2 (Binary64.lt_of_lt_of_le
    (MatchKind.highest_lt_lowest better matched) former.within.1)

theorem Rates.score_of_whole (rates : Rates threshold query name rating)
    (whole : rating.kind = .whole) : rating.score = wholeScore := by
  cases rates with
  | whole => dsimp only
  | front | inside | similar | none => cases whole

theorem Rates.score_of_front (rates : Rates threshold query name rating)
    (front : rating.kind = .front) : rating.score = frontScore := by
  cases rates with
  | front => dsimp only
  | whole | inside | similar | none => cases front

/-- A query inside a name is rated by its first place. -/
theorem Rates.exists_place (rates : Rates threshold query name rating)
    (inside : rating.kind = .inside) :
    ∃ place, IsFirstPlace query name place ∧ rating.score = insideScoreAt place := by
  cases rates with
  | inside isFirst => exact ⟨_, isFirst, by dsimp only⟩
  | whole | front | similar | none => cases inside

end Match

end CodeGraph

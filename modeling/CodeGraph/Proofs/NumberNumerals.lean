import CodeGraph.Number.Numeral
import CodeGraph.Proofs.FloatText
import CodeGraph.Proofs.Parts
import CodeGraph.Request.Argument

/-!
This file says that the texts of numbers are numerals of these numbers. A number in a document is
cut into a whole part, a fraction and an exponent, and a numeral of these parts has the same value.
-/

namespace CodeGraph

namespace Json

/-- The text is an exponent of this value, or it is empty. -/
inductive IsExponent : List Char → Int → Prop
  | none : IsExponent [] 0
  | some {mark : Char} {sign power : List Char} (isMark : mark = 'e' ∨ mark = 'E')
      (isSign : sign = [] ∨ sign = ['-'] ∨ sign = ['+']) (areDigits : AreDigits power)
      (filled : power ≠ []) :
      IsExponent (mark :: (sign ++ power))
        (Binary64.signedUnits (sign == ['-']) (digitsValue power))

/-- A text consists of the parts of a number that is not whole. -/
structure HasParts (text whole fraction tail : List Char) (exponent : Int) : Prop where
  same : text = whole ++ (pointed fraction ++ tail)
  filled : whole ≠ []
  wholeDigits : AreDigits whole
  fractionDigits : AreDigits fraction
  isExponent : IsExponent tail exponent

theorem wholeDigits_prefix (text : List Char) : wholeDigits text <+: text := by
  unfold wholeDigits
  split
  · rename_i rest
    exact ⟨rest, rfl⟩
  · exact List.takeWhile_prefix _

/-- Digits behind which nothing stands are all of a text. -/
theorem digits_eq_of_drop {text : List Char} (none : text.drop (digits text).length = []) :
    digits text = text := by
  obtain ⟨behind, same⟩ := List.takeWhile_prefix (p := isDigit) (l := text)
  change digits text ++ behind = text at same
  generalize digits text = run at none same
  subst same
  rw [List.drop_left] at none
  rw [none, List.append_nil]

/-- A fraction stands behind a point. -/
theorem fractionDigits_cases (text : List Char) :
    ∃ tail, text = pointed (fractionDigits text) ++ tail ∧
      (if (fractionDigits text).isEmpty then text
        else text.drop ((fractionDigits text).length + 1)) = tail := by
  unfold pointed
  cases empty : (fractionDigits text).isEmpty with
  | true => exact ⟨text, rfl, rfl⟩
  | false =>
      unfold fractionDigits at empty ⊢
      split at empty
      · rename_i rest
        obtain ⟨behind, same⟩ := List.takeWhile_prefix (p := isDigit) (l := rest)
        change digits rest ++ behind = rest at same
        refine ⟨behind, ?_, ?_⟩
        · rw [if_neg Bool.false_ne_true, List.cons_append, same]
        · rw [if_neg Bool.false_ne_true, List.drop_succ_cons]
          generalize digits rest = run at same
          subst same
          exact List.drop_left
      · cases empty

/-- Behind the mark of an exponent stand a sign, if there is one, and digits. -/
theorem exponentParts_cons {mark : Char} (isMark : mark = 'e' ∨ mark = 'E') (rest : List Char) :
    ∃ sign power, rest = sign ++ power ∧ (sign = [] ∨ sign = ['-'] ∨ sign = ['+']) ∧
      exponentParts (mark :: rest) = (sign, digits power) := by
  have marked : (mark == 'e' || mark == 'E') = true := by simpa using isMark
  unfold exponentParts
  dsimp only
  rw [if_pos marked]
  split
  · exact ⟨['-'], _, rfl, .inr (.inl rfl), rfl⟩
  · exact ⟨['+'], _, rfl, .inr (.inr rfl), rfl⟩
  · exact ⟨[], rest, rfl, .inl rfl, rfl⟩

/-- An exponent behind which nothing stands is all of a text. -/
theorem isExponent_of_parts {text : List Char} (filled : (exponentParts text).2 ≠ [])
    (none : text.drop (1 + (exponentParts text).1.length + (exponentParts text).2.length) = []) :
    IsExponent text (Binary64.signedUnits ((exponentParts text).1 == ['-'])
      (digitsValue (exponentParts text).2)) := by
  cases text with
  | nil => exact absurd rfl filled
  | cons mark rest =>
      by_cases isMark : mark = 'e' ∨ mark = 'E'
      · obtain ⟨sign, power, rfl, isSign, parts⟩ := exponentParts_cons isMark rest
        rw [parts] at filled none ⊢
        dsimp only at filled none ⊢
        have ended : power.drop (digits power).length = [] := by
          rw [Nat.add_assoc, Nat.add_comm 1, List.drop_succ_cons, ← List.drop_drop,
            List.drop_left] at none
          exact none
        have areDigits := areDigits_digits power
        rw [digits_eq_of_drop ended] at filled areDigits ⊢
        exact .some isMark isSign areDigits filled
      · have unmarked := @exponentParts_none (mark :: rest) fun c behind same => by
          rw [← (List.cons.inj same).1]
          exact not_or.mp isMark
        rw [unmarked] at filled
        exact absurd rfl filled

/-- A number of double precision that is read from all of a text has its parts there. -/
theorem hasParts_of_readNumber {negative : Bool} {text : List Char} {number : Binary64}
    (read : readNumber negative text = .ok (.float number, [])) :
    ∃ whole fraction tail exponent, HasParts text whole fraction tail exponent ∧
      number = Decimal.toBinary64 negative
        ⟨digitsValue (whole ++ fraction), exponent - (fraction.length : Int)⟩ := by
  obtain ⟨behind, same⟩ := wholeDigits_prefix text
  have wholeAreDigits := areDigits_wholeDigits text
  unfold readNumber at read
  dsimp only at read
  generalize wholeDigits text = whole at same wholeAreDigits read
  subst same
  have filled : whole ≠ [] := by
    rintro rfl
    cases read
  rw [if_neg (by simpa using filled), List.drop_left] at read
  obtain ⟨tail, cut, dropped⟩ := fractionDigits_cases behind
  have fractionAreDigits : AreDigits (fractionDigits behind) := by
    unfold fractionDigits
    split
    · exact areDigits_digits _
    · exact fun c member => nomatch member
  rw [dropped] at read
  generalize fractionDigits behind = fraction at read cut fractionAreDigits
  split at read
  · split at read <;> cases read
  · obtain ⟨given, rest⟩ := Prod.mk.inj (Except.ok.inj read)
    have parts (exponent : Int) (isExponent : IsExponent tail exponent) :
        HasParts (whole ++ behind) whole fraction tail exponent :=
      ⟨by rw [cut], filled, wholeAreDigits, fractionAreDigits, isExponent⟩
    by_cases none : (exponentParts tail).2 = []
    · rw [none] at given rest
      have ended : tail = [] := rest
      subst ended
      exact ⟨whole, fraction, [], 0, parts 0 .none, (Value.float.inj given).symm⟩
    · rw [if_neg (by simpa using none)] at rest
      exact ⟨whole, fraction, tail, _, parts _ (isExponent_of_parts none rest),
        (Value.float.inj given).symm⟩

end Json

namespace Numeral

open Json

/-- A run of digits ends in front of a character that is no digit and no underscore. -/
theorem digitRun_append {run behind : List Char} (areDigits : AreDigits run)
    (ends : ∀ c rest, behind = c :: rest → isAsciiDigit c = false ∧ c ≠ '_') (afterDigit : Bool) :
    digitRun afterDigit (run ++ behind) = (run, behind) := by
  induction run generalizing afterDigit with
  | nil =>
      cases behind with
      | nil => rfl
      | cons c rest =>
          obtain ⟨noDigit, noUnderscore⟩ := ends c rest rfl
          rw [List.nil_append, digitRun, if_neg (by rw [noDigit]; exact Bool.false_ne_true),
            if_neg (by simp [noUnderscore])]
  | cons c rest inductionHypothesis =>
      have first : isAsciiDigit c = true := areDigits c List.mem_cons_self
      have others := inductionHypothesis (fun other member =>
        areDigits other (List.mem_cons_of_mem c member)) true
      rw [List.cons_append, digitRun, if_pos first, others]

/-- Digits alone are one run. -/
theorem digitRun_digits {run : List Char} (areDigits : AreDigits run) (afterDigit : Bool) :
    digitRun afterDigit run = (run, []) := by
  have whole := @digitRun_append run [] areDigits (fun c rest same => nomatch same) afterDigit
  rwa [List.append_nil] at whole

/-- A digit in front of a numeral is no sign. -/
theorem sign_of_digit {c : Char} (digit : isDigit c = true) (rest : List Char) :
    sign (c :: rest) = (false, c :: rest) := by
  unfold sign
  split
  · rename_i same
    rw [(List.cons.inj same).1] at digit
    cases digit
  · rename_i same
    rw [(List.cons.inj same).1] at digit
    cases digit
  · rfl

/-- A minus in front of a numeral is its sign. -/
theorem sign_signed (negative : Bool) {first : Char} (digit : isDigit first = true)
    (rest : List Char) :
    sign ((if negative then ['-'] else []) ++ first :: rest) = (negative, first :: rest) := by
  cases negative with
  | true => rfl
  | false => exact sign_of_digit digit rest

theorem exponent?_of_isExponent {tail : List Char} {exponent : Int}
    (isExponent : IsExponent tail exponent) : exponent? tail = some exponent := by
  cases isExponent with
  | none => rfl
  | @some mark signText power isMark isSign areDigits filled =>
      have marked : (mark == 'e' || mark == 'E') = true := by simpa using isMark
      have cut : sign (signText ++ power) = (signText == ['-'], power) := by
        rcases isSign with rfl | rfl | rfl
        · obtain ⟨c, rest, rfl⟩ := List.exists_cons_of_ne_nil filled
          exact sign_of_digit (areDigits c List.mem_cons_self) rest
        · rfl
        · rfl
      unfold exponent?
      dsimp only
      rw [if_pos marked, cut, digitRun_digits areDigits]
      dsimp only
      rw [if_neg (by simpa using filled), digitsValue_eq]

/-- A numeral of the parts of a number has the value of the number. -/
theorem magnitude?_of_hasParts {text whole fraction tail : List Char} {exponent : Int}
    (parts : HasParts text whole fraction tail exponent) (negative : Bool) :
    magnitude? negative text = some (Decimal.toBinary64 negative
      ⟨Json.digitsValue (whole ++ fraction), exponent - (fraction.length : Int)⟩) := by
  have marked (c : Char) (rest : List Char) (same : tail = c :: rest) :
      isAsciiDigit c = false ∧ c ≠ '_' ∧ c ≠ '.' := by
    cases parts.isExponent with
    | none => cases same
    | some isMark =>
        rw [← (List.cons.inj same).1]
        rcases isMark with rfl | rfl <;> decide
  have wholeRun : digitRun false text = (whole, pointed fraction ++ tail) := by
    rw [parts.same]
    apply digitRun_append parts.wholeDigits
    intro c rest same
    unfold pointed at same
    split at same
    · exact ⟨(marked c rest same).1, (marked c rest same).2.1⟩
    · rw [← (List.cons.inj same).1]
      decide
  have fractionParts : fractionRun (pointed fraction ++ tail) = (fraction, tail) := by
    unfold pointed
    split
    · rename_i empty
      rw [List.isEmpty_iff.mp empty, List.nil_append]
      unfold fractionRun
      split
      · exact absurd rfl (marked '.' _ rfl).2.2
      · rfl
    · rw [List.cons_append]
      exact digitRun_append parts.fractionDigits
        (fun c rest same => ⟨(marked c rest same).1, (marked c rest same).2.1⟩) false
  unfold magnitude?
  dsimp only
  rw [wholeRun]
  dsimp only
  rw [fractionParts, exponent?_of_isExponent parts.isExponent]
  dsimp only
  rw [if_neg (by simp [parts.filled])]
  rfl

/-- A text of ASCII characters that are not blank is a plain numeral as it is. -/
theorem plain_eq_self {text : List Char}
    (solid : ∀ c ∈ text, c.toNat < 128 ∧ isAsciiBlank c = false) : plain text = text := by
  have mapped : text.map plainChar = text := by
    refine (List.map_congr_left fun c member => ?_).trans (List.map_id text)
    exact if_pos (solid c member).1
  have kept (text : List Char) (solid : ∀ c ∈ text, isAsciiBlank c = false) :
      text.dropWhile isAsciiBlank = text := by
    cases text with
    | nil => rfl
    | cons c rest =>
        exact List.dropWhile_cons_of_neg
          (by rw [solid c List.mem_cons_self]; exact Bool.false_ne_true)
  unfold plain
  rw [mapped, kept text fun c member => (solid c member).2,
    kept text.reverse fun c member => (solid c (List.mem_reverse.mp member)).2,
    List.reverse_reverse]

theorem toLower_of_digit {c : Char} (digit : isDigit c = true) : c.toLower = c := by
  unfold isDigit at digit
  rw [Bool.and_eq_true, decide_eq_true_eq, decide_eq_true_eq] at digit
  unfold Char.toLower
  apply dif_neg
  rintro ⟨above, -⟩
  exact absurd (UInt32.le_trans above digit.2) (by decide)

/-- A numeral that begins with a digit, behind a minus if there is one, has the value of its
magnitude. -/
theorem number?_of_magnitude {negative : Bool} {first : Char} {rest : List Char}
    {number : Binary64} (digit : isDigit first = true)
    (solid : ∀ c ∈ first :: rest, c.toNat < 128 ∧ isAsciiBlank c = false)
    (magnitude : magnitude? negative (first :: rest) = some number) :
    number? ((if negative then ['-'] else []) ++ first :: rest) = some number := by
  have same : plain ((if negative then ['-'] else []) ++ first :: rest) =
      (if negative then ['-'] else []) ++ first :: rest := by
    apply plain_eq_self
    intro c member
    rcases List.mem_append.mp member with minus | other
    · cases negative with
      | true =>
          rw [List.mem_singleton.mp minus]
          decide
      | false => cases minus
    · exact solid c other
  have unnamed (name : String) (c : Char) (more : List Char) (shape : name.toList = c :: more)
      (noDigit : isDigit c = false) : String.ofList ((first :: rest).map Char.toLower) ≠ name := by
    intro named
    have letters := congrArg String.toList named
    rw [String.toList_ofList, shape, List.map_cons, toLower_of_digit digit] at letters
    rw [← (List.cons.inj letters).1, digit] at noDigit
    cases noDigit
  unfold number?
  dsimp only
  rw [same, sign_signed negative digit]
  dsimp only
  rw [if_neg (not_or.mpr ⟨unnamed "inf" 'i' _ rfl rfl, unnamed "infinity" 'i' _ rfl rfl⟩),
    if_neg (unnamed "nan" 'n' _ rfl rfl), magnitude]

/-- The characters of the parts of a number are ASCII characters and not blank. -/
theorem solid_of_hasParts {text whole fraction tail : List Char} {exponent : Int}
    (parts : HasParts text whole fraction tail exponent) {c : Char} (member : c ∈ text) :
    c.toNat < 128 ∧ isAsciiBlank c = false := by
  have solidDigit {c : Char} (digit : isDigit c = true) :
      c.toNat < 128 ∧ isAsciiBlank c = false := by
    unfold isDigit at digit
    rw [Bool.and_eq_true, decide_eq_true_eq, decide_eq_true_eq] at digit
    constructor
    · exact Nat.lt_of_le_of_lt (UInt32.le_iff_toNat_le.mp digit.2) (by decide)
    · have noSpace : (c == ' ') = false := by
        rw [beq_eq_false_iff_ne]
        rintro rfl
        exact absurd digit.1 (by decide)
      have noControl : decide (c ≤ '\r') = false :=
        decide_eq_false fun small => absurd (UInt32.le_trans digit.1 small) (by decide)
      unfold isAsciiBlank
      rw [noSpace, noControl, Bool.and_false, Bool.false_or]
  rw [parts.same] at member
  rcases List.mem_append.mp member with inWhole | behind
  · exact solidDigit (parts.wholeDigits c inWhole)
  · rcases List.mem_append.mp behind with inFraction | inTail
    · unfold pointed at inFraction
      split at inFraction
      · cases inFraction
      · rcases List.mem_cons.mp inFraction with rfl | digit
        · decide
        · exact solidDigit (parts.fractionDigits c digit)
    · cases parts.isExponent with
      | none => cases inTail
      | @some mark sign power isMark isSign areDigits =>
          rcases List.mem_cons.mp inTail with rfl | inTail
          · rcases isMark with rfl | rfl <;> decide
          · rcases List.mem_append.mp inTail with inSign | digit
            · rcases isSign with rfl | rfl | rfl
              · cases inSign
              · rw [List.mem_singleton.mp inSign]
                decide
              · rw [List.mem_singleton.mp inSign]
                decide
            · exact solidDigit (areDigits c digit)

end Numeral

open Json Numeral

/-- The plain text of a finite number is a numeral of the number. -/
theorem NumberLayout.number?_text (layout : NumberLayout) (negative : Bool) {units : Nat}
    (representable : Binary64.IsRepresentable units) :
    number? (layout.text (.finite negative units)) = some (.finite negative units) := by
  have read := @readNumber_magnitude layout negative units representable []
    fun c rest same => nomatch same
  rw [List.append_nil] at read
  obtain ⟨whole, fraction, tail, exponent, parts, value⟩ := hasParts_of_readNumber read
  have magnitude := magnitude?_of_hasParts parts negative
  rw [← value] at magnitude
  obtain ⟨first, rest, shape⟩ := List.exists_cons_of_ne_nil parts.filled
  have digit : isDigit first = true := parts.wholeDigits first (shape ▸ List.mem_cons_self)
  unfold text
  dsimp only
  have cut : layout.magnitudeText units = first :: (rest ++ (pointed fraction ++ tail)) := by
    rw [parts.same, shape, List.cons_append]
  rw [cut] at magnitude ⊢
  exact number?_of_magnitude digit (fun c member => solid_of_hasParts parts (cut ▸ member))
    magnitude

namespace Decimal

/-- The digits of a whole number stand behind a minus if it is negative. -/
theorem toList_integerText (whole : Int) : (integerText whole).toList =
    (if decide (whole < 0) then ['-'] else []) ++ naturalDigits whole.natAbs := by
  rw [integerText, String.toList_ofList, integerDigits]
  by_cases negative : whole < 0 <;> simp [negative]

/-- The text of a whole number is a numeral of the nearest number. -/
theorem number?_integerText (whole : Int) :
    number? (integerText whole).toList = some (Binary64.ofInt whole) := by
  have areDigits := areDigits_naturalDigits whole.natAbs
  have parts : HasParts (naturalDigits whole.natAbs) (naturalDigits whole.natAbs) [] [] 0 :=
    ⟨(List.append_nil _).symm, naturalDigits_ne_nil _, areDigits, fun c member => (nomatch member),
      .none⟩
  have magnitude := magnitude?_of_hasParts parts (decide (whole < 0))
  rw [List.append_nil, digitsValue_eq, digitsValue_naturalDigits, toBinary64_eq] at magnitude
  have value : Binary64.ofInt whole = Binary64.ofQuotient (decide (whole < 0)) whole.natAbs 1 := rfl
  obtain ⟨first, rest, shape⟩ := List.exists_cons_of_ne_nil (naturalDigits_ne_nil whole.natAbs)
  have digit : isDigit first = true := areDigits first (shape ▸ List.mem_cons_self)
  rw [toList_integerText, value]
  rw [shape] at magnitude ⊢
  refine number?_of_magnitude digit (fun c member => solid_of_hasParts parts (shape ▸ member)) ?_
  rw [magnitude]
  simp

/-- No blanks stand around the text of a whole number. -/
theorem strip_integerText (whole : Int) :
    Text.strip (integerText whole).toList = (integerText whole).toList := by
  have solid {c : Char} (digit : isAsciiDigit c = true) : Text.isBlankChar c = false := by
    have codes : ∀ code < 58, 48 ≤ code → CharRange.covers blankRanges code = false := by decide
    unfold isAsciiDigit at digit
    rw [Bool.and_eq_true, decide_eq_true_eq, decide_eq_true_eq] at digit
    exact codes c.toNat (Nat.lt_succ_of_le (UInt32.le_iff_toNat_le.mp digit.2))
      (UInt32.le_iff_toNat_le.mp digit.1)
  obtain ⟨front, digits⟩ := naturalDigits_last whole.natAbs
  obtain ⟨first, rest, shape⟩ := List.exists_cons_of_ne_nil (naturalDigits_ne_nil whole.natAbs)
  have last : ∃ before, (integerText whole).toList = before ++ [digitChar (whole.natAbs % 10)] := by
    rw [toList_integerText, digits, ← List.append_assoc]
    exact ⟨_, rfl⟩
  have head : ∃ c behind, (integerText whole).toList = c :: behind ∧
      Text.isBlankChar c = false := by
    rw [toList_integerText, shape]
    by_cases negative : whole < 0
    · rw [if_pos (decide_eq_true negative)]
      exact ⟨'-', _, rfl, by decide⟩
    · rw [if_neg (by simpa using negative)]
      have digit : first ∈ naturalDigits whole.natAbs := shape ▸ List.mem_cons_self
      exact ⟨first, _, rfl, solid (isAsciiDigit_of_mem digit)⟩
  obtain ⟨c, behind, shown, blank⟩ := head
  exact Text.strip_eq_self ⟨behind, shown⟩ blank last
    (solid (isAsciiDigit_digitChar (Nat.mod_lt _ (by decide))))

/-- The text of a whole number of at most eighteen digits is an ASCII numeral of the number. -/
theorem numeral?_integerText {whole : Int} (short : whole.natAbs < 10 ^ 18) :
    Argument.numeral? (integerText whole).toList = some whole := by
  have few : (naturalDigits whole.natAbs).length ≤ Argument.longestNumeral :=
    length_naturalDigits_le.mpr short
  have cut : sign (integerText whole).toList =
      (decide (whole < 0), naturalDigits whole.natAbs) := by
    obtain ⟨first, rest, shape⟩ := List.exists_cons_of_ne_nil (naturalDigits_ne_nil whole.natAbs)
    have digit : isDigit first = true :=
      areDigits_naturalDigits whole.natAbs first (shape ▸ List.mem_cons_self)
    rw [toList_integerText, shape]
    exact sign_signed _ digit rest
  have digits : (naturalDigits whole.natAbs).all isAsciiDigit = true :=
    List.all_eq_true.mpr fun _ member => isAsciiDigit_of_mem member
  unfold Argument.numeral?
  rw [cut]
  dsimp only
  rw [if_pos ⟨digits, naturalDigits_ne_nil _, few⟩, digitsValue_naturalDigits]
  unfold Binary64.signedUnits
  by_cases negative : whole < 0
  · rw [if_pos (decide_eq_true negative)]
    congr 1
    omega
  · rw [if_neg (by simpa using negative)]
    congr 1
    omega

end Decimal

end CodeGraph

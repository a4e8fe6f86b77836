import CodeGraph.Json.Reader
import CodeGraph.Json.Writer

/-!
This file says that a text in quotes is read as this text. Each character is written as its code
units, and the code units are put together again.
-/

namespace CodeGraph.Json

theorem hexValue?_hexDigit {value : Nat} (small : value < 16) :
    hexValue? (hexDigit value) = some value := by
  have all : ∀ value : Fin 16, hexValue? (hexDigit value.val) = some value.val := by decide
  exact all ⟨value, small⟩

/-- The escape of a code unit is read as this unit. -/
theorem readUnits_unitEscape {unit : Nat} (small : unit < 0x10000) (rest : List Char) :
    readUnits (unitEscape unit ++ rest) = consUnit unit (readUnits rest) := by
  have digits : unitEscape unit ++ rest = '\\' :: 'u' :: hexDigit (unit / 16 / 16 / 16 % 16) ::
      hexDigit (unit / 16 / 16 % 16) :: hexDigit (unit / 16 % 16) :: hexDigit (unit % 16) ::
        rest := rfl
  have value : codeUnit? (hexDigit (unit / 16 / 16 / 16 % 16)) (hexDigit (unit / 16 / 16 % 16))
      (hexDigit (unit / 16 % 16)) (hexDigit (unit % 16)) = some unit := by
    have below (n : Nat) : n % 16 < 16 := Nat.mod_lt n (by decide)
    simp only [codeUnit?, hexValue?_hexDigit (below _)]
    congr 1
    omega
  rw [digits, readUnits]
  simp only [value]

/-- What is read in front of the units behind. -/
def consUnits (units : List Nat) (reading : Reading (List Nat)) : Reading (List Nat) :=
  reading.map fun read => (units ++ read.1, read.2)

theorem consUnits_single (unit : Nat) (reading : Reading (List Nat)) :
    consUnits [unit] reading = consUnit unit reading := rfl

theorem consUnits_cons (unit : Nat) (units : List Nat) (reading : Reading (List Nat)) :
    consUnits (unit :: units) reading = consUnit unit (consUnits units reading) := by
  cases reading <;> rfl

/-- No character is a surrogate. -/
theorem toNat_valid (c : Char) : c.toNat < 0xD800 ∨ (0xDFFF < c.toNat ∧ c.toNat < 0x110000) :=
  c.valid

theorem codeUnits_small (c : Char) : ∀ unit ∈ codeUnits c, unit < 0x10000 := by
  intro unit member
  have valid := toNat_valid c
  unfold codeUnits at member
  split at member
  · rename_i small
    rw [List.mem_singleton.mp member]
    exact small
  · simp only [List.mem_cons, List.not_mem_nil, or_false] at member
    rcases member with same | same <;> rw [same] <;> omega

theorem readUnits_escapes {units : List Nat} (small : ∀ unit ∈ units, unit < 0x10000)
    (rest : List Char) :
    readUnits (units.flatMap unitEscape ++ rest) = consUnits units (readUnits rest) := by
  induction units with
  | nil => cases reading : readUnits rest <;> simp [consUnits, reading, Except.map]
  | cons unit units inductionHypothesis =>
      rw [List.flatMap_cons, List.append_assoc,
        readUnits_unitEscape (small unit List.mem_cons_self),
        inductionHypothesis fun other member => small other (List.mem_cons_of_mem _ member),
        consUnits_cons]

/-- A printable character that needs no escape is read as itself. -/
theorem readUnits_plain {c : Char} (printable : ' ' ≤ c ∧ c ≤ '~') (quote : c ≠ '"')
    (backslash : c ≠ '\\') (rest : List Char) :
    readUnits (c :: rest) = consUnits (codeUnits c) (readUnits rest) := by
  have units : codeUnits c = [c.toNat] := by
    have bound : c.toNat ≤ '~'.toNat := printable.2
    have value : '~'.toNat = 126 := rfl
    unfold codeUnits
    rw [if_pos (by omega)]
  have plain : (decide (c < ' ') || c == '\\') = false := by
    simpa [backslash] using printable.1
  rw [units, consUnits_single, readUnits.eq_def]
  split
  · rename_i same
    cases same
  · rename_i same
    exact absurd (List.cons.inj same).1 quote
  · rename_i same
    exact absurd (List.cons.inj same).1 backslash
  · rename_i same
    exact absurd (List.cons.inj same).1 backslash
  · rename_i same
    obtain ⟨rfl, rfl⟩ := List.cons.inj same
    rw [plain]
    rfl

/-- The text of a character is read as its code units. -/
theorem readUnits_charText (c : Char) (rest : List Char) :
    readUnits (charText c ++ rest) = consUnits (codeUnits c) (readUnits rest) := by
  by_cases quote : c = '"'
  · subst quote
    rfl
  by_cases backslash : c = '\\'
  · subst backslash
    rfl
  by_cases newline : c = '\n'
  · subst newline
    rfl
  by_cases carriage : c = '\r'
  · subst carriage
    rfl
  by_cases tab : c = '\t'
  · subst tab
    rfl
  by_cases backspace : c = '\x08'
  · subst backspace
    rfl
  by_cases feed : c = '\x0c'
  · subst feed
    rfl
  by_cases printable : ' ' ≤ c ∧ c ≤ '~'
  · have text : charText c = [c] := by
      simp [charText, quote, backslash, newline, carriage, tab, backspace, feed, printable]
    rw [text, List.singleton_append, readUnits_plain printable quote backslash]
  · have text : charText c = (codeUnits c).flatMap unitEscape := by
      simp [charText, quote, backslash, newline, carriage, tab, backspace, feed, printable]
    rw [text, readUnits_escapes (codeUnits_small c)]

/-- The code units of a character are put together again. -/
theorem unitChars?_codeUnits (c : Char) (units : List Nat) :
    unitChars? (codeUnits c ++ units) = (unitChars? units).map (c :: ·) := by
  have valid := toNat_valid c
  unfold codeUnits
  split
  · have high : isHighSurrogate c.toNat = false := by
      unfold isHighSurrogate
      rw [Bool.and_eq_false_iff, decide_eq_false_iff_not, decide_eq_false_iff_not]
      omega
    have low : isLowSurrogate c.toNat = false := by
      unfold isLowSurrogate
      rw [Bool.and_eq_false_iff, decide_eq_false_iff_not, decide_eq_false_iff_not]
      omega
    cases units with
    | nil => simp [unitChars?, high, low]
    | cons unit rest => simp [unitChars?, high, low]
  · rename_i large
    have high : isHighSurrogate (0xD800 + (c.toNat - 0x10000) / 0x400) = true := by
      unfold isHighSurrogate
      rw [Bool.and_eq_true, decide_eq_true_eq, decide_eq_true_eq]
      omega
    have low : isLowSurrogate (0xDC00 + (c.toNat - 0x10000) % 0x400) = true := by
      unfold isLowSurrogate
      rw [Bool.and_eq_true, decide_eq_true_eq, decide_eq_true_eq]
      omega
    have together : pairChar (0xD800 + (c.toNat - 0x10000) / 0x400)
        (0xDC00 + (c.toNat - 0x10000) % 0x400) = c := by
      unfold pairChar
      have code : 0x10000 + (0xD800 + (c.toNat - 0x10000) / 0x400 - 0xD800) * 0x400 +
          (0xDC00 + (c.toNat - 0x10000) % 0x400 - 0xDC00) = c.toNat := by omega
      rw [code, Char.ofNat_toNat]
    simp only [List.cons_append, List.nil_append, unitChars?, high, low, Bool.and_self, if_true,
      together]

/-- A text in quotes is read as this text. -/
theorem readQuoted_text (text rest : List Char) :
    readQuoted (text.flatMap charText ++ '"' :: rest) = .ok (text, rest) := by
  have units : readUnits (text.flatMap charText ++ '"' :: rest) =
      .ok (text.flatMap codeUnits, rest) := by
    induction text with
    | nil => rfl
    | cons c text inductionHypothesis =>
        rw [List.flatMap_cons, List.append_assoc, readUnits_charText, inductionHypothesis]
        rfl
  have chars : unitChars? (text.flatMap codeUnits) = some text := by
    clear units
    induction text with
    | nil => rfl
    | cons c text inductionHypothesis =>
        rw [List.flatMap_cons, unitChars?_codeUnits, inductionHypothesis]
        rfl
  unfold readQuoted
  simp only [units, chars]

end CodeGraph.Json

import CodeGraph.Proofs.OneLine
import CodeGraph.Proofs.Parts
import CodeGraph.Proofs.ReadDocument
import CodeGraph.Proofs.ReadLimits
import CodeGraph.Record.File

/-!
This file says how a file of lines is read. Each delivery stands on a line of its own, blank lines
may stand anywhere, and the first line that holds no record ends the feed.
-/

namespace CodeGraph

namespace Value
open Json

/-- A value that was read once is read back from its line. -/
theorem read_lineText {value : Value} (isRead : value.IsRead nestingLimit) :
    Json.read value.lineText = .ok value := by
  have back := read_textAt Layout.line_isPlain isRead.wellFormed.doubles isRead.writable 0
  rwa [reread_eq_unmarked value isRead.wellFormed.names, isRead.unmarked] at back

/-- The line of an object stands in brackets. -/
theorem lineText_object (fields : List (String × Value)) :
    ∃ inside, (Value.object fields).lineText = '{' :: (inside ++ ['}']) := by
  cases fields with
  | nil => exact ⟨[], rfl⟩
  | cons field rest =>
      refine ⟨fieldsBefore Layout.line 1 [] (field :: rest), ?_⟩
      rw [← fieldsBefore_append]
      rfl

/-- No blanks stand around the line of an object. -/
theorem strip_lineText_object (fields : List (String × Value)) :
    Text.strip (Value.object fields).lineText = (Value.object fields).lineText := by
  obtain ⟨inside, brackets⟩ := lineText_object fields
  exact Text.strip_eq_self ⟨_, brackets⟩ (by decide) ⟨'{' :: inside, brackets⟩ (by decide)

end Value

namespace Text

/-- Nothing is left of blanks. -/
theorem strip_of_isBlank {text : List Char} (blank : isBlank text = true) : strip text = [] := by
  have front : stripFront text = [] :=
    List.dropWhile_eq_nil_iff.mpr (List.all_eq_true.mp blank)
  rw [strip, front]
  rfl

/-- A character that is not blank stays when blanks are dropped in front of it. -/
theorem mem_dropWhile_of_solid {text : List Char} {c : Char} (member : c ∈ text)
    (solid : ¬isBlankChar c = true) : c ∈ text.dropWhile isBlankChar := by
  rw [← List.takeWhile_append_dropWhile (p := isBlankChar) (l := text)] at member
  rcases List.mem_append.mp member with blank | kept
  · exact absurd (List.mem_takeWhile_imp blank) solid
  · exact kept

/-- Something is left of a text that is not blank. -/
theorem strip_ne_nil {text : List Char} (filled : isBlank text = false) : strip text ≠ [] := by
  obtain ⟨c, member, solid⟩ := List.all_eq_false.mp filled
  have front : c ∈ stripFront text := mem_dropWhile_of_solid member solid
  have back := mem_dropWhile_of_solid (List.mem_reverse.mpr front) solid
  exact List.ne_nil_of_mem (List.mem_reverse.mpr back)

end Text

theorem RecordKind.ofWord?_word (kind : RecordKind) : ofWord? kind.word = some kind := by
  cases kind <;> decide

theorem RecordKind.word_of_ofWord? {word : String} {kind : RecordKind}
    (known : ofWord? word = some kind) : kind.word = word := by
  have found : (kind.word == word) = true :=
    List.find?_some (p := fun kind : RecordKind => kind.word == word) known
  exact beq_iff_eq.mp found

/-- A delivery of a known kind, with a record as it is read from a text. -/
structure Delivery.IsRead (delivery : Delivery) : Prop where
  kind : ∃ kind : RecordKind, delivery.kind = .text kind.word
  isRead : delivery.record.IsRead Json.nestingLimit

/-- The delivery of a line: its record is an object with the kind among the fields. -/
structure Delivery.FitsLine (delivery : Delivery) : Prop extends delivery.IsRead where
  record : ∃ fields, delivery.record = .object fields ∧
    Value.lookup "record" fields = some delivery.kind

namespace Feed

/-- No line break stands in the line, in either of its forms. -/
structure IsLine (line : List Char) : Prop where
  newline : '\n' ∉ line
  carriageReturn : '\r' ∉ line

/-- The lines hold the deliveries, each on a line of its own with any blank lines in between. -/
inductive AreLines : List Delivery → List (List Char) → Prop where
  | nil : AreLines [] []
  | blank {deliveries : List Delivery} {lines : List (List Char)} (line : List Char)
      (oneLine : IsLine line) (blank : Text.isBlank line = true)
      (behind : AreLines deliveries lines) : AreLines deliveries (line :: lines)
  | record {deliveries : List Delivery} {lines : List (List Char)} (delivery : Delivery)
      (behind : AreLines deliveries lines) :
      AreLines (delivery :: deliveries) (delivery.record.lineText :: lines)

/-- The fault at which a feed ends when a line of the given number holds no record. A line past the
limits of documents ends it with a defect. -/
inductive BreaksOff (number : Nat) (line : List Char) : Fault → Prop where
  | notJson (read : Json.read (Text.strip line) = .error .malformed) :
      BreaksOff number line (.refused (.lineNotJson number))
  | noKind {value : Value} (read : Json.read (Text.strip line) = .ok value)
      (unknown : ∀ kind : RecordKind, value.field? "record" ≠ some (.text kind.word)) :
      BreaksOff number line (.refused (.lineKind number))
  | tooManyDigits (read : Json.read (Text.strip line) = .error .tooManyDigits) :
      BreaksOff number line (.defect .tooManyDigits)
  | tooDeep (read : Json.read (Text.strip line) = .error .tooDeep) :
      BreaksOff number line (.defect .tooDeep)

/-- The line of a delivery is delivered again. -/
theorem ofLine_lineText {delivery : Delivery} (fits : delivery.FitsLine) (number : Nat) :
    ofLine number (Text.strip delivery.record.lineText) = .ok delivery := by
  obtain ⟨kind, kindKnown⟩ := fits.kind
  obtain ⟨fields, isObject, found⟩ := fits.record
  have read := Value.read_lineText fits.isRead
  have field : delivery.record.field? "record" = some (.text kind.word) := by
    rw [isObject, ← kindKnown]
    exact found
  have stripped : Text.strip delivery.record.lineText = delivery.record.lineText := by
    rw [isObject]
    exact Value.strip_lineText_object fields
  unfold ofLine Json.readDocument
  simp only [stripped, read, field, RecordKind.ofWord?_word]
  rw [← kindKnown]

/-- A line that breaks off holds no delivery. -/
theorem ofLine_breaksOff {number : Nat} {line : List Char} {fault : Fault}
    (breaksOff : BreaksOff number line fault) :
    ofLine number (Text.strip line) = .error fault := by
  cases breaksOff with
  | notJson read | tooManyDigits read | tooDeep read =>
      simp only [ofLine, Json.readDocument, read, crash]
  | @noKind value read unknown =>
      unfold ofLine Json.readDocument
      simp only [read]
      split
      · rename_i word found
        split
        · rename_i kind known
          rw [← RecordKind.word_of_ofWord? known] at found
          exact absurd found (unknown kind)
        · rfl
      · rfl

theorem ofLinesFrom_blank {line : List Char} (blank : Text.isBlank line = true) (number : Nat)
    (rest : List (List Char)) :
    ofLinesFrom number (line :: rest) = ofLinesFrom (number + 1) rest := by
  rw [ofLinesFrom, Text.strip_of_isBlank blank]
  rfl

theorem ofLinesFrom_error {line : List Char} (filled : Text.isBlank line = false) {number : Nat}
    {fault : Fault} (given : ofLine number (Text.strip line) = .error fault)
    (rest : List (List Char)) : ofLinesFrom number (line :: rest) = failing fault := by
  rw [ofLinesFrom]
  simp only [List.isEmpty_iff, Text.strip_ne_nil filled, if_false, given]

theorem ofLinesFrom_ok {line : List Char} (filled : Text.strip line ≠ []) {number : Nat}
    {delivery : Delivery} (given : ofLine number (Text.strip line) = .ok delivery)
    (rest : List (List Char)) :
    ofLinesFrom number (line :: rest) = (ofLinesFrom (number + 1) rest).cons delivery := by
  rw [ofLinesFrom]
  simp only [List.isEmpty_iff, filled, if_false, given]

/-- The deliveries of lines come in front of those of the lines behind. -/
theorem ofLinesFrom_append {deliveries : List Delivery} {lines : List (List Char)}
    (areLines : AreLines deliveries lines) (fit : ∀ delivery ∈ deliveries, delivery.FitsLine)
    (number : Nat) (rest : List (List Char)) :
    ofLinesFrom number (lines ++ rest) =
      append ⟨deliveries, none⟩ (ofLinesFrom (number + lines.length) rest) := by
  induction areLines generalizing number with
  | nil => rfl
  | @blank deliveries lines line oneLine blank behind inductionHypothesis =>
      rw [List.cons_append, ofLinesFrom_blank blank, inductionHypothesis fit, List.length_cons,
        Nat.add_assoc, Nat.add_comm 1]
  | @record deliveries lines delivery behind inductionHypothesis =>
      obtain ⟨first, others⟩ := List.forall_mem_cons.mp fit
      obtain ⟨fields, isObject, -⟩ := first.record
      have filled : Text.strip delivery.record.lineText ≠ [] := by
        obtain ⟨inside, brackets⟩ := Value.lineText_object fields
        rw [isObject, Value.strip_lineText_object, brackets]
        exact List.cons_ne_nil _ _
      rw [List.cons_append, ofLinesFrom_ok filled (ofLine_lineText first number),
        inductionHypothesis others, List.length_cons, Nat.add_assoc, Nat.add_comm 1]
      rfl

theorem ofLines_areLines {deliveries : List Delivery} {lines : List (List Char)}
    (areLines : AreLines deliveries lines) (fit : ∀ delivery ∈ deliveries, delivery.FitsLine) :
    ofLines lines = ⟨deliveries, none⟩ := by
  have read := ofLinesFrom_append areLines fit 1 []
  rw [List.append_nil] at read
  unfold ofLines
  rw [read]
  simp [append, ofLinesFrom, empty]

/-- A line without a record ends the feed behind the deliveries of the lines in front of it, and the
fault bears its number. -/
theorem ofLines_breaksOff {deliveries : List Delivery} {lines : List (List Char)}
    (areLines : AreLines deliveries lines) (fit : ∀ delivery ∈ deliveries, delivery.FitsLine)
    {line : List Char} (filled : Text.isBlank line = false) {fault : Fault}
    (breaksOff : BreaksOff (lines.length + 1) line fault) (rest : List (List Char)) :
    ofLines (lines ++ line :: rest) = ⟨deliveries, some fault⟩ := by
  rw [Nat.add_comm] at breaksOff
  unfold ofLines
  rw [ofLinesFrom_append areLines fit, ofLinesFrom_error filled (ofLine_breaksOff breaksOff)]
  simp [append, failing]

/-- Lines can be cut anywhere, and the deliveries with them. -/
theorem AreLines.split {deliveries : List Delivery} {front back : List (List Char)}
    (areLines : AreLines deliveries (front ++ back)) :
    ∃ earlier later, deliveries = earlier ++ later ∧ AreLines earlier front ∧
      AreLines later back := by
  induction front generalizing deliveries with
  | nil => exact ⟨[], deliveries, rfl, .nil, areLines⟩
  | cons line rest inductionHypothesis =>
      rw [List.cons_append] at areLines
      cases areLines with
      | blank _ oneLine blank behind =>
          obtain ⟨earlier, later, parts, former, latter⟩ := inductionHypothesis behind
          exact ⟨earlier, later, parts, .blank line oneLine blank former, latter⟩
      | record delivery behind =>
          obtain ⟨earlier, later, parts, former, latter⟩ := inductionHypothesis behind
          exact ⟨delivery :: earlier, later, congrArg _ parts, .record delivery former, latter⟩

theorem isLine_lineText (value : Value) : IsLine value.lineText where
  newline := (Value.lineText_isPrintable value).notMem (by decide)
  carriageReturn := (Value.lineText_isPrintable value).notMem (by decide)

theorem AreLines.areLines {deliveries : List Delivery} {lines : List (List Char)}
    (areLines : AreLines deliveries lines) : ∀ line ∈ lines, IsLine line := by
  induction areLines with
  | nil => exact fun _ member => absurd member List.not_mem_nil
  | blank line oneLine _ _ inductionHypothesis =>
      exact List.forall_mem_cons.mpr ⟨oneLine, inductionHypothesis⟩
  | record delivery _ inductionHypothesis =>
      exact List.forall_mem_cons.mpr ⟨isLine_lineText _, inductionHypothesis⟩

/-- Without carriage returns all newlines are the same already. -/
theorem unifyNewlines_eq_self {text : List Char} (clean : '\r' ∉ text) :
    unifyNewlines text = text := by
  induction text with
  | nil => rfl
  | cons c rest inductionHypothesis =>
      obtain ⟨apart, behind⟩ := not_or.mp (mt List.mem_cons.mpr clean)
      unfold unifyNewlines
      split
      · rename_i same
        cases same
      · rename_i same
        exact absurd (List.cons.inj same).1.symm apart
      · rename_i same
        obtain ⟨rfl, rfl⟩ := List.cons.inj same
        rw [if_neg (Ne.symm apart), inductionHypothesis behind]

/-- The bytes of a file with these lines. -/
def linesContent (lines : List (List Char)) : ByteArray := Utf8.encode (Text.join ['\n'] lines)

theorem notMem_join {separator : List Char} {c : Char} (apart : c ∉ separator)
    {parts : List (List Char)} (clean : ∀ part ∈ parts, c ∉ part) :
    c ∉ Text.join separator parts := by
  induction parts with
  | nil => exact List.not_mem_nil
  | cons part rest inductionHypothesis =>
      obtain ⟨first, others⟩ := List.forall_mem_cons.mp clean
      cases rest with
      | nil => exact first
      | cons next more =>
          simp only [Text.join, List.mem_append, not_or]
          exact ⟨⟨first, apart⟩, inductionHypothesis others⟩

/-- A file of lines is read line by line. -/
theorem ofLineBytes_linesContent {lines : List (List Char)}
    (areLines : ∀ line ∈ lines, IsLine line) :
    ofLineBytes (linesContent lines) = ofLines lines := by
  have clean : '\r' ∉ Text.join ['\n'] lines :=
    notMem_join (by decide) fun line member => (areLines line member).carriageReturn
  unfold ofLineBytes linesContent textLines
  rw [Utf8.decode?_encode]
  dsimp only
  rw [unifyNewlines_eq_self clean]
  cases lines with
  | nil => rfl
  | cons line rest =>
      rw [Text.split_join (List.cons_ne_nil _ _) fun line member => (areLines line member).newline]

end Feed

end CodeGraph

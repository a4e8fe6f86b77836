import CodeGraph.Proofs.KeyText

/-!
This file says which texts are keys and what they denote. A text is a key when it has a certain form
once the blanks around it are gone, and every other text is refused.
-/

namespace CodeGraph

/-- A line number is written with one to ten digits, and zeros may stand in front. -/
structure IsLineNumber (digits : List Char) : Prop where
  nonempty : digits ≠ []
  short : digits.length ≤ 10
  areDigits : ∀ c ∈ digits, Numeral.isAsciiDigit c = true

/-- The parts of a key as they are written. -/
structure KeyForm where
  language : List Char
  kind : List Char
  name : List Char
  token : List Char
  first : List Char
  last : List Char

namespace KeyForm

def rangeText (form : KeyForm) : List Char := form.first ++ '-' :: form.last

/-- Colons stand between the parts, and a hyphen between the two line numbers. -/
def text (form : KeyForm) : List Char :=
  form.language ++ ':' :: (form.kind ++ ':' :: (form.name ++ ':' :: (form.token ++
    ':' :: form.rangeText)))

def firstLine (form : KeyForm) : Nat := Numeral.digitsValue form.first

def lastLine (form : KeyForm) : Nat := Numeral.digitsValue form.last

/-- The token of places outside the source tree. -/
def IsReserved (form : KeyForm) : Prop := form.token = FilePath.unknown.toList

/-- The written parts make up a key. Colons may stand in the name alone. -/
structure IsKey (vocabulary : Vocabulary) (form : KeyForm) : Prop where
  languageClean : ':' ∉ form.language
  kindClean : ':' ∉ form.kind
  known : ∃ language kind, Language.normalize (.text (String.ofList form.language)) = .ok language ∧
    vocabulary.normalizeKind (some language) (.text (String.ofList form.kind)) = .ok kind
  nameSolid : ∃ c ∈ form.name, Text.isBlankChar c = false
  nameOneLine : '\n' ∉ form.name
  tokenNonempty : form.token ≠ []
  tokenClean : ':' ∉ form.token
  first : IsLineNumber form.first
  last : IsLineNumber form.last
  ordered : form.firstLine ≤ form.lastLine
  reserved : form.IsReserved → form.firstLine = 0 ∧ form.lastLine = 0

/-- The address has exactly the written parts. -/
structure Denotes (vocabulary : Vocabulary) (form : KeyForm) (address : Address) : Prop where
  language : Language.normalize (.text (String.ofList form.language)) = .ok address.language
  kind : vocabulary.normalizeKind (some address.language) (.text (String.ofList form.kind)) =
    .ok address.kind
  name : address.name = String.ofList form.name
  token : address.location.token = String.ofList form.token
  firstLine : address.location.firstLine = form.firstLine
  lastLine : address.location.lastLine = form.lastLine
  external : address.isExternal = true ↔ form.IsReserved

end KeyForm

namespace Address

theorem lineNumber?_eq_some_iff {digits : List Char} {line : Nat} :
    lineNumber? digits = some line ↔
      IsLineNumber digits ∧ Numeral.digitsValue digits = line := by
  unfold lineNumber?
  constructor
  · intro read
    split at read
    · rename_i written
      obtain ⟨areDigits, nonempty, short⟩ := written
      exact ⟨⟨nonempty, short, List.all_eq_true.mp areDigits⟩, Option.some.inj read⟩
    · cases read
  · rintro ⟨⟨nonempty, short, areDigits⟩, rfl⟩
    rw [if_pos ⟨List.all_eq_true.mpr areDigits, nonempty, short⟩]

theorem minus_notMem_of_isLineNumber {digits : List Char} (written : IsLineNumber digits) :
    '-' ∉ digits := fun member => absurd (written.areDigits _ member) (by decide)

theorem colon_notMem_of_isLineNumber {digits : List Char} (written : IsLineNumber digits) :
    ':' ∉ digits := fun member => absurd (written.areDigits _ member) (by decide)

/-- A line range is read exactly if it consists of two line numbers with a hyphen between them. -/
theorem lineRange?_eq_some_iff {text : List Char} {range : Nat × Nat} :
    lineRange? text = some range ↔ ∃ first last, text = first ++ '-' :: last ∧
      IsLineNumber first ∧ IsLineNumber last ∧
      range = (Numeral.digitsValue first, Numeral.digitsValue last) := by
  constructor
  · intro read
    have joined := Text.join_split '-' text
    unfold lineRange? at read
    split at read
    · rename_i first last parts
      split at read
      · rename_i firstLine lastLine firstRead lastRead
        obtain ⟨firstWritten, rfl⟩ := lineNumber?_eq_some_iff.mp firstRead
        obtain ⟨lastWritten, rfl⟩ := lineNumber?_eq_some_iff.mp lastRead
        refine ⟨first, last, ?_, firstWritten, lastWritten, (Option.some.inj read).symm⟩
        rw [← joined, parts]
        simp [Text.join]
      · cases read
    · cases read
  · rintro ⟨first, last, rfl, firstWritten, lastWritten, rfl⟩
    have firstRead := lineNumber?_eq_some_iff.mpr ⟨firstWritten, rfl⟩
    have lastRead := lineNumber?_eq_some_iff.mpr ⟨lastWritten, rfl⟩
    rw [lineRange?, Text.split_append,
      Text.split_of_notMem (minus_notMem_of_isLineNumber firstWritten),
      Text.split_of_notMem (minus_notMem_of_isLineNumber lastWritten)]
    simp only [List.cons_append, List.nil_append, firstRead, lastRead]

/-- The parts of a text are read exactly if colons stand between them and, but for those of the
name, nowhere else. -/
theorem keyParts?_eq_some {text language kind name token range : List Char}
    (read : keyParts? text = some (language, kind, name, token, range)) :
    text = language ++ ':' :: (kind ++ ':' :: (name ++ ':' :: (token ++ ':' :: range))) ∧
      ':' ∉ language ∧ ':' ∉ kind ∧ ':' ∉ token ∧ ':' ∉ range := by
  have joined := Text.join_split ':' text
  have clean : ∀ part ∈ Text.split ':' text, ':' ∉ part := fun part =>
    Text.notMem_of_mem_split
  unfold keyParts? at read
  split at read
  · rename_i head second rest parts
    split at read
    · rename_i ending before last more reversed
      simp only [Option.some.injEq, Prod.mk.injEq] at read
      obtain ⟨rfl, rfl, rfl, rfl, rfl⟩ := read
      have order : rest = (last :: more).reverse ++ [before, ending] := by
        rw [← List.reverse_reverse rest, reversed]
        simp
      have named : (last :: more).reverse ≠ [] := by simp
      rw [parts] at joined clean
      rw [order] at clean
      refine ⟨?_, clean _ (by simp), clean _ (by simp), clean _ (by simp), clean _ (by simp)⟩
      calc
        text = Text.join [':'] ([head, second] ++ rest) := joined.symm
        _ = Text.join [':'] [head, second] ++ [':'] ++ Text.join [':'] rest :=
          Text.join_append _ (by simp) (by simp [order])
        _ = _ := by
          rw [order, Text.join_append _ named (by simp)]
          simp [Text.join]
    · cases read
  · cases read

/-- A name is accepted exactly if it has a character that is no blank and stays on one line. -/
theorem isEntityName_iff {name : List Char} : isEntityName (String.ofList name) = true ↔
    (∃ c ∈ name, Text.isBlankChar c = false) ∧ '\n' ∉ name := by
  simp [isEntityName, Text.isBlank]

theorem nameValid_of_create {language : Language} {kind : EntityKind} {name : String}
    {location : Location} {address : Address}
    (created : create language kind (.text name) location = .ok address) :
    isEntityName name = true := by
  simp only [create] at created
  split at created
  · rename_i valid
    exact valid
  · cases created

/-- A token and two line numbers have a location if the token has no colon, the lines are in order,
and places outside the source tree have none. -/
theorem exists_location {token : List Char} {first last : Nat} (nonempty : token ≠ [])
    (clean : ':' ∉ token) (ordered : first ≤ last)
    (reserved : token = FilePath.unknown.toList → first = 0 ∧ last = 0) :
    ∃ location : Location, location.token = String.ofList token ∧ location.firstLine = first ∧
      location.lastLine = last ∧
      (location.isExternal = true ↔ token = FilePath.unknown.toList) := by
  by_cases outside : token = FilePath.unknown.toList
  · obtain ⟨rfl, rfl⟩ := reserved outside
    refine ⟨.external, ?_, rfl, rfl, iff_of_true rfl outside⟩
    rw [outside, String.ofList_toList]
    rfl
  · have apart : String.ofList token ≠ FilePath.unknown := fun same =>
      outside (by rw [← same, String.toList_ofList])
    exact ⟨.source ⟨String.ofList token, first, last, by simpa using nonempty, by simpa using clean,
      apart, ordered⟩, rfl, rfl, rfl, iff_of_false Bool.false_ne_true outside⟩

/-- A location that is read has a token, and its lines are in order. -/
theorem parseLocation_ok {text token : String} {range : Nat × Nat} {location : Location}
    (located : parseLocation text token range = .ok location) :
    token ≠ "" ∧ range.1 ≤ range.2 ∧ (token = FilePath.unknown → range = (0, 0)) := by
  unfold parseLocation at located
  split at located
  · rename_i outside
    split at located
    · rename_i empty
      rw [empty, outside]
      exact ⟨by decide, Nat.le_refl 0, fun _ => rfl⟩
    · cases located
  · rename_i inside
    obtain ⟨place, created, -⟩ := Outcome.map_ok located
    unfold SourcePlace.create at created
    split at created
    · cases created
    · rename_i nonempty
      split at created
      · cases created
      · split at created
        · exact absurd created Value.whenShown_error_ne_ok
        · rename_i ordered
          exact ⟨nonempty, by omega, fun outside => absurd outside inside⟩

/-- The whole text is read as the address that its form denotes. -/
theorem parseText_of_form {vocabulary : Vocabulary} {text : String} {form : KeyForm}
    {address : Address} (stripped : Text.strip text.toList = form.text)
    (isKey : form.IsKey vocabulary) (denotes : form.Denotes vocabulary address) :
    parseText vocabulary text = .ok address := by
  have rangeClean : ':' ∉ form.rangeText := by
    unfold KeyForm.rangeText
    rw [List.mem_append, List.mem_cons]
    rintro (first | minus | last)
    · exact colon_notMem_of_isLineNumber isKey.first first
    · exact absurd minus (by decide)
    · exact colon_notMem_of_isLineNumber isKey.last last
  have parts : keyParts? form.text =
      some (form.language, form.kind, form.name, form.token, form.rangeText) :=
    keyParts?_joined _ isKey.languageClean isKey.kindClean isKey.tokenClean rangeClean
  have range : lineRange? form.rangeText =
      some (address.location.firstLine, address.location.lastLine) := by
    rw [denotes.firstLine, denotes.lastLine]
    exact lineRange?_eq_some_iff.mpr ⟨_, _, rfl, isKey.first, isKey.last, rfl⟩
  have writable := isWritable_of_lastLine (lineRange?_lt range).2
  have some : form.text.isEmpty = false := by simp [KeyForm.text]
  rw [parseText, stripped, some, parts]
  simp only [Bool.false_eq_true, if_false, denotes.language, denotes.kind, range, ← denotes.token,
    ← denotes.name, parseLocation_token, create_name writable, bind, Except.bind]

/-- A form that makes up a key denotes an address. -/
theorem exists_denoted {vocabulary : Vocabulary} {form : KeyForm}
    (isKey : form.IsKey vocabulary) : ∃ address, form.Denotes vocabulary address := by
  obtain ⟨language, kind, languageKnown, kindKnown⟩ := isKey.known
  obtain ⟨location, token, firstLine, lastLine, external⟩ := exists_location isKey.tokenNonempty
    isKey.tokenClean isKey.ordered isKey.reserved
  have valid := isEntityName_iff.mpr ⟨isKey.nameSolid, isKey.nameOneLine⟩
  exact ⟨⟨language, kind, String.ofList form.name, location, valid⟩,
    languageKnown, kindKnown, rfl, token, firstLine, lastLine, external⟩

/-- A text that is read has the form of a key once it is stripped. -/
theorem form_of_parseText {vocabulary : Vocabulary} {text : String} {address : Address}
    (parsed : parseText vocabulary text = .ok address) :
    ∃ form : KeyForm, Text.strip text.toList = form.text ∧ form.IsKey vocabulary := by
  unfold parseText at parsed
  dsimp only at parsed
  split at parsed
  · cases parsed
  · split at parsed
    · cases parsed
    · rename_i language kind name token range parts
      obtain ⟨language', languageKnown, parsed⟩ := Outcome.bind_ok parsed
      obtain ⟨kind', kindKnown, parsed⟩ := Outcome.bind_ok parsed
      split at parsed
      · cases parsed
      · rename_i lines read
        obtain ⟨location, located, created⟩ := Outcome.bind_ok parsed
        obtain ⟨joined, languageClean, kindClean, tokenClean, -⟩ := keyParts?_eq_some parts
        obtain ⟨first, last, rfl, firstWritten, lastWritten, rfl⟩ := lineRange?_eq_some_iff.mp read
        obtain ⟨nonempty, ordered, reserved⟩ := parseLocation_ok located
        obtain ⟨nameSolid, nameOneLine⟩ := isEntityName_iff.mp (nameValid_of_create created)
        refine ⟨⟨language, kind, name, token, first, last⟩, joined, languageClean, kindClean,
          ⟨language', kind', languageKnown, kindKnown⟩, nameSolid, nameOneLine,
          by simpa using nonempty, tokenClean, firstWritten, lastWritten, ordered, ?_⟩
        intro outside
        change token = FilePath.unknown.toList at outside
        have none := reserved (by rw [outside, String.ofList_toList])
        exact ⟨congrArg Prod.fst none, congrArg Prod.snd none⟩

theorem normalizeLanguage_onlyRefuses {raw : Value} (shown : raw.CanBeShown) :
    Outcome.OnlyRefuses (Language.normalize raw) := by
  refine Outcome.OnlyRefuses.whenShown shown ?_
  split
  · exact Outcome.ok_onlyRefuses _
  · exact Outcome.refuse_onlyRefuses _

theorem normalizeKind_onlyRefuses (vocabulary : Vocabulary) (language : Option Language)
    {raw : Value} (shown : raw.CanBeShown) :
    Outcome.OnlyRefuses (vocabulary.normalizeKind language raw) := by
  refine Outcome.OnlyRefuses.whenShown shown ?_
  split
  · exact Outcome.ok_onlyRefuses _
  · exact Outcome.refuse_onlyRefuses _

/-- A location is refused, if its lines have at most ten digits. -/
theorem parseLocation_onlyRefuses (text token : String) {range : Nat × Nat}
    (short : range.1 < 10 ^ 10 ∧ range.2 < 10 ^ 10) :
    Outcome.OnlyRefuses (parseLocation text token range) := by
  have writable {line : Nat} (small : line < 10 ^ 10) :
      (Value.int line).IsWritable (Value.shownLimit - 1) :=
    Value.isWritable_int (Decimal.isWritable_of_lt small) _
  have lines : (Value.list [.int range.1, .int range.2]).CanBeShown := by
    refine Value.isWritable_list_iff.mpr ⟨by decide, ?_⟩
    simp [writable short.1, writable short.2]
  unfold parseLocation
  split
  · split
    · exact Outcome.ok_onlyRefuses _
    · exact Outcome.refuse_onlyRefuses _
  · refine Outcome.OnlyRefuses.map ?_ _
    unfold SourcePlace.create
    rw [Value.whenShown_of lines]
    repeat' split
    all_goals first | exact Outcome.refuse_onlyRefuses _ | exact Outcome.ok_onlyRefuses _

/-- A name that is a text can be refused, and with lines that can be written it is never a
defect. -/
theorem create_onlyRefuses (language : Language) (kind : EntityKind) (name : String)
    {location : Location} (writable : location.isWritable = true) :
    Outcome.OnlyRefuses (create language kind (.text name) location) := by
  simp only [create, writable, if_true]
  split
  · exact Outcome.ok_onlyRefuses _
  · exact Outcome.refuse_onlyRefuses _

theorem parseText_onlyRefuses (vocabulary : Vocabulary) (text : String) :
    Outcome.OnlyRefuses (parseText vocabulary text) := by
  unfold parseText
  dsimp only
  split
  · exact Outcome.refuse_onlyRefuses _
  · split
    · exact Outcome.refuse_onlyRefuses _
    · refine (normalizeLanguage_onlyRefuses (Value.canBeShown_text _)).bind fun language _ => ?_
      refine (normalizeKind_onlyRefuses _ _ (Value.canBeShown_text _)).bind fun kind _ => ?_
      split
      · exact Outcome.refuse_onlyRefuses _
      · rename_i range read
        have short := lineRange?_lt read
        refine (parseLocation_onlyRefuses _ _ short).bind fun location located => ?_
        have last := Nat.lt_of_le_of_lt (lastLine_le_of_parseLocation located) short.2
        exact create_onlyRefuses _ _ _ (isWritable_of_lastLine last)

theorem parse_onlyRefuses (vocabulary : Vocabulary) (key : Value) :
    Outcome.OnlyRefuses (parse vocabulary key) := by
  unfold parse
  split
  · exact parseText_onlyRefuses vocabulary _
  · exact Outcome.refuse_onlyRefuses _

/-- A text is read exactly if it has the form of a key once it is stripped, and any other text is
refused. The address that is read has exactly the written parts, and its own key is read as the same
address, whatever words were added in the meantime. -/
theorem parse_iff_isKey (vocabulary reader : Vocabulary) (text : String) :
    ((∃ address, parse vocabulary (.text text) = .ok address) ↔
      ∃ form : KeyForm, Text.strip text.toList = form.text ∧ form.IsKey vocabulary) ∧
    (∀ fault, parse vocabulary (.text text) = .error fault →
      ∃ refusal, fault = .refused refusal) ∧
    ∀ address, parse vocabulary (.text text) = .ok address →
      (∀ form : KeyForm, Text.strip text.toList = form.text → form.IsKey vocabulary →
        form.Denotes vocabulary address) ∧
      parse reader (.text address.text) = .ok address := by
  have reads (form : KeyForm) (stripped : Text.strip text.toList = form.text)
      (isKey : form.IsKey vocabulary) :
      ∃ address, parse vocabulary (.text text) = .ok address ∧
        form.Denotes vocabulary address := by
    obtain ⟨address, denotes⟩ := exists_denoted isKey
    exact ⟨address, parseText_of_form stripped isKey denotes, denotes⟩
  refine ⟨⟨?_, ?_⟩, parseText_onlyRefuses vocabulary text, fun address parsed => ⟨?_, ?_⟩⟩
  · rintro ⟨address, parsed⟩
    exact form_of_parseText parsed
  · rintro ⟨form, stripped, isKey⟩
    obtain ⟨address, parsed, -⟩ := reads form stripped isKey
    exact ⟨address, parsed⟩
  · intro form stripped isKey
    obtain ⟨other, otherParsed, denotes⟩ := reads form stripped isKey
    rw [parsed] at otherParsed
    rw [Except.ok.inj otherParsed]
    exact denotes
  · rw [parse_text, if_pos (lastLine_lt_of_parse parsed)]

/-- A function with colons in its name. -/
def qualifiedFunction : Address where
  language := .rust
  kind := .function
  name := "a::b"
  location := .source {
    token := "src_a.rs"
    firstLine := 7
    lastLine := 12
    tokenNonempty := by decide
    tokenWithoutColon := by decide
    tokenNotUnknown := by decide
    ordered := by decide }
  nameValid := by decide

/-- A key with aliases, capital letters, zeros in front of its lines and blanks around it is read,
and the key of the address that it denotes is read as the same address. -/
theorem parse_iff_isKey_padded :
    parse Vocabulary.initial (.text " RS:Fn:a::b:src_a.rs:007-0012\n") = .ok qualifiedFunction ∧
      parse Vocabulary.initial (.text qualifiedFunction.text) = .ok qualifiedFunction := by
  have parsed : parse Vocabulary.initial (.text " RS:Fn:a::b:src_a.rs:007-0012\n") =
      .ok qualifiedFunction := by decide +kernel
  exact ⟨parsed, ((parse_iff_isKey Vocabulary.initial Vocabulary.initial
    " RS:Fn:a::b:src_a.rs:007-0012\n").2.2 qualifiedFunction parsed).2⟩

end Address

end CodeGraph

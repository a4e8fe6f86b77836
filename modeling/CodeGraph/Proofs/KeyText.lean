import CodeGraph.Address
import CodeGraph.Proofs.Digits
import CodeGraph.Proofs.Outcomes
import CodeGraph.Proofs.Parts
import CodeGraph.Proofs.WriteLimits

/-!
This file ties an address to its key. Different addresses have different keys, and a key is read
back as the address that it was made of if its line numbers have no more than ten digits.
-/

namespace CodeGraph

theorem Language.normalize_name (language : Language) :
    Language.normalize (.text language.name) = .ok language := by
  cases language <;> rfl

theorem Language.colon_notMem_name (language : Language) : ':' ∉ language.name.toList := by
  cases language <;> decide

theorem Language.name_solid (language : Language) :
    ∃ first rest, language.name.toList = first :: rest ∧ Text.isBlankChar first = false := by
  cases language <;> exact ⟨_, _, rfl, by decide⟩

theorem Language.name_injective {first second : Language} (same : first.name = second.name) :
    first = second := by
  have read := Language.normalize_name first
  rw [same, Language.normalize_name] at read
  exact (Except.ok.inj read).symm

/-- The name of a kind denotes the kind in every vocabulary. -/
theorem Vocabulary.normalizeKind_name (vocabulary : Vocabulary) (language : Option Language)
    (kind : EntityKind) : vocabulary.normalizeKind language (.text kind.name) = .ok kind := by
  have named : EntityKind.ofName? (foldedWord (Value.text kind.name).shown) = some kind := by
    cases kind <;> rfl
  rw [normalizeKind, Value.whenShown_text, kindOfWord?, named]

theorem EntityKind.colon_notMem_name (kind : EntityKind) : ':' ∉ kind.name.toList := by
  cases kind <;> decide

theorem EntityKind.name_injective {first second : EntityKind} (same : first.name = second.name) :
    first = second := by
  have read := Vocabulary.initial.normalizeKind_name none first
  rw [same, Vocabulary.normalizeKind_name] at read
  exact (Except.ok.inj read).symm

namespace Location

theorem colon_notMem_token (location : Location) : ':' ∉ location.token.toList := by
  cases location with
  | source place => exact place.tokenWithoutColon
  | external => decide

theorem toList_rangeText (location : Location) :
    location.rangeText.toList = Decimal.naturalDigits location.firstLine ++
      '-' :: Decimal.naturalDigits location.lastLine := by
  simp [rangeText, Decimal.naturalText]

theorem colon_notMem_rangeText (location : Location) : ':' ∉ location.rangeText.toList := by
  rw [toList_rangeText, List.mem_append, List.mem_cons]
  rintro (first | minus | last)
  · exact Decimal.colon_notMem_naturalDigits _ first
  · exact absurd minus (by decide)
  · exact Decimal.colon_notMem_naturalDigits _ last

/-- The line range falls into its two numbers at the hyphen. -/
theorem split_rangeText (location : Location) :
    Text.split '-' location.rangeText.toList =
      [Decimal.naturalDigits location.firstLine, Decimal.naturalDigits location.lastLine] := by
  rw [toList_rangeText, Text.split_append,
    Text.split_of_notMem (Decimal.minus_notMem_naturalDigits _),
    Text.split_of_notMem (Decimal.minus_notMem_naturalDigits _)]
  rfl

/-- The token and the line range determine the location. -/
theorem eq_of_parts {first second : Location} (token : first.token = second.token)
    (range : first.rangeText = second.rangeText) : first = second := by
  have numbers := split_rangeText first
  rw [range, split_rangeText] at numbers
  obtain ⟨firstDigits, rest⟩ := List.cons.inj numbers
  have firstLine := Decimal.naturalDigits_injective firstDigits
  have lastLine := Decimal.naturalDigits_injective (List.cons.inj rest).1
  cases first with
  | source place =>
      cases second with
      | source other =>
          obtain ⟨left, leftFirst, leftLast, _, _, _, _⟩ := place
          obtain ⟨right, rightFirst, rightLast, _, _, _, _⟩ := other
          simp only [Location.token, Location.firstLine, Location.lastLine] at *
          subst token firstLine lastLine
          rfl
      | external => exact absurd token place.tokenNotUnknown
  | external =>
      cases second with
      | source other => exact absurd token.symm other.tokenNotUnknown
      | external => rfl

end Location

/-- A place that is made has the given token and the given lines. -/
theorem SourcePlace.create_ok {token : String} {first last : Int} {place : SourcePlace}
    (created : create token first last = .ok place) :
    place.token = token ∧ (place.firstLine : Int) = first ∧ (place.lastLine : Int) = last := by
  unfold create at created
  split at created
  · cases created
  · split at created
    · cases created
    · split at created
      · cases created
      · split at created
        · exact absurd created Value.whenShown_error_ne_ok
        · rename_i inside
          cases created
          exact ⟨rfl, Int.toNat_of_nonneg (by omega), Int.toNat_of_nonneg (by omega)⟩

namespace Address

/-- The key with its colons. -/
theorem toList_text_eq (address : Address) :
    address.text.toList = address.language.name.toList ++ ':' :: (address.kind.name.toList ++
      ':' :: (address.name.toList ++ ':' :: (address.location.token.toList ++
        ':' :: address.location.rangeText.toList))) := by
  simp [toList_text, parts, Text.join]

/-- Parts joined by colons are found again, whatever colons the name holds. -/
theorem keyParts?_joined {language kind token range : List Char} (name : List Char)
    (languageClean : ':' ∉ language) (kindClean : ':' ∉ kind) (tokenClean : ':' ∉ token)
    (rangeClean : ':' ∉ range) :
    keyParts? (language ++ ':' :: (kind ++ ':' :: (name ++ ':' :: (token ++ ':' :: range)))) =
      some (language, kind, name, token, range) := by
  rw [keyParts?, Text.split_append, Text.split_append, Text.split_append, Text.split_append,
    Text.split_of_notMem languageClean, Text.split_of_notMem kindClean,
    Text.split_of_notMem tokenClean, Text.split_of_notMem rangeClean]
  have joined := Text.join_split ':' name
  cases reversed : (Text.split ':' name).reverse with
  | nil =>
      rw [List.reverse_eq_nil_iff] at reversed
      exact absurd reversed (Text.split_ne_nil _ _)
  | cons last front =>
      rw [← List.reverse_reverse (Text.split ':' name), reversed] at joined
      rw [List.reverse_cons] at joined
      simp [reversed, joined]

/-- The parts of a key are found again. -/
theorem keyParts?_text (address : Address) :
    keyParts? address.text.toList = some (address.language.name.toList, address.kind.name.toList,
      address.name.toList, address.location.token.toList, address.location.rangeText.toList) := by
  rw [toList_text_eq]
  exact keyParts?_joined _ address.language.colon_notMem_name address.kind.colon_notMem_name
    address.location.colon_notMem_token address.location.colon_notMem_rangeText

/-- A key is the key of one address alone. -/
theorem text_injective {first second : Address} (same : first.text = second.text) :
    first = second := by
  have parts := keyParts?_text first
  rw [same, keyParts?_text] at parts
  simp only [Option.some.injEq, Prod.mk.injEq] at parts
  obtain ⟨language, kind, name, token, range⟩ := parts
  obtain ⟨firstLanguage, firstKind, firstName, firstLocation, _⟩ := first
  obtain ⟨secondLanguage, secondKind, secondName, secondLocation, _⟩ := second
  have sameLanguage := Language.name_injective (String.toList_inj.mp language)
  have sameKind := EntityKind.name_injective (String.toList_inj.mp kind)
  have sameName := String.toList_inj.mp name
  have sameLocation := Location.eq_of_parts (String.toList_inj.mp token)
    (String.toList_inj.mp range)
  simp only at sameLanguage sameKind sameName sameLocation
  subst sameLanguage sameKind sameName sameLocation
  rfl

theorem text_eq_iff {first second : Address} : first.text = second.text ↔ first = second :=
  ⟨text_injective, congrArg text⟩

/-- No blanks stand around a key. -/
theorem strip_text (address : Address) : Text.strip address.text.toList = address.text.toList := by
  obtain ⟨first, rest, name, solid⟩ := address.language.name_solid
  obtain ⟨front, digits⟩ := Decimal.naturalDigits_last address.location.lastLine
  have lastSolid : ∀ value < 10, Text.isBlankChar (Decimal.digitChar value) = false := by decide
  have head : ∃ behind, address.text.toList = first :: behind :=
    ⟨_, by rw [toList_text_eq, name, List.cons_append]⟩
  have tail : ∃ before, address.text.toList =
      before ++ [Decimal.digitChar (address.location.lastLine % 10)] := by
    rw [toList_text_eq, Location.toList_rangeText, digits]
    simp only [← List.append_assoc, ← List.cons_append]
    exact ⟨_, rfl⟩
  exact Text.strip_eq_self head solid tail (lastSolid _ (Nat.mod_lt _ (by omega)))

/-- Both line numbers of a key are read back if they have no more than ten digits. -/
theorem lineRange?_rangeText (location : Location) :
    lineRange? location.rangeText.toList =
      if location.firstLine < 10 ^ 10 ∧ location.lastLine < 10 ^ 10 then
        some (location.firstLine, location.lastLine)
      else none := by
  have line (n : Nat) : lineNumber? (Decimal.naturalDigits n) =
      if n < 10 ^ 10 then some n else none := by
    have digits : (Decimal.naturalDigits n).all Numeral.isAsciiDigit = true :=
      List.all_eq_true.mpr fun _ member => Decimal.isAsciiDigit_of_mem member
    have bound : (Decimal.naturalDigits n).length ≤ 10 ↔ n < 10 ^ 10 :=
      Decimal.length_naturalDigits_le
    simp only [lineNumber?, digits, Decimal.naturalDigits_ne_nil, ne_eq, not_false_eq_true,
      true_and, bound, Decimal.digitsValue_naturalDigits]
  rw [lineRange?, Location.split_rangeText]
  simp only [line]
  by_cases both : location.firstLine < 10 ^ 10 ∧ location.lastLine < 10 ^ 10
  · rw [if_pos both, if_pos both.1, if_pos both.2]
  · rw [if_neg both]
    by_cases first : location.firstLine < 10 ^ 10
    · have last : ¬location.lastLine < 10 ^ 10 := fun small => both ⟨first, small⟩
      rw [if_pos first, if_neg last]
    · rw [if_neg first]

/-- Line numbers that are read have at most ten digits. -/
theorem lineRange?_lt {text : List Char} {range : Nat × Nat}
    (read : lineRange? text = some range) : range.1 < 10 ^ 10 ∧ range.2 < 10 ^ 10 := by
  have line {digits : List Char} {n : Nat} (read : lineNumber? digits = some n) : n < 10 ^ 10 := by
    unfold lineNumber? at read
    split at read
    · rename_i short
      obtain ⟨areDigits, -, length⟩ := short
      cases read
      exact Nat.lt_of_lt_of_le (Decimal.digitsValue_lt areDigits)
        (Nat.pow_le_pow_right (by decide) length)
    · cases read
  unfold lineRange? at read
  split at read
  · split at read
    · rename_i first last
      cases read
      exact ⟨line first, line last⟩
    · cases read
  · cases read

/-- The token and the numbers of a location denote the location. -/
theorem parseLocation_token (text : String) (location : Location) :
    parseLocation text location.token (location.firstLine, location.lastLine) = .ok location := by
  cases location with
  | external => rfl
  | source place =>
      have ordered := place.ordered
      have inside : ¬((place.firstLine : Int) < 0 ∨ (place.lastLine : Int) < place.firstLine) := by
        omega
      have created : SourcePlace.create place.token place.firstLine place.lastLine = .ok place := by
        rw [SourcePlace.create, dif_neg place.tokenNonempty, dif_neg place.tokenWithoutColon,
          dif_neg place.tokenNotUnknown, dif_neg inside]
        rfl
      simp only [Location.token, Location.firstLine, Location.lastLine, parseLocation,
        place.tokenNotUnknown, if_false, created]
      rfl

/-- A location that is read ends at the given line at the latest. -/
theorem lastLine_le_of_parseLocation {text token : String} {range : Nat × Nat}
    {location : Location} (located : parseLocation text token range = .ok location) :
    location.lastLine ≤ range.2 := by
  unfold parseLocation at located
  split at located
  · split at located
    · cases located
      exact Nat.zero_le _
    · cases located
  · obtain ⟨place, created, rfl⟩ := Outcome.map_ok located
    exact Nat.le_of_eq (Int.ofNat.inj (SourcePlace.create_ok created).2.2)

theorem create_name {address : Address} (writable : address.location.isWritable = true) :
    create address.language address.kind (.text address.name) address.location = .ok address := by
  simp only [create, address.nameValid, writable, dite_true, if_true]

theorem firstLine_le_lastLine (location : Location) : location.firstLine ≤ location.lastLine := by
  cases location with
  | source place => exact place.ordered
  | external => exact Nat.le_refl 0

/-- Line numbers of at most ten digits can be written. -/
theorem isWritable_of_lastLine {location : Location} (small : location.lastLine < 10 ^ 10) :
    location.isWritable = true := by
  have last : Decimal.isWritable location.lastLine = true := Decimal.isWritable_of_lt small
  have first := Decimal.isWritable_of_le (firstLine_le_lastLine location) last
  rw [Location.isWritable, first, last]
  rfl

/-- A key denotes its address, unless a line number has more than ten digits. -/
theorem parse_text (vocabulary : Vocabulary) (address : Address) :
    parse vocabulary (.text address.text) =
      if address.location.lastLine < 10 ^ 10 then .ok address
      else refuse (.malformedKeyRange address.text) := by
  have ordered := firstLine_le_lastLine address.location
  have range : (address.location.firstLine < 10 ^ 10 ∧ address.location.lastLine < 10 ^ 10) ↔
      address.location.lastLine < 10 ^ 10 :=
    ⟨And.right, fun last => ⟨Nat.lt_of_le_of_lt ordered last, last⟩⟩
  have some : address.text.toList.isEmpty = false := by simp [toList_text_eq]
  rw [parse, parseText, strip_text, some, keyParts?_text]
  simp only [Bool.false_eq_true, if_false, String.ofList_toList, Language.normalize_name,
    Vocabulary.normalizeKind_name, lineRange?_rangeText, range, bind, Except.bind]
  by_cases small : address.location.lastLine < 10 ^ 10
  · simp only [small, if_true, parseLocation_token, create_name (isWritable_of_lastLine small)]
  · simp only [small, if_false]

theorem location_of_create {language : Language} {kind : EntityKind} {name : Value}
    {location : Location} {address : Address}
    (created : create language kind name location = .ok address) :
    address.location = location := by
  unfold create at created
  split at created
  · split at created
    · split at created
      · cases created
        rfl
      · cases created
    · cases created
  · split at created <;> cases created

/-- The last line of a key that is read has at most ten digits. -/
theorem lastLine_lt_of_parse {vocabulary : Vocabulary} {key : Value} {address : Address}
    (parsed : parse vocabulary key = .ok address) : address.location.lastLine < 10 ^ 10 := by
  cases key with
  | text text =>
      rw [parse, parseText] at parsed
      split at parsed
      · cases parsed
      · split at parsed
        · cases parsed
        · obtain ⟨language, -, parsed⟩ := Outcome.bind_ok parsed
          obtain ⟨kind, -, parsed⟩ := Outcome.bind_ok parsed
          split at parsed
          · cases parsed
          · rename_i range ranged
            obtain ⟨location, located, parsed⟩ := Outcome.bind_ok parsed
            rw [location_of_create parsed]
            exact Nat.lt_of_le_of_lt (lastLine_le_of_parseLocation located)
              (lineRange?_lt ranged).2
  | _ => cases parsed

end Address

end CodeGraph

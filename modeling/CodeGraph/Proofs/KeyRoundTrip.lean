import CodeGraph.Proofs.KeyText

/-!
This file follows a key from the address for which it was made to the address that it denotes. They
are the same unless the last line of a place in the source tree has more than ten digits.
-/

namespace CodeGraph

namespace Address

section Made

variable {vocabulary : Vocabulary} {language kind name filePath first last : Value}
  {address : Address}

/-- An address in the source tree is created at the place that is made of the token of its path and
of its lines. -/
theorem create_of_forSource
    (made : forSource vocabulary language kind name filePath first last = .ok address) :
    ∃ path firstLine lastLine place, FilePath.normalize filePath = .ok path ∧
      first.toInteger = .ok firstLine ∧ last.toInteger = .ok lastLine ∧
      SourcePlace.create (FilePath.token path) firstLine lastLine = .ok place ∧
      ∃ language kind, create language kind name (.source place) = .ok address := by
  obtain ⟨language, -, made⟩ := Outcome.bind_ok made
  obtain ⟨path, normal, made⟩ := Outcome.bind_ok made
  obtain ⟨firstLine, starts, made⟩ := Outcome.bind_ok made
  obtain ⟨lastLine, ends, made⟩ := Outcome.bind_ok made
  obtain ⟨place, placed, made⟩ := Outcome.bind_ok made
  obtain ⟨kind, -, made⟩ := Outcome.bind_ok made
  exact ⟨path, firstLine, lastLine, place, normal, starts, ends, placed, language, kind, made⟩

theorem create_of_forExternal
    (made : forExternal vocabulary language kind name = .ok address) :
    ∃ language kind, create language kind name .external = .ok address := by
  obtain ⟨language, -, made⟩ := Outcome.bind_ok made
  obtain ⟨kind, -, made⟩ := Outcome.bind_ok made
  exact ⟨language, kind, made⟩

theorem location_of_forSource
    (made : forSource vocabulary language kind name filePath first last = .ok address) :
    ∃ path place, FilePath.normalize filePath = .ok path ∧
      place.token = FilePath.token path ∧ address.location = .source place := by
  obtain ⟨path, _, _, place, normal, -, -, placed, _, _, created⟩ := create_of_forSource made
  exact ⟨path, place, normal, (SourcePlace.create_ok placed).1, location_of_create created⟩

theorem location_of_forExternal
    (made : forExternal vocabulary language kind name = .ok address) :
    address.location = .external := by
  obtain ⟨_, _, created⟩ := create_of_forExternal made
  exact location_of_create created

/-- An address in the source tree has the lines that were given for it. -/
theorem lines_of_forSource
    (made : forSource vocabulary language kind name filePath first last = .ok address) :
    first.toInteger = .ok (address.location.firstLine : Int) ∧
      last.toInteger = .ok (address.location.lastLine : Int) := by
  obtain ⟨_, _, _, _, -, starts, ends, placed, _, _, created⟩ := create_of_forSource made
  obtain ⟨-, first, last⟩ := SourcePlace.create_ok placed
  rw [location_of_create created, starts, ends, ← first, ← last]
  exact ⟨rfl, rfl⟩

end Made

/-- The key of every address that was read from a key, and of every external one, denotes this
address, whatever words were added in the meantime. The key of a place in the source tree does so
exactly if its last line has at most ten digits, and is refused otherwise. -/
theorem parse_text_made (vocabulary reader : Vocabulary) :
    (∀ key address, parse vocabulary key = .ok address →
      parse reader (.text address.text) = .ok address) ∧
    (∀ language kind name address, forExternal vocabulary language kind name = .ok address →
      parse reader (.text address.text) = .ok address) ∧
    (∀ language kind name filePath first last address,
      forSource vocabulary language kind name filePath first last = .ok address →
      ∃ line : Nat, last.toInteger = .ok (line : Int) ∧
        (line < 10 ^ 10 → parse reader (.text address.text) = .ok address) ∧
        (10 ^ 10 ≤ line →
          parse reader (.text address.text) = refuse (.malformedKeyRange address.text))) := by
  refine ⟨fun key address parsed => ?_, fun language kind name address made => ?_,
    fun language kind name filePath first last address made => ?_⟩
  · rw [parse_text, if_pos (lastLine_lt_of_parse parsed)]
  · have short : address.location.lastLine < 10 ^ 10 := by
      rw [location_of_forExternal made]
      exact Nat.pow_pos (by decide)
    rw [parse_text, if_pos short]
  · refine ⟨address.location.lastLine, (lines_of_forSource made).2, fun short => ?_, fun long => ?_⟩
    · rw [parse_text, if_pos short]
    · rw [parse_text, if_neg (Nat.not_lt.mpr long)]

/-- A function that ends at a line with eleven digits. -/
def farFunction : Address where
  language := .rust
  kind := .function
  name := "f"
  location := .source {
    token := "a.rs"
    firstLine := 1
    lastLine := 10 ^ 10
    tokenNonempty := by decide
    tokenWithoutColon := by decide
    tokenNotUnknown := by decide
    ordered := by decide }
  nameValid := by decide

/-- The key of a function that ends at a line with eleven digits is refused. -/
theorem parse_text_farFunction :
    forSource Vocabulary.initial (.text "rust") (.text "fn") (.text "f") (.text "a.rs") (.int 1)
        (.int 10000000000) = .ok farFunction ∧
      parse Vocabulary.initial (.text farFunction.text) =
        refuse (.malformedKeyRange farFunction.text) := by
  have made : forSource Vocabulary.initial (.text "rust") (.text "fn") (.text "f") (.text "a.rs")
      (.int 1) (.int 10000000000) = .ok farFunction := by decide +kernel
  obtain ⟨line, counted, -, refused⟩ := (parse_text_made Vocabulary.initial
    Vocabulary.initial).2.2 _ _ _ _ _ _ _ made
  have long : line = 10 ^ 10 := Int.ofNat.inj (Except.ok.inj counted).symm
  exact ⟨made, refused (Nat.le_of_eq long.symm)⟩

end Address

end CodeGraph

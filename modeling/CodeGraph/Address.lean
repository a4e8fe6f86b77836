import CodeGraph.Coercion
import CodeGraph.FilePath
import CodeGraph.Vocabulary.EntityKind

/-!
This file holds the addresses of entities and their text, the key. A key joins the language, the
kind, the name, the path token and the line range by colons, and only the name may hold a colon.
-/

namespace CodeGraph

/-- A place in the source tree. Its token holds no separator of a key. -/
structure SourcePlace where
  token : String
  firstLine : Nat
  lastLine : Nat
  tokenNonempty : token ≠ ""
  tokenWithoutColon : ':' ∉ token.toList
  tokenNotUnknown : token ≠ FilePath.unknown
  ordered : firstLine ≤ lastLine
  deriving DecidableEq, Repr

namespace SourcePlace

/-- The checks are made in this order. -/
def create (token : String) (first last : Int) : Outcome SourcePlace :=
  if nonempty : token = "" then refuse (.pathToken token)
  else if colon : ':' ∈ token.toList then refuse (.pathToken token)
  else if reserved : token = FilePath.unknown then refuse .reservedToken
  else if outside : first < 0 ∨ last < first then
    (Value.list [.int first, .int last]).whenShown (refuse (.lineSpan first last))
  else .ok {
    token := token
    firstLine := first.toNat
    lastLine := last.toNat
    tokenNonempty := nonempty
    tokenWithoutColon := colon
    tokenNotUnknown := reserved
    ordered := by omega }

end SourcePlace

/-- An external place stands for a reference that does not lead into the source tree. -/
inductive Location where
  | source (place : SourcePlace)
  | external
  deriving DecidableEq, Repr

namespace Location

def token : Location → String
  | .source place => place.token
  | .external => FilePath.unknown

def firstLine : Location → Nat
  | .source place => place.firstLine
  | .external => 0

def lastLine : Location → Nat
  | .source place => place.lastLine
  | .external => 0

def isExternal : Location → Bool
  | .source _ => false
  | .external => true

/-- Both line numbers can be written in a key. -/
def isWritable (location : Location) : Bool :=
  Decimal.isWritable location.firstLine && Decimal.isWritable location.lastLine

/-- The numbers of the first and the last line, joined by a hyphen. -/
def rangeText (location : Location) : String :=
  Decimal.naturalText location.firstLine ++ "-" ++ Decimal.naturalText location.lastLine

end Location

/-- A name has a character that is not blank, and it stays on one line. -/
def isEntityName (name : String) : Bool :=
  !Text.isBlank name.toList && !name.toList.contains '\n'

/-- The address of one entity. -/
structure Address where
  language : Language
  kind : EntityKind
  name : String
  location : Location
  nameValid : isEntityName name = true
  deriving DecidableEq, Repr

namespace Address

/-- The parts of a key. -/
def parts (address : Address) : List String := [
  address.language.name,
  address.kind.name,
  address.name,
  address.location.token,
  address.location.rangeText]

/-- The key of an address. -/
def text (address : Address) : String := ":".intercalate address.parts

theorem toList_text (address : Address) :
    address.text.toList = Text.join [':'] (address.parts.map String.toList) := by
  simp [text, parts, Text.join]

def isExternal (address : Address) : Bool := address.location.isExternal

/-- Addresses stand in the order of their keys. -/
def precedes (first second : Address) : Bool := decide (first.text < second.text)

/-- A value other than a text is no name: an empty one is refused, and any other one lacks the
operations of a text. The key is written at once, so its line numbers must have a text. -/
def create (language : Language) (kind : EntityKind) (name : Value) (location : Location) :
    Outcome Address :=
  match name with
  | .text name =>
      if nameValid : isEntityName name = true then
        if location.isWritable then .ok ⟨language, kind, name, location, nameValid⟩
        else crash .tooManyDigits
      else refuse (.entityName (Value.text name).quoted)
  | other =>
      if other.isTruthy then crash (.noAttribute other.typeName "strip")
      else refuse (.entityName other.quoted)

/-- The address of an entity in the source tree. -/
def forSource (vocabulary : Vocabulary) (language kind name filePath first last : Value) :
    Outcome Address := do
  let language ← Language.normalize language
  let path ← FilePath.normalize filePath
  let first ← first.toInteger
  let last ← last.toInteger
  let place ← SourcePlace.create (FilePath.token path) first last
  let kind ← vocabulary.normalizeKind (some language) kind
  create language kind name (.source place)

/-- The address of a reference that leads outside. -/
def forExternal (vocabulary : Vocabulary) (language kind name : Value) : Outcome Address := do
  let language ← Language.normalize language
  let kind ← vocabulary.normalizeKind (some language) kind
  create language kind name .external

/-- A line number in a key has between one and ten digits. -/
def lineNumber? (digits : List Char) : Option Nat :=
  if digits.all Numeral.isAsciiDigit ∧ digits ≠ [] ∧ digits.length ≤ 10 then
    some (Numeral.digitsValue digits)
  else none

/-- The line range at the end of a key. -/
def lineRange? (text : List Char) : Option (Nat × Nat) :=
  match Text.split '-' text with
  | [first, last] =>
      match lineNumber? first, lineNumber? last with
      | some first, some last => some (first, last)
      | _, _ => none
  | _ => none

/-- The language and the kind, the name with its colons, the path token and the line range. -/
def keyParts? (text : List Char) :
    Option (List Char × List Char × List Char × List Char × List Char) :=
  match Text.split ':' text with
  | language :: kind :: rest =>
      match rest.reverse with
      | range :: token :: name :: more =>
          some (language, kind, Text.join [':'] (name :: more).reverse, token, range)
      | _ => none
  | _ => none

/-- The place that a path token and a line range denote. -/
def parseLocation (text token : String) (range : Nat × Nat) : Outcome Location :=
  if token = FilePath.unknown then
    if range = (0, 0) then .ok .external else refuse (.externalKeyRange text)
  else (SourcePlace.create token range.1 range.2).map .source

/-- The address that a key denotes. Languages and kinds may be given by any of their names. -/
def parseText (vocabulary : Vocabulary) (text : String) : Outcome Address :=
  let stripped := Text.strip text.toList
  if stripped.isEmpty then refuse .keyNotText
  else
    match keyParts? stripped with
    | none => refuse (.malformedKey text)
    | some (language, kind, name, token, range) => do
        let language ← Language.normalize (.text (String.ofList language))
        let kind ← vocabulary.normalizeKind (some language) (.text (String.ofList kind))
        match lineRange? range with
        | none => refuse (.malformedKeyRange text)
        | some range =>
            let location ← parseLocation text (String.ofList token) range
            create language kind (.text (String.ofList name)) location

/-- The address that a value denotes; only a text can be a key. -/
def parse (vocabulary : Vocabulary) (key : Value) : Outcome Address :=
  match key with
  | .text text => parseText vocabulary text
  | _ => refuse .keyNotText

end Address

end CodeGraph

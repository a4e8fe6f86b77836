import CodeGraph.Vocabulary.Language

/-!
This file holds the kinds of entities and the words with which the languages name them. Words can
be added for one language while the program runs.
-/

namespace CodeGraph

inductive EntityKind where
  | function
  | method
  | struct
  | classType
  | enum
  | trait
  | interface
  | impl
  | module
  | constant
  | variable
  | typeAlias
  | macroDefinition
  deriving DecidableEq, Inhabited, Repr

namespace EntityKind

def all : List EntityKind := [
  .function, .method, .struct, .classType, .enum, .trait, .interface, .impl, .module, .constant,
  .variable, .typeAlias, .macroDefinition]

/-- The name of a kind in a key. -/
def name : EntityKind → String
  | .function => "function"
  | .method => "method"
  | .struct => "struct"
  | .classType => "class"
  | .enum => "enum"
  | .trait => "trait"
  | .interface => "interface"
  | .impl => "impl"
  | .module => "module"
  | .constant => "constant"
  | .variable => "variable"
  | .typeAlias => "type_alias"
  | .macroDefinition => "macro"

def ofName? (word : String) : Option EntityKind := all.find? fun kind => kind.name == word

/-- The words that most languages share. -/
def commonWords : List (String × EntityKind) := [
  ("fn", .function), ("func", .function), ("def", .function), ("method", .method),
  ("struct", .struct), ("class", .classType), ("enum", .enum), ("trait", .trait),
  ("interface", .interface), ("impl", .impl), ("mod", .module), ("package", .module),
  ("namespace", .module), ("const", .constant), ("static", .constant), ("var", .variable),
  ("let", .variable), ("type", .typeAlias), ("typedef", .typeAlias), ("macro", .macroDefinition)]

/-- The words of one language alone. -/
def languageWords : Language → List (String × EntityKind)
  | .rust => [("macro_rules", .macroDefinition), ("type", .typeAlias)]
  | .python => [("async_def", .function)]
  | .go => [("type_spec", .struct)]
  | .swift => [("protocol", .interface), ("extension", .impl)]
  | .kotlin => [("object", .classType), ("fun", .function)]
  | .scala => [("object", .classType), ("trait", .trait)]
  | .ruby => [("module", .module)]
  | .cpp => [("using", .typeAlias)]
  | .csharp => [("record", .classType), ("delegate", .typeAlias)]
  | .php => [("function", .function)]
  | _ => []

end EntityKind

/-- A word that was added for a language. -/
structure AddedWord where
  language : Language
  word : String
  kind : EntityKind
  deriving DecidableEq, Repr

/-- The words in use; of the added ones the latest comes first. -/
structure Vocabulary where
  added : List AddedWord
  deriving DecidableEq, Inhabited, Repr

namespace Vocabulary

/-- The vocabulary without added words. -/
def initial : Vocabulary := ⟨[]⟩

/-- The word is folded before it is kept. -/
def register (vocabulary : Vocabulary) (language : Language) (word : String)
    (kind : EntityKind) : Vocabulary :=
  ⟨⟨language, foldedWord word, kind⟩ :: vocabulary.added⟩

/-- The kind that was last added under a folded word for a language. -/
def addedKind? (vocabulary : Vocabulary) (language : Language) (word : String) :
    Option EntityKind :=
  (vocabulary.added.find? fun entry => entry.language == language && entry.word == word).map
    AddedWord.kind

/-- The kind that a folded word has in one language alone. -/
def languageKind? (vocabulary : Vocabulary) (language : Language) (word : String) :
    Option EntityKind :=
  match vocabulary.addedKind? language word with
  | some kind => some kind
  | none => (EntityKind.languageWords language).lookup word

/-- The kind of a folded word: a name of a kind wins, then the words of the language, if one is
given, and then the common words. -/
def kindOfWord? (vocabulary : Vocabulary) (language : Option Language) (word : String) :
    Option EntityKind :=
  match EntityKind.ofName? word with
  | some kind => some kind
  | none =>
      match language.bind fun language => vocabulary.languageKind? language word with
      | some kind => some kind
      | none => EntityKind.commonWords.lookup word

/-- The kind that a value names. -/
def normalizeKind (vocabulary : Vocabulary) (language : Option Language) (raw : Value) :
    Outcome EntityKind :=
  raw.whenShown <|
    match vocabulary.kindOfWord? language (foldedWord raw.shown) with
    | some kind => .ok kind
    | none => refuse (.entityKind raw.shown)

end Vocabulary

end CodeGraph

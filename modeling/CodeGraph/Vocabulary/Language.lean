import CodeGraph.Fault
import CodeGraph.Json.Shown
import CodeGraph.Text.Blank
import CodeGraph.Text.Lowercase

/-!
This file holds the source languages and the other names under which they are known.
-/

namespace CodeGraph

inductive Language where
  | rust
  | python
  | javascript
  | typescript
  | go
  | java
  | c
  | cpp
  | csharp
  | ruby
  | php
  | swift
  | kotlin
  | scala
  deriving DecidableEq, Inhabited, Repr

/-- A word in a table is looked up without the blanks around it and without regard to case. -/
def foldedWord (text : String) : String := String.ofList (Text.lower (Text.strip text.toList))

namespace Language

def all : List Language := [
  .rust, .python, .javascript, .typescript, .go, .java, .c, .cpp, .csharp, .ruby, .php, .swift,
  .kotlin, .scala]

/-- The name of a language in a key. -/
def name : Language → String
  | .rust => "rust"
  | .python => "python"
  | .javascript => "javascript"
  | .typescript => "typescript"
  | .go => "go"
  | .java => "java"
  | .c => "c"
  | .cpp => "cpp"
  | .csharp => "csharp"
  | .ruby => "ruby"
  | .php => "php"
  | .swift => "swift"
  | .kotlin => "kotlin"
  | .scala => "scala"

def ofName? (word : String) : Option Language := all.find? fun language => language.name == word

/-- Short names and file suffixes. -/
def aliases : List (String × Language) := [
  ("rs", .rust), ("py", .python), ("js", .javascript), ("jsx", .javascript),
  ("ts", .typescript), ("tsx", .typescript), ("golang", .go), ("c++", .cpp), ("cxx", .cpp),
  ("cc", .cpp), ("c#", .csharp), ("cs", .csharp), ("rb", .ruby), ("kt", .kotlin),
  ("kts", .kotlin)]

/-- The language of a folded word; a name wins over an alias. -/
def ofWord? (word : String) : Option Language :=
  match ofName? word with
  | some language => some language
  | none => aliases.lookup word

/-- The language that a value names. -/
def normalize (raw : Value) : Outcome Language :=
  raw.whenShown <|
    match ofWord? (foldedWord raw.shown) with
    | some language => .ok language
    | none => refuse (.language raw.shown)

end Language

end CodeGraph

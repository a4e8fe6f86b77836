import CodeGraph.Fault
import CodeGraph.Json.Shown
import CodeGraph.Text.Blank
import CodeGraph.Text.Split

/-!
This file holds the paths of source files. A path is kept in one form: relative to the source root,
its components separated by slashes, without empty components and without detours.
-/

namespace CodeGraph.FilePath

/-- The path of entities that are not in the source tree. -/
def unknown : String := "unknown"

def isAsciiLetter (c : Char) : Bool := ('A' ≤ c && c ≤ 'Z') || ('a' ≤ c && c ≤ 'z')

/-- A letter and a colon name a drive. -/
def startsWithDrive : List Char → Bool
  | letter :: ':' :: _ => isAsciiLetter letter
  | _ => false

def startsAtRoot : List Char → Bool
  | '/' :: _ => true
  | _ => false

/-- One component joins the folded ones, which stand in reverse order. A step up cancels the
component before it, unless that is a step up too. -/
def foldComponent (folded : List (List Char)) (component : List Char) : List (List Char) :=
  if component = [] ∨ component = ['.'] then folded
  else if component = ['.', '.'] then
    match folded with
    | [] => [component]
    | last :: before => if last = ['.', '.'] then component :: folded else before
  else component :: folded

/-- The components without empty ones, without single dots and without cancelled ones. -/
def foldComponents (components : List (List Char)) : List (List Char) :=
  (components.foldl foldComponent []).reverse

/-- The folded form of a relative path; a path that leads nowhere is a single dot. -/
def fold (path : List Char) : List Char :=
  match foldComponents (Text.split '/' path) with
  | [] => ['.']
  | components => Text.join ['/'] components

def leavesRoot : List Char → Bool
  | '.' :: '.' :: '/' :: _ => true
  | _ => false

/-- The path without the blanks around it and with slashes for backslashes. -/
def unified (text : List Char) : List Char :=
  (Text.strip text).map fun c => if c = '\\' then '/' else c

/-- The normal form of the path that a value names. -/
def normalize (raw : Value) : Outcome String :=
  raw.whenShown <|
    let path := unified raw.shown.toList
    if path.isEmpty then refuse .emptyPath
    else if startsAtRoot path || startsWithDrive path then refuse (.absolutePath raw.shown)
    else
      let folded := fold path
      if folded = ['.'] ∨ leavesRoot folded then refuse (.escapingPath raw.shown)
      else .ok (String.ofList folded)

/-- Separators of paths and of keys become underscores. -/
def tokenChar (c : Char) : Char := if c = '/' ∨ c = '\\' ∨ c = ':' then '_' else c

/-- The form of a path inside a key. -/
def token (path : String) : String := String.ofList (path.toList.map tokenChar)

/-- The part of a path in front of its last component. -/
def directory (path : List Char) : List Char :=
  let head := (path.reverse.dropWhile (· != '/')).reverse
  if head.all (· == '/') then head else (head.reverse.dropWhile (· == '/')).reverse

end CodeGraph.FilePath

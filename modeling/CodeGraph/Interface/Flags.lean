import CodeGraph.Number.Numeral
import CodeGraph.Text.Split

/-!
This file reads the flags of a command line. A long flag may be shortened as long as it stays
unambiguous, a value may follow its flag or be attached to it, and short flags may share one dash.
-/

namespace CodeGraph

inductive Flag where
  | help
  | host
  | port
  | storage
  | inMemory
  | input
  | disableCors
  | verbose
  deriving DecidableEq, Repr

namespace Flag

def names : Flag → List String
  | .help => ["-h", "--help"]
  | .host => ["--host"]
  | .port => ["--port"]
  | .storage => ["--storage"]
  | .inMemory => ["--in-memory"]
  | .input => ["--input", "-i"]
  | .disableCors => ["--disable-cors"]
  | .verbose => ["--verbose", "-v"]

/-- The flag is followed by a value. -/
def takesValue : Flag → Bool
  | .host | .port | .storage | .input => true
  | _ => false

end Flag

/-- The flags that were given, each with its last value. Inside a flag that was given, `none` stands
for a value that was lost. -/
structure Flags where
  host : Option (Option String)
  port : Option (Option Int)
  storage : Option (Option String)
  inMemory : Bool
  input : Option (Option String)
  disableCors : Bool
  verbose : Bool
  deriving DecidableEq, Repr

/-- The reasons for which a command stops before it begins. -/
inductive EarlyStop where
  | helpWanted
  | misuse
  deriving DecidableEq, Repr

namespace Flags

def none : Flags := ⟨.none, .none, .none, false, .none, false, false⟩

/-- The port that a value names. Only a numeral can be a port. -/
def portOf (value : Option String) : Except EarlyStop (Option Int) :=
  match value with
  | .none => .ok .none
  | some text =>
      match Numeral.integer? text.toList with
      | some port => .ok (some port)
      | .none => .error .misuse

/-- One flag takes effect. -/
def take (flags : Flags) (flag : Flag) (value : Option String) : Except EarlyStop Flags :=
  match flag with
  | .help => .error .helpWanted
  | .host => .ok { flags with host := some value }
  | .port => (portOf value).map fun port => { flags with port := some port }
  | .storage => .ok { flags with storage := some value }
  | .inMemory => .ok { flags with inMemory := true }
  | .input => .ok { flags with input := some value }
  | .disableCors => .ok { flags with disableCors := true }
  | .verbose => .ok { flags with verbose := true }

end Flags

/-- What an argument of a command line is. -/
inductive Token where
  /-- A value, or a word that no flag waits for. -/
  | word (text : String)
  /-- A flag by one of its names, and the text that is attached to the name. -/
  | flag (flag : Flag) (name : List Char) (attached : Option (List Char))
  | unknown
  | ambiguous
  | separator
  deriving DecidableEq, Repr

namespace Token

/-- A flag by one of its names. -/
abbrev Named : Type := Flag × List Char

/-- The names of the flags of a command. -/
def named (flags : List Flag) : List Named :=
  flags.flatMap fun flag => flag.names.map fun name => (flag, name.toList)

def findName? (names : List Named) (text : List Char) : Option Named :=
  names.find? fun candidate => candidate.2 == text

/-- The part in front of the first equality sign and the part behind it. -/
def cutAtSign (text : List Char) : Option (List Char × List Char) :=
  match text.dropWhile (· != '=') with
  | [] => none
  | _ :: behind => some (text.takeWhile (· != '='), behind)

/-- A digit of any script. -/
def isDigit (c : Char) : Bool := (Text.digitValue? c).isSome

/-- A text that begins with a dash may still be a negative number. -/
def isNegativeNumber : List Char → Bool
  | '-' :: text =>
      let digits := if text.getLast? = some '\n' then text.dropLast else text
      let whole := digits.takeWhile isDigit
      match digits.dropWhile isDigit with
      | [] => !whole.isEmpty
      | point :: fraction => point == '.' && !fraction.isEmpty && fraction.all isDigit
  | _ => false

/-- A flag that a text may stand for, with the attached text. -/
abbrev Candidate : Type := Named × Option (List Char)

/-- The names that a text with two dashes may be short for. -/
def longCandidates (names : List Named) (text : List Char) : List Candidate :=
  let cut := cutAtSign text
  let short := (cut.map Prod.fst).getD text
  (names.filter fun name => short.isPrefixOf name.2).map fun name => (name, cut.map Prod.snd)

/-- The name in the first two characters of a text with one dash; the rest is attached. -/
def shortCandidates (names : List Named) (text : List Char) : List Candidate :=
  (names.filter fun name => name.2 == text.take 2).map fun name => (name, some (text.drop 2))

def candidates (names : List Named) (text : List Char) : List Candidate :=
  match text with
  | '-' :: '-' :: _ => longCandidates names text
  | _ => shortCandidates names text

/-- A text that begins with a dash and is no full name. -/
def ofShortened (names : List Named) (text : List Char) : Token :=
  match candidates names text with
  | [(name, attached)] => .flag name.1 name.2 attached
  | [] =>
      if isNegativeNumber text || text.contains ' ' then .word (String.ofList text) else .unknown
  | _ => .ambiguous

/-- A full name with an equality sign and a text behind it. -/
def assigned? (names : List Named) (text : List Char) : Option Candidate :=
  (cutAtSign text).bind fun cut =>
    (findName? names cut.1).map fun name => (name, some cut.2)

/-- One argument in front of the separator. -/
def ofArgument (names : List Named) (argument : String) : Token :=
  let text := argument.toList
  match text with
  | '-' :: _ :: _ =>
      match findName? names text with
      | some name => .flag name.1 name.2 none
      | none =>
          match assigned? names text with
          | some (name, attached) => .flag name.1 name.2 attached
          | none => ofShortened names text
  | _ => .word argument

/-- Behind two dashes all arguments are words. -/
def ofArguments (names : List Named) : List String → List Token
  | [] => []
  | argument :: rest =>
      if argument = "--" then .separator :: rest.map .word
      else ofArgument names argument :: ofArguments names rest

end Token

namespace Flags

/-- Flags that share a dash: the ones without a value, and the last one with the text that is
attached to it. -/
structure Cluster where
  switches : List Flag
  last : Flag
  attached : Option (List Char)
  deriving DecidableEq, Repr

/-- The cluster of a flag with an attached text. The text of a flag without a value goes on with the
next short flag, and an equality sign is no exception. -/
def clusterOf (names : List Token.Named) (flag : Flag) : List Char → Except EarlyStop Cluster
  | [] => if flag.takesValue then .ok ⟨[], flag, some []⟩ else .error .misuse
  | c :: rest =>
      if flag.takesValue then .ok ⟨[], flag, some (c :: rest)⟩
      else
        match Token.findName? names ['-', c] with
        | .none => .error .misuse
        | some next =>
            if rest.isEmpty then .ok ⟨[flag], next.1, .none⟩
            else (clusterOf names next.1 rest).map fun (cluster : Cluster) =>
              { cluster with switches := flag :: cluster.switches }

/-- The cluster that a flag begins. Only short flags share a dash. -/
def clusterAt (names : List Token.Named) (flag : Flag) (name : List Char) :
    Option (List Char) → Except EarlyStop Cluster
  | .none => .ok ⟨[], flag, .none⟩
  | some text =>
      if ['-', '-'].isPrefixOf name && !flag.takesValue then .error .misuse
      else clusterOf names flag text

/-- The switches take effect one after the other. -/
def takeSwitches (flags : Flags) : List Flag → Except EarlyStop Flags
  | [] => .ok flags
  | flag :: rest =>
      match flags.take flag .none with
      | .ok next => next.takeSwitches rest
      | .error stop => .error stop

/-- Two dashes are no value, also where they are attached to a flag. -/
def attachedValue (text : List Char) : Option String :=
  if text = ['-', '-'] then .none else some (String.ofList text)

/-- The value of the last flag of a cluster, and whether it is the next word. A missing value is a
misuse. -/
def valueOf (flag : Flag) (attached : Option (List Char)) (rest : List Token) :
    Except EarlyStop (Option String × Bool) :=
  match attached with
  | some text => .ok (attachedValue text, false)
  | .none =>
      if flag.takesValue then
        match rest with
        | .word value :: _ => .ok (some value, true)
        | _ => .error .misuse
      else .ok (.none, false)

/-- A cluster takes effect, once it is known to be complete. -/
def takeCluster (cluster : Cluster) (flags : Flags) (rest : List Token) :
    Except EarlyStop (Flags × Bool) := do
  let (value, takesWord) ← valueOf cluster.last cluster.attached rest
  let flags ← flags.takeSwitches cluster.switches
  let flags ← flags.take cluster.last value
  return (flags, takesWord)

/-- The flags that were given, and whether there was a word or a flag that the command does not
know. -/
structure Reading where
  flags : Flags
  stray : Bool

/-- The tokens take effect one after the other. `taken` says that the next word belongs to the flag
in front of it. -/
def readTokens (names : List Token.Named) (reading : Reading) (taken : Bool) :
    List Token → Except EarlyStop Reading
  | [] => .ok reading
  | token :: rest =>
      if taken then readTokens names reading false rest
      else
        match token with
        | .flag flag name attached =>
            match (clusterAt names flag name attached).bind fun cluster =>
              takeCluster cluster reading.flags rest with
            | .ok (flags, takesWord) => readTokens names ⟨flags, reading.stray⟩ takesWord rest
            | .error stop => .error stop
        | _ => readTokens names ⟨reading.flags, true⟩ false rest

/-- The flags of a command line. An ambiguous flag is a misuse whatever stands in front of it. -/
def parse (known : List Flag) (arguments : List String) : Except EarlyStop Flags :=
  let names := Token.named (.help :: known)
  let tokens := Token.ofArguments names arguments
  if tokens.contains .ambiguous then .error .misuse
  else
    match readTokens names ⟨none, false⟩ false tokens with
    | .error stop => .error stop
    | .ok reading => if reading.stray then .error .misuse else .ok reading.flags

end Flags

end CodeGraph

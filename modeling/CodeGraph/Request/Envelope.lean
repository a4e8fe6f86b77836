import CodeGraph.Fault
import CodeGraph.Json.Writer

/-!
This file holds the envelopes in which a service answers. An envelope tells how many tokens its
content takes, so that callers with little room can plan.
-/

namespace CodeGraph

/-- The kinds of failures that an envelope reports. -/
inductive FailureKind where
  | notFound
  | invalidParameter
  | storage
  deriving DecidableEq, Repr

namespace FailureKind

def word : FailureKind → String
  | .notFound => "NotFound"
  | .invalidParameter => "InvalidParameter"
  | .storage => "StorageError"

def ofWord? (word : String) : Option FailureKind :=
  [FailureKind.notFound, .invalidParameter, .storage].find? fun kind => kind.word == word

/-- A defect is of no kind, since it is not reported in an envelope. -/
def ofFault? : Fault → Option FailureKind
  | .refused _ => some .invalidParameter
  | .entityNotFound _ => some .notFound
  | .storage _ | .integrity _ | .noSnapshot => some .storage
  | .defect _ => none

end FailureKind

/-- What an envelope holds. -/
inductive Reply where
  | success (data : Value)
  | failure (kind : FailureKind) (message : String)

namespace Reply

def isSuccess : Reply → Bool
  | .success _ => true
  | .failure _ _ => false

/-- The content whose tokens are counted. -/
def payload : Reply → Value
  | .success data => data
  | .failure kind message => .object [("type", .text kind.word), ("message", .text message)]

end Reply

/-- The answer to a question at an endpoint. -/
structure Envelope where
  endpoint : String
  reply : Reply

namespace Envelope

/-- So many characters make up a token. -/
def charactersPerToken : Nat := 4

/-- The tokens of a value; a token that is begun counts. -/
def tokensOf (value : Value) : Nat :=
  (value.lineText.length + (charactersPerToken - 1)) / charactersPerToken

/-- The envelope of an outcome. A defect has no envelope, and neither has a content whose text
cannot be written for its tokens; `room` is the number of levels that may still be opened. -/
def ofOutcome (room : Nat) (endpoint : String) (outcome : Outcome Value) : Outcome Envelope :=
  match outcome with
  | .ok data =>
      match data.writeDefect? room with
      | some cause => crash cause
      | none => .ok ⟨endpoint, .success data⟩
  | .error fault =>
      match FailureKind.ofFault? fault with
      | some kind => .ok ⟨endpoint, .failure kind fault.message⟩
      | none => .error fault

def tokens (envelope : Envelope) : Nat := tokensOf envelope.reply.payload

def toValue (envelope : Envelope) : Value :=
  match envelope.reply with
  | .success data => .object [
      ("success", .bool true),
      ("endpoint", .text envelope.endpoint),
      ("data", data),
      ("tokens", .int envelope.tokens)]
  | .failure _ _ => .object [
      ("success", .bool false),
      ("endpoint", .text envelope.endpoint),
      ("data", .null),
      ("error", envelope.reply.payload),
      ("tokens", .int envelope.tokens)]

end Envelope

end CodeGraph

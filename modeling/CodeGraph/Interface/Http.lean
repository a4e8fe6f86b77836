import CodeGraph.Service

/-!
This file answers requests that come as addresses with parameters. The body of an answer is the
envelope, and the status says of what kind it is.
-/

namespace CodeGraph

namespace HttpStatus

def success : Nat := 200

def crashed : Nat := 500

/-- The status of a failure. -/
def ofFailure : FailureKind → Nat
  | .notFound => 404
  | .invalidParameter => 400
  | .storage => 503

def ofReply : Reply → Nat
  | .success _ => success
  | .failure kind _ => ofFailure kind

/-- The status of a failure whose kind is given by a word. Any other word is an error of the
server. -/
def ofKind : Atom → Nat
  | .text word => ((FailureKind.ofWord? word).map ofFailure).getD crashed
  | _ => crashed

/-- A field of a value that must be an object to be looked into. -/
def lookInto (value : Value) (name : String) : Outcome Value :=
  match value with
  | .object fields => .ok ((Value.lookup name fields).getD .null)
  | other => crash (.noAttribute other.typeName "get")

/-- The status of an envelope that is given as a value. -/
def ofValue (envelope : Value) : Outcome Nat := do
  if (← lookInto envelope "success").isTruthy then return success
  let error ← lookInto envelope "error"
  let kind ← if error.isTruthy then lookInto error "type" else pure .null
  return ofKind (← kind.toAtom)

end HttpStatus

/-- An answer has a body unless the server failed. -/
structure HttpResponse where
  status : Nat
  body : Option Value

namespace HttpResponse

/-- The answer of a server that failed. -/
def crashed : HttpResponse := ⟨HttpStatus.crashed, none⟩

def ofEnvelope (envelope : Envelope) : HttpResponse :=
  ⟨HttpStatus.ofReply envelope.reply, some envelope.toValue⟩

end HttpResponse

namespace Http

/-- The parameters of a request; their values are texts. -/
abbrev Parameters : Type := List (String × String)

/-- A missing parameter is null. -/
def parameter (parameters : Parameters) (name : String) : Value :=
  match parameters.lookup name with
  | some value => .text value
  | none => .null

/-- The number of hotspots comes as a text too. -/
def topParameter (parameters : Parameters) : Value :=
  match parameters.lookup "top" with
  | some value => .text value
  | none => .text (Decimal.naturalText Hotspot.defaultTop)

/-- The question that is asked at a path. -/
def query? (path : String) (parameters : Parameters) : Option Query :=
  let given := parameter parameters
  match path with
  | "/health" => some .health
  | "/graph/overview" => some .overview
  | "/graph/entities" => some (.entities (given "entity_type") (given "language"))
  | "/graph/entity" => some (.entity (given "key"))
  | "/graph/search" => some (.search (given "q") (given "limit"))
  | "/graph/edges" => some .edges
  | "/graph/callers" => some (.callers (given "entity"))
  | "/graph/callees" => some (.callees (given "entity"))
  | "/graph/blast-radius" => some (.blastRadius (given "entity") (given "hops"))
  | "/graph/cycles" => some .cycles
  | "/graph/hotspots" => some (.hotspots (topParameter parameters))
  | "/graph/clusters" => some (.clusters (given "threshold"))
  | "/graph/smart-context" =>
      some (.smartContext (given "focus") (given "tokens") (given "max_depth"))
  | "/graph/temporal-coupling" =>
      some (.temporalCoupling (given "entity") (given "min_strength") (given "min_co_changes"))
  | _ => none

/-- The lists and objects of a body nest at most so deep. The limit is the one of calls within
calls, less those of the server. -/
def room : Nat := 960

/-- A body holds no number without digits. -/
def isWritable (content : Outcome Answer) : Bool :=
  match content with
  | .ok answer => answer.isFinite
  | .error _ => true

/-- The envelope as a body. It is written once more as a whole, which takes a level more than its
content. -/
def send (content : Outcome Answer) (envelope : Envelope) : HttpResponse :=
  if isWritable content && (envelope.toValue.writeDefect? room).isNone then
    HttpResponse.ofEnvelope envelope
  else HttpResponse.crashed

/-- The answer to a question; a defect makes the server fail. -/
def answer (service : Service) (query : Query) : HttpResponse :=
  match service.answer room query with
  | .ok envelope => send (service.content query) envelope
  | .error _ => HttpResponse.crashed

/-- The answer at a path, if there is one. -/
def respond? (service : Service) (path : String) (parameters : Parameters) :
    Option HttpResponse :=
  (query? path parameters).map (answer service)

end Http

end CodeGraph

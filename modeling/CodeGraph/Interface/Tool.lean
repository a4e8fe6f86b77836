import CodeGraph.Service

/-!
This file offers the questions as tools that are called by name. A tool call gives a text: the
envelope of the answer, or a message where there is no answer.
-/

namespace CodeGraph

/-- The tools, in the order in which they are offered. -/
inductive Tool where
  | healthCheck
  | graphOverview
  | listEntities
  | getEntity
  | searchEntities
  | listEdges
  | reverseCallers
  | forwardCallees
  | blastRadius
  | detectCycles
  | complexityHotspots
  | semanticClusters
  | smartContext
  | temporalCoupling
  deriving DecidableEq, Repr

/-- An argument of a tool: its name, its schema and whether it is needed. -/
structure ToolParameter where
  name : String
  schema : List (String × Value)
  required : Bool

namespace ToolParameter

/-- A parameter of a type with a description. -/
def create (name type description : String) (required : Bool) : ToolParameter :=
  ⟨name, [("type", .text type), ("description", .text description)], required⟩

/-- More is said about the parameter. -/
def also (parameter : ToolParameter) (name : String) (value : Value) : ToolParameter :=
  { parameter with schema := parameter.schema ++ [(name, value)] }

/-- A key of an entity. -/
def key (name : String) : ToolParameter :=
  create name "string" "Entity key in the form language:entity_type:name:path_token:start-end" true

end ToolParameter

namespace Tool

def all : List Tool := [
  .healthCheck, .graphOverview, .listEntities, .getEntity, .searchEntities, .listEdges,
  .reverseCallers, .forwardCallees, .blastRadius, .detectCycles, .complexityHotspots,
  .semanticClusters, .smartContext, .temporalCoupling]

def name : Tool → String
  | .healthCheck => "health_check"
  | .graphOverview => "graph_overview"
  | .listEntities => "list_entities"
  | .getEntity => "get_entity"
  | .searchEntities => "search_entities"
  | .listEdges => "list_edges"
  | .reverseCallers => "reverse_callers"
  | .forwardCallees => "forward_callees"
  | .blastRadius => "blast_radius"
  | .detectCycles => "detect_cycles"
  | .complexityHotspots => "complexity_hotspots"
  | .semanticClusters => "semantic_clusters"
  | .smartContext => "smart_context"
  | .temporalCoupling => "temporal_coupling"

def ofName? (name : String) : Option Tool := all.find? fun tool => tool.name == name

def description : Tool → String
  | .healthCheck => "Report whether the engine is up and which snapshot it serves."
  | .graphOverview => "Entity, edge, file and change set counts of the current snapshot."
  | .listEntities => "List entities, optionally filtered by entity type and language."
  | .getEntity => "Get one entity with its inbound and outbound edge counts."
  | .searchEntities => "Fuzzy search over entity names (exact, prefix, substring, approximate)."
  | .listEdges => "List every edge of the current snapshot."
  | .reverseCallers => "Find the entities that depend on (call) an entity."
  | .forwardCallees => "Find the entities an entity depends on (calls)."
  | .blastRadius => "Multi-hop impact analysis: what is affected if this entity changes."
  | .detectCycles => "Find dependency cycles across the whole graph."
  | .complexityHotspots => "Rank entities by how many other entities depend on them."
  | .semanticClusters => "Group entities into clusters by module and mutual edge density."
  | .smartContext => "Select the entities most relevant to a focus entity within a token budget."
  | .temporalCoupling => "Find files that change together with the file of an entity."

def parameters : Tool → List ToolParameter
  | .listEntities => [
      .create "entity_type" "string" "Entity type, e.g. 'function' or 'trait'" false,
      .create "language" "string" "Language, e.g. 'rust' or 'python'" false]
  | .getEntity => [.key "key"]
  | .searchEntities => [
      .create "query" "string" "The search term to look for" true,
      .create "limit" "integer" "Maximum number of results to return" false]
  | .reverseCallers => [.key "entity"]
  | .forwardCallees => [.key "entity"]
  | .blastRadius => [
      .key "entity",
      (ToolParameter.create "hops" "integer" "Number of caller hops to follow" true).also
        "minimum" (.int 1)]
  | .complexityHotspots => [
      ((ToolParameter.create "top" "integer" "Number of hotspots to return" false).also
        "default" Query.defaultTop).also "minimum" (.int 1)]
  | .semanticClusters => [
      .create "threshold" "number" "Minimum mutual edge density in (0, 1]" false]
  | .smartContext => [
      .create "focus" "string" "Key of the focus entity" true,
      (ToolParameter.create "tokens" "integer" "Token budget" true).also "minimum" (.int 1),
      .create "max_depth" "integer" "How many hops to look for candidates" false]
  | .temporalCoupling => [
      .key "entity",
      .create "min_strength" "number" "Minimum coupling strength" false,
      .create "min_co_changes" "integer" "Minimum shared change count" false]
  | _ => []

/-- The schema of the arguments. It names the needed ones if there are any. -/
def schema (tool : Tool) : Value :=
  let required := tool.parameters.filter ToolParameter.required
  .object ([
    ("type", .text "object"),
    ("properties", .object (tool.parameters.map fun parameter =>
      (parameter.name, .object parameter.schema)))] ++
    if required.isEmpty then []
    else [("required", .list (required.map fun parameter => .text parameter.name))])

/-- The tool as it is offered. -/
def toValue (tool : Tool) : Value := .object [
  ("name", .text tool.name),
  ("description", .text tool.description),
  ("inputSchema", tool.schema)]

/-- The question that a call asks. A missing argument is null, except that a missing number of
hotspots has a value. -/
def query (tool : Tool) (arguments : List (String × Value)) : Query :=
  let given (name : String) : Value := (Value.lookup name arguments).getD .null
  match tool with
  | .healthCheck => .health
  | .graphOverview => .overview
  | .listEntities => .entities (given "entity_type") (given "language")
  | .getEntity => .entity (given "key")
  | .searchEntities => .search (given "query") (given "limit")
  | .listEdges => .edges
  | .reverseCallers => .callers (given "entity")
  | .forwardCallees => .callees (given "entity")
  | .blastRadius => .blastRadius (given "entity") (given "hops")
  | .detectCycles => .cycles
  | .complexityHotspots => .hotspots ((Value.lookup "top" arguments).getD Query.defaultTop)
  | .semanticClusters => .clusters (given "threshold")
  | .smartContext => .smartContext (given "focus") (given "tokens") (given "max_depth")
  | .temporalCoupling =>
      .temporalCoupling (given "entity") (given "min_strength") (given "min_co_changes")

end Tool

/-- What a tool call gives. -/
inductive ToolResult where
  | answered (envelope : Envelope)
  | told (message : String)

namespace ToolResult

/-- A message always tells of an error. -/
def isError : ToolResult → Bool
  | .answered envelope => !envelope.reply.isSuccess
  | .told _ => true

/-- The text of the result. -/
def text : ToolResult → List Char
  | .answered envelope => envelope.toValue.lineText
  | .told message => message.toList

/-- The lists and objects of the content of an answer nest at most so deep. The limit is the one of
calls within calls, less those of the tools. The envelope is written from a place with more room. -/
def room : Nat := 975

/-- The result of a call of a known tool. -/
def ofCall (service : Service) (tool : Tool) (arguments : List (String × Value)) : ToolResult :=
  match service.answer room (tool.query arguments) with
  | .ok envelope => .answered envelope
  | .error fault => .told ("Error in " ++ tool.name ++ ": " ++ fault.message)

/-- The result of a call by name. -/
def ofName (service : Service) (name : String) (arguments : List (String × Value)) : ToolResult :=
  match Tool.ofName? name with
  | some tool => ofCall service tool arguments
  | none => .told ("Unknown tool '" ++ name ++ "'")

end ToolResult

end CodeGraph

import CodeGraph.Json.Value
import CodeGraph.Report.Hotspots

/-!
This file holds the questions that a service answers. Their arguments are taken as callers give
them, and a missing one is null.
-/

namespace CodeGraph

inductive Query where
  | health
  | overview
  | entities (kind language : Value)
  | entity (key : Value)
  | search (query limit : Value)
  | edges
  | callers (entity : Value)
  | callees (entity : Value)
  | blastRadius (entity hops : Value)
  | cycles
  | hotspots (top : Value)
  | clusters (threshold : Value)
  | smartContext (focus tokens maxDepth : Value)
  | temporalCoupling (entity minStrength minCoChanges : Value)
  deriving Inhabited

namespace Query

/-- The name under which an answer is given. -/
def endpoint : Query → String
  | .health => "health"
  | .overview => "overview"
  | .entities _ _ => "list_entities"
  | .entity _ => "entity"
  | .search _ _ => "search"
  | .edges => "edges"
  | .callers _ => "callers"
  | .callees _ => "callees"
  | .blastRadius _ _ => "blast_radius"
  | .cycles => "cycles"
  | .hotspots _ => "hotspots"
  | .clusters _ => "clusters"
  | .smartContext _ _ _ => "smart_context"
  | .temporalCoupling _ _ _ => "temporal_coupling"

/-- The number of hotspots that a question without a number asks for. -/
def defaultTop : Value := .int Hotspot.defaultTop

end Query

end CodeGraph

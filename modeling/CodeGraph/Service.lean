import CodeGraph.Answer
import CodeGraph.Config
import CodeGraph.Manager
import CodeGraph.Report.BlastRadius
import CodeGraph.Report.Coupling
import CodeGraph.Report.Cycles
import CodeGraph.Request.Envelope
import CodeGraph.Request.Query

/-!
This file answers questions about the served snapshot. Each answer is an envelope, also where the
question is refused or nothing is served yet.
-/

namespace CodeGraph

/-- A manager with the settings that answers depend on. -/
structure Service where
  vocabulary : Vocabulary
  config : Config
  storageName : String
  manager : Manager

namespace Service

/-- The entities that pass the filters; an unknown filter lets nothing pass. -/
def entities (service : Service) (snapshot : Snapshot) (kind language : Value) :
    Outcome (List Entity) :=
  match snapshot.listEntities service.vocabulary kind language with
  | .error (.refused _) => .ok []
  | outcome => outcome

/-- The entity of a key with the numbers of edges at both of its sides. -/
def detail (service : Service) (snapshot : Snapshot) (key : Value) : Outcome Answer := do
  let key ← Argument.text key "key"
  let entity ← snapshot.get service.vocabulary (.text key)
  return .entity entity (snapshot.inDegree entity.address) (snapshot.outDegree entity.address)

def search (service : Service) (snapshot : Snapshot) (query limit : Value) : Outcome Answer := do
  let limit : Value ←
    match limit with
    | .null => pure service.config.searchLimit
    | limit => (Argument.positive limit "limit").map fun limit => .int limit
  return .search (← SearchPage.ofRequest snapshot query limit Match.defaultThreshold)

def callers (service : Service) (snapshot : Snapshot) (entity : Value) : Outcome Answer := do
  let key ← Argument.text entity "entity"
  return .callers key (← Relative.callers service.vocabulary snapshot (.text key))

def callees (service : Service) (snapshot : Snapshot) (entity : Value) : Outcome Answer := do
  let key ← Argument.text entity "entity"
  return .callees key (← Relative.callees service.vocabulary snapshot (.text key))

/-- The settings cap the entities of each hop. -/
def blastRadius (service : Service) (snapshot : Snapshot) (entity hops : Value) :
    Outcome Answer := do
  let key ← Argument.text entity "entity"
  let hops ← Argument.positive hops "hops"
  let radius ← BlastRadius.ofRequest service.vocabulary snapshot (.text key) (.int hops)
    BlastRadius.defaultDirection service.config.blastSample
  return .report radius.toValue

def hotspots (snapshot : Snapshot) (top : Value) : Outcome Answer := do
  let top ← Argument.positive top "top"
  let hotspots ← Hotspot.ofRequest snapshot (.int top)
  return .report (.object [
    ("top", .int top), ("hotspots", .list (hotspots.map Hotspot.toValue))])

def clusters (service : Service) (snapshot : Snapshot) (threshold : Value) : Outcome Answer := do
  let threshold : Value ←
    match threshold with
    | .null => pure service.config.clusterThreshold
    | threshold => (Argument.number threshold "threshold").map .float
  return .report (← Clustering.ofRequest snapshot threshold).toValue

def smartContext (service : Service) (snapshot : Snapshot) (focus tokens maxDepth : Value) :
    Outcome Answer := do
  let maxDepth : Value ←
    match maxDepth with
    | .null => pure service.config.contextMaxDepth
    | maxDepth => (Argument.positive maxDepth "max_depth").map fun depth => .int depth
  let focus ← Argument.text focus "focus"
  let tokens ← Argument.positive tokens "tokens"
  let selection ← ContextSelection.ofRequest service.vocabulary snapshot (.text focus)
    (.int tokens) maxDepth
  return .report selection.toValue

def temporalCoupling (service : Service) (snapshot : Snapshot)
    (entity minStrength minCoChanges : Value) : Outcome Answer := do
  let minStrength : Value ←
    match minStrength with
    | .null => pure CouplingReport.defaultMinStrength
    | minStrength => (Argument.number minStrength "min_strength").map .float
  let minCoChanges : Value ←
    match minCoChanges with
    | .null => pure CouplingReport.defaultMinCoChanges
    | minCoChanges =>
        (Argument.positive minCoChanges "min_co_changes").map fun count => .int count
  let key ← Argument.text entity "entity"
  let report ← CouplingReport.ofRequest service.vocabulary snapshot (.text key) minStrength
    minCoChanges
  return .report report.toValue

/-- The edges of a snapshot with their number. -/
def edgeList (snapshot : Snapshot) : Value := .object [
  ("count", .int snapshot.edgeCount),
  ("edges", .list (snapshot.edges.map Edge.toValue))]

/-- The health of a service, which is known without a snapshot. -/
def health (service : Service) : Value :=
  .object (("status", .text "ok") :: service.manager.statusFields service.storageName)

/-- The content of the answer to a question about a snapshot. -/
def contentOf (service : Service) (snapshot : Snapshot) : Query → Outcome Answer
  | .health => .ok (.report service.health)
  | .overview => (Overview.measure snapshot).map .overview
  | .entities kind language => (service.entities snapshot kind language).map .entities
  | .entity key => service.detail snapshot key
  | .search query limit => service.search snapshot query limit
  | .edges => .ok (.report (edgeList snapshot))
  | .callers entity => service.callers snapshot entity
  | .callees entity => service.callees snapshot entity
  | .blastRadius entity hops => service.blastRadius snapshot entity hops
  | .cycles => .ok (.report (CycleReport.measure snapshot).toValue)
  | .hotspots top => hotspots snapshot top
  | .clusters threshold => service.clusters snapshot threshold
  | .smartContext focus tokens maxDepth => service.smartContext snapshot focus tokens maxDepth
  | .temporalCoupling entity minStrength minCoChanges =>
      service.temporalCoupling snapshot entity minStrength minCoChanges

/-- The content of an answer. Only the question about health needs no snapshot. -/
def content (service : Service) (query : Query) : Outcome Answer :=
  match query with
  | .health => .ok (.report service.health)
  | query => service.manager.current.bind fun snapshot => service.contentOf snapshot query

/-- The answer to a question; `room` is the number of levels that its content may nest, which is
less the further the call comes from. -/
def answer (room : Nat) (service : Service) (query : Query) : Outcome Envelope :=
  Envelope.ofOutcome room query.endpoint ((service.content query).map Answer.toValue)

end Service

end CodeGraph

import CodeGraph.Snapshot.Basic
import CodeGraph.Walk

/-!
This file groups the entities of a snapshot. Entities of one language and one directory stand
together from the start, and groups that are joined densely enough are merged.
-/

namespace CodeGraph

/-- The entities of one language in one directory make up a module of the source tree. -/
structure SourceModule where
  language : Language
  path : String
  deriving DecidableEq, Repr

namespace SourceModule

/-- The path of the module at the source root. -/
def rootPath : String := "."

/-- Modules stand in the order of their languages and then of their paths. -/
def precedes (first second : SourceModule) : Bool :=
  if first.language = second.language then decide (first.path < second.path)
  else decide (first.language.name < second.language.name)

/-- The module of an entity in the source tree. -/
def ofEntity (entity : Entity) : Outcome SourceModule :=
  match entity.filePath with
  | .text path =>
      let directory := String.ofList (FilePath.directory path.toList)
      .ok ⟨entity.address.language, if directory = "" then rootPath else directory⟩
  | other => crash (.notPath other.typeName)

end SourceModule

/-- The addresses of entities in the source tree, each with its module, in the order of their
keys. -/
abbrev Homes : Type := List (Address × SourceModule)

namespace Homes

def ofEntities : List Entity → Outcome Homes
  | [] => .ok []
  | entity :: rest =>
      if entity.isExternal then ofEntities rest
      else do
        let home ← SourceModule.ofEntity entity
        let homes ← ofEntities rest
        return (entity.address, home) :: homes

def ofSnapshot (snapshot : Snapshot) : Outcome Homes := ofEntities snapshot.entities.rows

def find? (homes : Homes) (address : Address) : Option SourceModule :=
  (List.find? (fun home => decide (home.1 = address)) homes).map Prod.snd

def modules (homes : Homes) : List SourceModule := Order.distinct (homes.map Prod.snd)

/-- The entities of a module in the order of their keys. -/
def members (homes : Homes) (module : SourceModule) : List Address :=
  (homes.filter fun home => decide (home.2 = module)).map Prod.fst

end Homes

namespace Density

/-- The share of the possible pairs between two groups that are joined. Without members there is no
pair, and the density is zero. -/
def quotient (pairs firstSize secondSize : Int) : Binary64 :=
  let possible := firstSize * secondSize
  if possible = 0 then Binary64.zero
  else
    Binary64.ofQuotient (decide (pairs < 0) != decide (possible < 0)) pairs.natAbs possible.natAbs

/-- A density that is past every number is a defect. -/
def measure (pairs firstSize secondSize : Int) : Outcome Binary64 :=
  match quotient pairs firstSize secondSize with
  | .infinite _ => crash .quotientTooLarge
  | density => .ok density

end Density

/-- The density from which on groups are merged, as the caller gave it and as a number. -/
structure Threshold where
  given : Value
  number : Binary64

namespace Threshold

/-- Without a wish of the caller this density is enough. -/
def defaultValue : Value := .float (Binary64.ofQuotient false 2 10)

/-- A threshold lies above zero and is at most one. -/
def ofValue? : Value → Option Threshold
  | .int value => if value = 1 then some ⟨.int value, Binary64.ofInt value⟩ else none
  | .float value =>
      if Binary64.zero.lt value && value.le (Binary64.ofInt 1) then some ⟨.float value, value⟩
      else none
  | _ => none

end Threshold

/-- Modules that belong together. -/
structure Cluster where
  modules : List SourceModule
  members : List Address
  internalEdges : Nat

namespace Cluster

def label (cluster : Cluster) : String := "+".intercalate (cluster.modules.map SourceModule.path)

/-- The names of the languages in order. -/
def languages (cluster : Cluster) : List String :=
  (Table.ofList (cluster.modules.map fun module => module.language.name) : TextSet).rows

def size (cluster : Cluster) : Nat := cluster.members.length

/-- The key of the first member. -/
def firstKey (cluster : Cluster) : String := (cluster.members.head?.map Address.text).getD ""

/-- Cohesions are rounded to this many decimal places. -/
def cohesionPlaces : Nat := 4

/-- The share of the ordered pairs of members that an edge joins. -/
def cohesion (cluster : Cluster) : Binary64 :=
  let possible := cluster.size * (cluster.size - 1)
  if possible = 0 then Binary64.zero
  else (Binary64.ofQuotient false cluster.internalEdges possible).roundPlaces cohesionPlaces

/-- The larger cluster comes first, then the smaller label, then the smaller first key. -/
def precedes (first second : Cluster) : Bool :=
  if first.size = second.size then
    if first.label = second.label then decide (first.firstKey < second.firstKey)
    else decide (first.label < second.label)
  else decide (second.size < first.size)

def toValue (number : Nat) (cluster : Cluster) : Value := .object [
  ("cluster_id", .text ("cluster-" ++ Decimal.naturalText number)),
  ("label", .text cluster.label),
  ("languages", .list (cluster.languages.map .text)),
  ("modules", .list (cluster.modules.map fun module => .text module.path)),
  ("size", .int cluster.size),
  ("internal_edges", .int cluster.internalEdges),
  ("cohesion", .float cluster.cohesion),
  ("entities", .list (cluster.members.map fun address => .text address.text))]

end Cluster

/-- An edge within the source tree, with the modules of its ends. -/
structure Span where
  source : Address × SourceModule
  target : Address × SourceModule

/-- The clusters of a snapshot, and the number of entities outside the source tree. -/
structure Clustering where
  threshold : Value
  external : Nat
  clusters : List Cluster

namespace Clustering

/-- An edge as a span, if both of its ends lie in the source tree. -/
def span? (homes : Homes) (edge : Edge) : Option Span :=
  match homes.find? edge.source, homes.find? edge.target with
  | some sourceModule, some targetModule =>
      some ⟨(edge.source, sourceModule), (edge.target, targetModule)⟩
  | _, _ => none

/-- A pair of entities, the first of one module and the second of another, that the span joins. -/
def crossing? (first second : SourceModule) (span : Span) : Option (Address × Address) :=
  if span.source.2 = first ∧ span.target.2 = second then some (span.source.1, span.target.1)
  else if span.source.2 = second ∧ span.target.2 = first then some (span.target.1, span.source.1)
  else none

/-- The pairs of entities of two modules that are joined in either direction. -/
def crossPairs (spans : List Span) (first second : SourceModule) : List (Address × Address) :=
  Order.distinct (spans.filterMap (crossing? first second))

/-- The density between two modules. -/
def density (homes : Homes) (spans : List Span) (first second : SourceModule) : Binary64 :=
  Density.quotient (crossPairs spans first second).length (homes.members first).length
    (homes.members second).length

/-- The ordered pairs of modules that are joined densely enough. -/
def links (homes : Homes) (spans : List Span) (threshold : Threshold) :
    List (SourceModule × SourceModule) :=
  homes.modules.flatMap fun first =>
    (homes.modules.filter fun second =>
      !decide (first = second) && threshold.number.le (density homes spans first second)).map
        fun second => (first, second)

/-- The modules that are linked to a module. -/
def linked (links : List (SourceModule × SourceModule)) (module : SourceModule) :
    List SourceModule :=
  (links.filter fun link => decide (link.1 = module)).map Prod.snd

/-- The modules that a chain of links joins to a module, in order. -/
def component (links : List (SourceModule × SourceModule)) (count : Nat)
    (module : SourceModule) : List SourceModule :=
  Order.sort SourceModule.precedes
    (module :: (Walk.layers (linked links) count module).flatten)

/-- The sets of modules that are merged, each once. -/
def components (homes : Homes) (links : List (SourceModule × SourceModule)) :
    List (List SourceModule) :=
  Order.distinct (homes.modules.map (component links homes.modules.length))

/-- The ordered pairs of distinct members that at least one edge joins. -/
def internalArcs (snapshot : Snapshot) (members : List Address) : List (Address × Address) :=
  snapshot.arcs.filter fun arc =>
    !decide (arc.1 = arc.2) && members.contains arc.1 && members.contains arc.2

def describe (snapshot : Snapshot) (homes : Homes) (modules : List SourceModule) : Cluster :=
  let members := Snapshot.orderAddresses (modules.flatMap homes.members)
  ⟨modules, members, (internalArcs snapshot members).length⟩

/-- The clusters of a snapshot whose modules are known. -/
def ofHomes (snapshot : Snapshot) (homes : Homes) (threshold : Threshold) : Clustering :=
  let merged := components homes (links homes (snapshot.edges.filterMap (span? homes)) threshold)
  ⟨threshold.given, snapshot.entityCount - homes.length,
    Order.sort Cluster.precedes (merged.map (describe snapshot homes))⟩

def measure (snapshot : Snapshot) (threshold : Threshold) : Outcome Clustering :=
  (Homes.ofSnapshot snapshot).map fun homes => ofHomes snapshot homes threshold

def ofRequest (snapshot : Snapshot) (threshold : Value) : Outcome Clustering :=
  match Threshold.ofValue? threshold with
  | some threshold => measure snapshot threshold
  | none => threshold.whenShown (refuse (.threshold threshold.quoted))

/-- The clusters are numbered from the given number on. -/
def numbered (number : Nat) : List Cluster → List Value
  | [] => []
  | cluster :: rest => cluster.toValue number :: numbered (number + 1) rest

def toValue (clustering : Clustering) : Value := .object [
  ("threshold", clustering.threshold),
  ("cluster_count", .int clustering.clusters.length),
  ("external_entity_count", .int clustering.external),
  ("clusters", .list (numbered 1 clustering.clusters))]

end Clustering

end CodeGraph

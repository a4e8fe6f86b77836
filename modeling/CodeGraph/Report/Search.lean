import CodeGraph.Report.Match
import CodeGraph.Request.Argument
import CodeGraph.Snapshot.Basic

/-!
This file searches the entities of a snapshot by name. The best matches come first, and of equal
matches the one with the smaller key.
-/

namespace CodeGraph

/-- An entity whose name matches a query. -/
structure Hit where
  entity : Entity
  rating : Match

namespace Hit

/-- Hits stand in the order of their scores, the highest one first, and then of their keys. -/
def precedes (first second : Hit) : Bool :=
  second.rating.score.lt first.rating.score ||
    (!first.rating.score.lt second.rating.score && decide (first.entity.key < second.entity.key))

/-- The entity as an object of a document, with its score. -/
def toValue (hit : Hit) : Value := .object (hit.entity.fields ++ [
  ("score", .float hit.rating.score),
  ("match", .text hit.rating.kind.word)])

end Hit

/-- The hits of a query that are shown, and the number of all hits. -/
structure SearchPage where
  query : String
  total : Nat
  hits : List Hit

namespace SearchPage

/-- Without a wish of the caller so many hits are shown. -/
def defaultLimit : Nat := 50

/-- The hits among entities in their order. -/
def collect (threshold : Value) (query : String) : List Entity → Outcome (List Hit)
  | [] => .ok []
  | entity :: rest => do
      let rating ← Match.measure threshold query entity.address.name
      let hits ← collect threshold query rest
      return if Binary64.zero.lt rating.score then ⟨entity, rating⟩ :: hits else hits

/-- All hits of a query, the best one first. -/
def ranked (snapshot : Snapshot) (threshold : Value) (query : String) : Outcome (List Hit) :=
  (collect threshold query snapshot.entities.rows).map (Order.sort Hit.precedes)

/-- The first hits of a query; without a limit all of them. -/
def measure (snapshot : Snapshot) (threshold : Value) (query : String) (limit : Option Nat) :
    Outcome SearchPage :=
  (ranked snapshot threshold query).map fun hits => {
    query := query
    total := hits.length
    hits := match limit with
      | some limit => hits.take limit
      | none => hits }

/-- The page that a request asks for. A missing limit asks for all hits. -/
def ofRequest (snapshot : Snapshot) (query limit threshold : Value) : Outcome SearchPage :=
  match Argument.text? query with
  | none => refuse .blankQuery
  | some query =>
      match limit with
      | .null => measure snapshot threshold query none
      | limit =>
          match Argument.positive? limit with
          | none => limit.whenShown (refuse (.limit limit.quoted))
          | some limit => measure snapshot threshold query (some limit)

def toValue (page : SearchPage) : Value := .object [
  ("query", .text page.query),
  ("total_matches", .int page.total),
  ("returned", .int page.hits.length),
  ("entities", .list (page.hits.map Hit.toValue))]

end SearchPage

end CodeGraph

import CodeGraph.Report.Neighbors
import CodeGraph.Report.Overview
import CodeGraph.Report.Search

/-!
This file holds the contents of answers. Most are reports; those that show relations or the metadata
of entities as fields of an object are kept apart, since names of fields may stand for numbers.
-/

namespace CodeGraph

/-- What a service finds for a question. -/
inductive Answer where
  | report (content : Value)
  | overview (figures : Overview)
  | entities (listed : List Entity)
  | entity (shown : Entity) (inbound outbound : Nat)
  | search (page : SearchPage)
  | callers (key : String) (relatives : List Relative)
  | callees (key : String) (relatives : List Relative)

namespace Answer

/-- A list of neighbors under its name. -/
def neighborList (name key : String) (relatives : List Relative) : Value := .object [
  ("entity", .text key),
  ("count", .int relatives.length),
  (name, .list (relatives.map Relative.toValue))]

/-- A list of entities with its length. -/
def entityList (listed : List Entity) : Value := .object [
  ("count", .int listed.length),
  ("entities", .list (listed.map Entity.toValue))]

/-- The answer as an object of a document. -/
def toValue : Answer → Value
  | .report content => content
  | .overview figures => figures.toValue
  | .entities listed => entityList listed
  | .entity shown inbound outbound => .object (shown.fields ++ [
      ("inbound_count", .int inbound),
      ("outbound_count", .int outbound)])
  | .search page => page.toValue
  | .callers key relatives => neighborList "callers" key relatives
  | .callees key relatives => neighborList "callees" key relatives

/-- The entities that are shown with their metadata. -/
def entitiesShown : Answer → List Entity
  | .entities listed => listed
  | .entity shown _ _ => [shown]
  | .search page => page.hits.map Hit.entity
  | .callers _ relatives | .callees _ relatives => relatives.map Relative.entity
  | .report _ | .overview _ => []

/-- The names that become names of fields. -/
def names : Answer → List Atom
  | .overview figures => figures.byRelation.map Prod.fst
  | answer => answer.entitiesShown.flatMap fun entity => entity.metadata.names

/-- All numbers in the answer have digits, also those that stand as names. -/
def isFinite (answer : Answer) : Bool :=
  answer.toValue.isFinite && answer.names.all Atom.isFinite

end Answer

end CodeGraph

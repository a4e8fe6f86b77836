import CodeGraph.Digest.Sha256
import CodeGraph.Snapshot.Basic

/-!
This file holds the content of a snapshot as one text, whose hash identifies the snapshot.
-/

namespace CodeGraph.Content

/-- The line of an entity. -/
def entityLine (entity : Entity) : Outcome (List Char) :=
  entity.metadata.canonicalText.bind fun metadata =>
    entity.filePath.whenShown <|
      .ok ("E|".toList ++ entity.key.toList ++ '|' :: (entity.filePath.shown.toList ++
        '|' :: (metadata ++ ['\n'])))

/-- The line of an edge. -/
def edgeLine (edge : Edge) : List Char :=
  "R|".toList ++ edge.source.text.toList ++ '|' :: (edge.target.text.toList ++
    '|' :: (edge.relation.toValue.shown.toList ++ ['\n']))

/-- The line of an edge whose relation can be shown. -/
def checkedEdgeLine (edge : Edge) : Outcome (List Char) :=
  edge.relation.toValue.whenShown (.ok (edgeLine edge))

/-- The line of a change set. -/
def changeLine (change : ChangeSet) : List Char :=
  "C|".toList ++ change.id.toList ++
    '|' :: ((Value.list (change.files.rows.map .text)).quotedText ++ ['\n'])

/-- The lines of all entities, edges and change sets, each kind in its order. -/
def text (entities : List Entity) (edges : List Edge) (changes : List ChangeSet) :
    Outcome (List Char) := do
  let entityLines ← entities.mapM entityLine
  let edgeLines ← edges.mapM checkedEdgeLine
  return entityLines.flatten ++ edgeLines.flatten ++ changes.flatMap changeLine

/-- An identifier has this many hexadecimal digits of the hash. -/
def identifierLength : Nat := 16

/-- The identifier of a content. -/
def identify (content : List Char) : String :=
  String.ofList ((Sha256.hexDigest (String.ofList content).toUTF8.toList).take identifierLength)

/-- The identifier of a snapshot with these parts. -/
def identifier (entities : List Entity) (edges : List Edge) (changes : List ChangeSet) :
    Outcome String :=
  (text entities edges changes).map identify

end CodeGraph.Content

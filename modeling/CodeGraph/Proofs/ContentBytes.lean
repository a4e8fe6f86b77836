import CodeGraph.Proofs.CommittedSnapshot
import CodeGraph.Proofs.OneLine
import CodeGraph.Proofs.Parts
import CodeGraph.Proofs.QuotedList
import CodeGraph.Text.Utf8

/-!
This file says how far the bytes that are hashed determine a snapshot. The lines of a content can be
told apart as long as no bar stands in its keys, paths and identifiers, and no line break in its
relations.
-/

namespace CodeGraph

section Lines

variable {α : Type} {tag : Char} {writes : α → List Char → Prop} {same : α → α → Prop}

/-- The lines of a kind of items begin with its tag. Two lines that stand at the same place of a
text are as long as each other and belong to items that are the same. -/
structure IsSelfDelimiting (tag : Char) (writes : α → List Char → Prop)
    (same : α → α → Prop) : Prop where
  tagged : ∀ item line, writes item line → ∃ rest, line = tag :: rest
  cut : ∀ first second line other rest more, writes first line → writes second other →
    line ++ rest = other ++ more → same first second ∧ rest = more

/-- No other tag stands in front of lines. -/
theorem IsSelfDelimiting.head_ne (delimiting : IsSelfDelimiting tag writes same)
    {items : List α} {lines : List (List Char)} (written : List.Forall₂ writes items lines)
    {other : Char} (apart : tag ≠ other) {rest : List Char} (behind : rest.head? ≠ some other) :
    (lines.flatten ++ rest).head? ≠ some other := by
  cases written with
  | nil => exact behind
  | cons first _ =>
      obtain ⟨more, rfl⟩ := delimiting.tagged _ _ first
      simpa using apart

/-- The lines of two lists of items that stand at the same place belong to items that are the same
one by one. -/
theorem IsSelfDelimiting.forall₂ (delimiting : IsSelfDelimiting tag writes same)
    {firsts seconds : List α} {lines others : List (List Char)}
    (former : List.Forall₂ writes firsts lines) (latter : List.Forall₂ writes seconds others)
    {rest more : List Char} (restApart : rest.head? ≠ some tag)
    (moreApart : more.head? ≠ some tag) (equal : lines.flatten ++ rest = others.flatten ++ more) :
    List.Forall₂ same firsts seconds ∧ rest = more := by
  induction former generalizing seconds others with
  | nil =>
      cases latter with
      | nil => exact ⟨.nil, equal⟩
      | cons second _ =>
          obtain ⟨behind, rfl⟩ := delimiting.tagged _ _ second
          exact absurd (congrArg List.head? equal) restApart
  | cons first _ inductionHypothesis =>
      cases latter with
      | nil =>
          obtain ⟨behind, rfl⟩ := delimiting.tagged _ _ first
          exact absurd (congrArg List.head? equal).symm moreApart
      | cons second latter =>
          rw [List.flatten_cons, List.flatten_cons, List.append_assoc, List.append_assoc] at equal
          obtain ⟨head, tails⟩ := delimiting.cut _ _ _ _ _ _ first second equal
          obtain ⟨others, ends⟩ := inductionHypothesis latter tails
          exact ⟨.cons head others, ends⟩

end Lines

namespace Content

/-- The key and the path hold no bar. -/
structure IsPlainEntity (entity : Entity) : Prop where
  key : '|' ∉ entity.key.toList
  path : ∃ path, entity.filePath = .text path ∧ '|' ∉ path.toList

/-- The keys of both ends hold no bar, and the relation stands on one line. -/
structure IsPlainEdge (edge : Edge) : Prop where
  source : '|' ∉ edge.source.text.toList
  target : '|' ∉ edge.target.text.toList
  relation : ∃ relation, edge.relation = .text relation ∧ IsOneLine relation.toList

/-- The entities have the same address and path, and metadata of the same canonical text. -/
structure SameEntity (first second : Entity) : Prop where
  address : first.address = second.address
  filePath : first.filePath = second.filePath
  metadata : first.metadata.canonicalText = second.metadata.canonicalText

/-- The line of a plain entity. -/
def WritesEntity (entity : Entity) (line : List Char) : Prop :=
  IsPlainEntity entity ∧ entityLine entity = .ok line

def WritesEdge (edge : Edge) (line : List Char) : Prop := IsPlainEdge edge ∧ edgeLine edge = line

/-- The line of a change set whose identifier holds no bar. -/
def WritesChange (change : ChangeSet) (line : List Char) : Prop :=
  '|' ∉ change.id.toList ∧ changeLine change = line

theorem writesEntity_isSelfDelimiting : IsSelfDelimiting 'E' WritesEntity SameEntity where
  tagged := by
    rintro entity line ⟨-, written⟩
    obtain ⟨metadata, -, -, rfl⟩ := entityLine_ok_iff.mp written
    exact ⟨_, rfl⟩
  cut := by
    rintro first second line other rest more ⟨firstPlain, firstWritten⟩ ⟨secondPlain, secondWritten⟩
      equal
    obtain ⟨metadata, canonical, -, rfl⟩ := entityLine_ok_iff.mp firstWritten
    obtain ⟨otherMetadata, otherCanonical, -, rfl⟩ := entityLine_ok_iff.mp secondWritten
    obtain ⟨path, isText, pathPlain⟩ := firstPlain.path
    obtain ⟨otherPath, otherIsText, otherPathPlain⟩ := secondPlain.path
    simp only [isText, otherIsText, Value.shown, List.append_assoc, List.cons_append,
      List.append_cancel_left_eq, List.nil_append] at equal
    obtain ⟨key, equal⟩ := Text.append_inj_of_notMem firstPlain.key secondPlain.key equal
    obtain ⟨paths, equal⟩ := Text.append_inj_of_notMem pathPlain otherPathPlain equal
    obtain ⟨metadatas, ends⟩ := Text.append_inj_of_notMem
      (Metadata.canonicalText_isOneLine canonical)
      (Metadata.canonicalText_isOneLine otherCanonical) equal
    refine ⟨⟨Address.text_injective (String.toList_inj.mp key), ?_, ?_⟩, ends⟩
    · rw [isText, otherIsText, String.toList_inj.mp paths]
    · rw [canonical, otherCanonical, metadatas]

theorem writesEdge_isSelfDelimiting : IsSelfDelimiting 'R' WritesEdge Eq where
  tagged := by
    rintro edge line ⟨-, rfl⟩
    exact ⟨_, rfl⟩
  cut := by
    rintro first second line other rest more ⟨firstPlain, rfl⟩ ⟨secondPlain, rfl⟩ equal
    obtain ⟨relation, isText, oneLine⟩ := firstPlain.relation
    obtain ⟨otherRelation, otherIsText, otherOneLine⟩ := secondPlain.relation
    simp only [edgeLine, isText, otherIsText, Atom.toValue, Value.shown, List.append_assoc,
      List.cons_append, List.append_cancel_left_eq, List.nil_append] at equal
    obtain ⟨sources, equal⟩ := Text.append_inj_of_notMem firstPlain.source secondPlain.source equal
    obtain ⟨targets, equal⟩ := Text.append_inj_of_notMem firstPlain.target secondPlain.target equal
    obtain ⟨relations, ends⟩ := Text.append_inj_of_notMem oneLine otherOneLine equal
    refine ⟨?_, ends⟩
    obtain ⟨source, target, _⟩ := first
    obtain ⟨otherSource, otherTarget, _⟩ := second
    cases isText
    cases otherIsText
    obtain rfl : source = otherSource := Address.text_injective (String.toList_inj.mp sources)
    obtain rfl : target = otherTarget := Address.text_injective (String.toList_inj.mp targets)
    obtain rfl := String.toList_inj.mp relations
    rfl

theorem writesChange_isSelfDelimiting : IsSelfDelimiting 'C' WritesChange Eq where
  tagged := by
    rintro change line ⟨-, rfl⟩
    exact ⟨_, rfl⟩
  cut := by
    rintro first second line other rest more ⟨firstPlain, rfl⟩ ⟨secondPlain, rfl⟩ equal
    simp only [changeLine, List.append_assoc, List.cons_append, List.append_cancel_left_eq,
      List.nil_append] at equal
    obtain ⟨ids, equal⟩ := Text.append_inj_of_notMem firstPlain secondPlain equal
    obtain ⟨files, ends⟩ := Value.quotedText_list_inj equal
    refine ⟨?_, (List.cons.inj ends).2⟩
    obtain ⟨id, ⟨rows, _⟩⟩ := first
    obtain ⟨otherId, ⟨otherRows, _⟩⟩ := second
    cases files
    cases String.toList_inj.mp ids
    rfl

theorem SameEntity.entityLine_eq {first second : Entity} (same : SameEntity first second) :
    entityLine first = entityLine second := by
  unfold entityLine Entity.key
  rw [same.address, same.filePath, same.metadata]

theorem mapM_entityLine {first second : List Entity}
    (same : List.Forall₂ SameEntity first second) :
    first.mapM entityLine = second.mapM entityLine := by
  induction same with
  | nil => rfl
  | cons head _ inductionHypothesis =>
      rw [List.mapM_cons, List.mapM_cons, head.entityLine_eq, inductionHypothesis]

end Content

namespace Snapshot

variable {first second snapshot : Snapshot}

/-- The bytes whose hash identifies the snapshot. -/
def contentBytes (snapshot : Snapshot) : Outcome ByteArray :=
  (Content.text snapshot.entities.rows snapshot.edges snapshot.changeSets.rows).map Utf8.encode

/-- The content of a committed snapshot was hashed. -/
theorem IsCommitted.exists_contentBytes (committed : snapshot.IsCommitted) :
    ∃ bytes, snapshot.contentBytes = .ok bytes ∧ snapshot.id =
      String.ofList ((Sha256.hexDigest bytes.toList).take Content.identifierLength) := by
  obtain ⟨builder, -, now, createdAt, made⟩ := committed
  obtain ⟨-, -, shown, -⟩ := Builder.commit_ok made
  obtain ⟨content, written, identified⟩ := Outcome.map_ok shown.identified
  refine ⟨Utf8.encode content, ?_, identified.symm⟩
  rw [contentBytes, written]
  rfl

/-- No bar stands in keys, paths and identifiers, and no line break in relations. -/
structure IsPlain (snapshot : Snapshot) : Prop where
  entities : ∀ entity ∈ snapshot.entities.rows, Content.IsPlainEntity entity
  relations : ∀ edge ∈ snapshot.edges,
    ∃ relation, edge.relation = .text relation ∧ IsOneLine relation.toList
  changes : ∀ change ∈ snapshot.changeSets.rows, '|' ∉ change.id.toList

/-- The ends of edges are entities, so their keys are as plain. -/
theorem IsPlain.edge (plain : snapshot.IsPlain) {edge : Edge} (member : edge ∈ snapshot.edges) :
    Content.IsPlainEdge edge := by
  obtain ⟨⟨source, sourceMember, sourceSame⟩, ⟨target, targetMember, targetSame⟩⟩ :=
    entity_of_endpoint member
  exact ⟨sourceSame ▸ (plain.entities source sourceMember).key,
    targetSame ▸ (plain.entities target targetMember).key, plain.relations edge member⟩

/-- Two snapshots show the same entities, edges and change sets. -/
structure SameParts (first second : Snapshot) : Prop where
  entities : List.Forall₂ Content.SameEntity first.entities.rows second.entities.rows
  edges : first.edges = second.edges
  changeSets : first.changeSets = second.changeSets

/-- The content of a plain snapshot consists of the lines of its parts, kind by kind. -/
theorem IsPlain.exists_lines (plain : snapshot.IsPlain) {content : List Char}
    (written : Content.text snapshot.entities.rows snapshot.edges snapshot.changeSets.rows =
      .ok content) :
    ∃ entities edges changes,
      List.Forall₂ Content.WritesEntity snapshot.entities.rows entities ∧
      List.Forall₂ Content.WritesEdge snapshot.edges edges ∧
      List.Forall₂ Content.WritesChange snapshot.changeSets.rows changes ∧
      content = entities.flatten ++ (edges.flatten ++ (changes.flatten ++ [])) := by
  obtain ⟨entities, made, -, rfl⟩ := Content.text_ok_iff.mp written
  refine ⟨entities, snapshot.edges.map Content.edgeLine,
    snapshot.changeSets.rows.map Content.changeLine, ?_, ?_, ?_, ?_⟩
  · exact (List.forall₂_and_left _ _).mpr ⟨plain.entities, Outcome.mapM_ok made⟩
  · refine List.forall₂_map_right_iff.mpr (List.forall₂_same.mpr fun edge member => ?_)
    exact ⟨plain.edge member, rfl⟩
  · refine List.forall₂_map_right_iff.mpr (List.forall₂_same.mpr fun change member => ?_)
    exact ⟨plain.changes change member, rfl⟩
  · simp [List.flatMap_def, List.append_assoc]

/-- Plain snapshots with one content have the same parts. -/
theorem IsPlain.sameParts (firstPlain : first.IsPlain) (secondPlain : second.IsPlain)
    {content : List Char}
    (former : Content.text first.entities.rows first.edges first.changeSets.rows = .ok content)
    (latter : Content.text second.entities.rows second.edges second.changeSets.rows = .ok content) :
    first.SameParts second := by
  obtain ⟨entities, edges, changes, entityLines, edgeLines, changeLines, rfl⟩ :=
    firstPlain.exists_lines former
  obtain ⟨entities', edges', changes', entityLines', edgeLines', changeLines', equal⟩ :=
    secondPlain.exists_lines latter
  have noLine (tag : Char) : ([] : List Char).head? ≠ some tag := nofun
  -- Lines of later kinds begin with other tags, so the lines of each kind end where those begin.
  have noEdge {lines : List (List Char)} {rows : List ChangeSet}
      (written : List.Forall₂ Content.WritesChange rows lines) :
      (lines.flatten ++ []).head? ≠ some 'R' :=
    Content.writesChange_isSelfDelimiting.head_ne written (by decide) (noLine 'R')
  have noEntity {lines more : List (List Char)} {rows : List Edge} {behind : List ChangeSet}
      (written : List.Forall₂ Content.WritesEdge rows lines)
      (further : List.Forall₂ Content.WritesChange behind more) :
      (lines.flatten ++ (more.flatten ++ [])).head? ≠ some 'E' :=
    Content.writesEdge_isSelfDelimiting.head_ne written (by decide)
      (Content.writesChange_isSelfDelimiting.head_ne further (by decide) (noLine 'E'))
  obtain ⟨sameEntities, equal⟩ := Content.writesEntity_isSelfDelimiting.forall₂ entityLines
    entityLines' (noEntity edgeLines changeLines) (noEntity edgeLines' changeLines') equal
  obtain ⟨sameEdges, equal⟩ := Content.writesEdge_isSelfDelimiting.forall₂ edgeLines edgeLines'
    (noEdge changeLines) (noEdge changeLines') equal
  obtain ⟨sameChanges, -⟩ := Content.writesChange_isSelfDelimiting.forall₂ changeLines changeLines'
    (noLine 'C') (noLine 'C') equal
  refine ⟨sameEntities, List.forall₂_eq_eq_eq ▸ sameEdges, ?_⟩
  have rows : first.changeSets.rows = second.changeSets.rows := List.forall₂_eq_eq_eq ▸ sameChanges
  exact Table.eq_of_mem_rows_iff fun change => by rw [rows]

/-- Snapshots with the same parts have one content. -/
theorem SameParts.text_eq (same : first.SameParts second) :
    Content.text first.entities.rows first.edges first.changeSets.rows =
      Content.text second.entities.rows second.edges second.changeSets.rows := by
  obtain ⟨entities, edges, changeSets⟩ := same
  rw [Content.text, Content.text, Content.mapM_entityLine entities, edges, changeSets]

/-- The hashed bytes of plain committed snapshots are equal exactly if the snapshots have the same
parts. -/
theorem contentBytes_eq_iff (firstCommitted : first.IsCommitted)
    (secondCommitted : second.IsCommitted) (firstPlain : first.IsPlain)
    (secondPlain : second.IsPlain) :
    ∃ bytes others, first.contentBytes = .ok bytes ∧ second.contentBytes = .ok others ∧
      (bytes = others ↔ first.SameParts second) := by
  obtain ⟨bytes, given, -⟩ := firstCommitted.exists_contentBytes
  obtain ⟨others, otherGiven, -⟩ := secondCommitted.exists_contentBytes
  refine ⟨bytes, others, given, otherGiven, ?_, ?_⟩
  · rintro rfl
    obtain ⟨content, written, encoded⟩ := Outcome.map_ok given
    obtain ⟨other, otherWritten, otherEncoded⟩ := Outcome.map_ok otherGiven
    have texts := congrArg Utf8.decode? (encoded.trans otherEncoded.symm)
    rw [Utf8.decode?_encode, Utf8.decode?_encode, Option.some.injEq] at texts
    exact firstPlain.sameParts secondPlain written (texts ▸ otherWritten)
  · intro same
    unfold contentBytes at given otherGiven
    rw [same.text_eq, otherGiven] at given
    exact (Except.ok.inj given).symm

/-- A function with one tie to itself makes up a plain snapshot. -/
theorem exists_plain (relation : String) (filled : relation ≠ "")
    (oneLine : IsOneLine relation.toList) : ∃ snapshot : Snapshot, snapshot.IsCommitted ∧
      snapshot.IsPlain ∧ snapshot.edges = [recursiveEdge relation] := by
  obtain ⟨snapshot, committed, entities, edges, changes⟩ := exists_committed
    [recursiveEdge relation] (by simpa [recursiveEdge] using filled)
    (List.pairwise_singleton _ _) (fun edge member => List.mem_singleton.mp member ▸ ⟨rfl, rfl⟩)
  change snapshot.edges = [recursiveEdge relation] at edges
  refine ⟨snapshot, committed, ⟨fun entity member => ?_, fun edge member => ?_,
    fun change member => ?_⟩, edges⟩
  · rw [entities] at member
    rcases Builder.mem_materialized_iff.mp member with staged | ⟨-, inside, -, -, same⟩
    · exact absurd staged List.not_mem_nil
    · have address : entity.address = recursiveAddress := by
        simpa [Builder.ofEdges, Builder.endpoints, recursiveEdge] using inside
      refine ⟨?_, FilePath.unknown, congrArg Entity.filePath same, by decide⟩
      have digits : Decimal.naturalDigits 0 = ['0'] := Decimal.naturalDigits_small (by decide)
      rw [Entity.key, address, Address.toList_text_eq, Location.toList_rangeText]
      simp only [recursiveAddress, Location.firstLine, Location.lastLine, digits]
      decide
  · rw [edges, List.mem_singleton] at member
    exact ⟨relation, congrArg Edge.relation member, oneLine⟩
  · rw [changes] at member
    exact absurd member List.not_mem_nil

/-- The bytes of two snapshots differ if they differ in the relation of an edge. -/
theorem contentBytes_eq_iff_apart : ∃ first second : Snapshot,
    first.IsCommitted ∧ second.IsCommitted ∧ first.IsPlain ∧ second.IsPlain ∧
    ∃ bytes others, first.contentBytes = .ok bytes ∧ second.contentBytes = .ok others ∧
      bytes ≠ others := by
  obtain ⟨first, firstCommitted, firstPlain, firstEdges⟩ := exists_plain "calls"
    (by decide) (by unfold IsOneLine; decide)
  obtain ⟨second, secondCommitted, secondPlain, secondEdges⟩ := exists_plain "uses"
    (by decide) (by unfold IsOneLine; decide)
  obtain ⟨bytes, others, given, otherGiven, same⟩ :=
    contentBytes_eq_iff firstCommitted secondCommitted firstPlain secondPlain
  refine ⟨first, second, firstCommitted, secondCommitted, firstPlain, secondPlain, bytes, others,
    given, otherGiven, fun equal => ?_⟩
  have edges := (same.mp equal).edges
  rw [firstEdges, secondEdges] at edges
  exact absurd edges (by decide)

/-- The text ends one line and spells the next one up to its relation. -/
def splitRelation : String :=
  "calls\nR|" ++ recursiveAddress.text ++ "|" ++ recursiveAddress.text ++ "|uses"

/-- Two edges and a single one are hashed as the same bytes if the relation of the single one spells
both lines. -/
theorem contentBytes_collide : ∃ first second : Snapshot,
    first.IsCommitted ∧ second.IsCommitted ∧
    (∀ entity ∈ first.entities.rows ++ second.entities.rows, entity.metadata.IsNamed) ∧
    first.edges ≠ second.edges ∧ first.contentBytes = second.contentBytes := by
  obtain ⟨first, firstCommitted, firstEntities, firstEdges, firstChanges⟩ := exists_committed
    [recursiveEdge "calls", recursiveEdge "uses"] (by simp [recursiveEdge])
    (by unfold Edge.Differs; decide) (by decide)
  obtain ⟨second, secondCommitted, secondEntities, secondEdges, secondChanges⟩ := exists_committed
    [recursiveEdge splitRelation] (by simp [recursiveEdge, splitRelation])
    (List.pairwise_singleton _ _) (fun edge member => List.mem_singleton.mp member ▸ ⟨rfl, rfl⟩)
  have sorted : Order.sort Edge.precedes [recursiveEdge "calls", recursiveEdge "uses"] =
      [recursiveEdge "calls", recursiveEdge "uses"] := by decide
  rw [sorted] at firstEdges
  change second.edges = [recursiveEdge splitRelation] at secondEdges
  have entities : first.entities = second.entities := by
    rw [firstEntities, secondEntities]
    refine Table.eq_of_find? fun name => ?_
    rw [Builder.find?_materialized, Builder.find?_materialized]
    have firstEnds : Builder.endpoints (Builder.ofEdges [recursiveEdge "calls",
        recursiveEdge "uses"]).edges = List.replicate 4 recursiveAddress := rfl
    have secondEnds : Builder.endpoints (Builder.ofEdges [recursiveEdge splitRelation]).edges =
        List.replicate 2 recursiveAddress := rfl
    rw [firstEnds, secondEnds, List.find?_replicate, List.find?_replicate]
    rfl
  refine ⟨first, second, firstCommitted, secondCommitted, ?_, ?_, ?_⟩
  · rw [← entities, firstEntities]
    intro entity member
    rw [List.mem_append, or_self] at member
    rcases Builder.mem_materialized_iff.mp member with staged | ⟨-, -, -, -, same⟩
    · exact absurd staged List.not_mem_nil
    · rw [same]
      exact Metadata.empty_serialisable.named
  · rw [firstEdges, secondEdges]
    simp
  · have lines : [recursiveEdge "calls", recursiveEdge "uses"].flatMap Content.edgeLine =
        [recursiveEdge splitRelation].flatMap Content.edgeLine := by
      simp [Content.edgeLine, recursiveEdge, splitRelation, Atom.toValue, Value.shown,
        String.toList_append]
    have named (relation : String) : (recursiveEdge relation).IsNamed := ⟨relation, rfl⟩
    unfold contentBytes
    rw [entities, firstEdges, secondEdges, Content.text_named (by simp [named]),
      Content.text_named (by simp [named]), lines, firstChanges, secondChanges]

end Snapshot

end CodeGraph

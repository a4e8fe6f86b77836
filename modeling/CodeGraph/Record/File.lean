import CodeGraph.Disk.Basic
import CodeGraph.Record.Feed
import CodeGraph.Text.Utf8

/-!
This file reads the records of a file. It holds either one document or one record on each line, as
the ending of its name says.
-/

namespace CodeGraph.Feed

/-- The endings of the names of files with one record on each line. -/
def lineEndings : List String := [".jsonl", ".ndjson"]

/-- Case does not count in the ending of a name. -/
def holdsLines (path : String) : Bool :=
  lineEndings.any fun ending => ending.toList.isSuffixOf (Text.lower path.toList)

/-- A carriage return ends a line, also together with the newline behind it. -/
def unifyNewlines : List Char → List Char
  | [] => []
  | '\r' :: '\n' :: rest => '\n' :: unifyNewlines rest
  | c :: rest => (if c = '\r' then '\n' else c) :: unifyNewlines rest

/-- The lines of a text; behind the last newline stands one more line. -/
def textLines (text : List Char) : List (List Char) := Text.split '\n' (unifyNewlines text)

/-- A line is complete when a newline stands behind it. A carriage return at the very end could be
the first half of a newline. -/
def completeLines (text : List Char) : List (List Char) :=
  (textLines (if text.getLast? = some '\r' then text.dropLast else text)).dropLast

/-- Files of lines are read in chunks of so many bytes. -/
def chunkSize : Nat := 8192

/-- The text of the first chunks up to one that cannot be decoded. -/
def textOfChunks (content : ByteArray) : Nat → List Char
  | 0 => []
  | count + 1 =>
      match Utf8.decodeStart? (content.extract 0 ((count + 1) * chunkSize)) with
      | some text => text
      | none => textOfChunks content count

/-- The records of the lines of a file. Bytes that cannot be decoded are met only behind the lines
of the chunks before them. -/
def ofLineBytes (content : ByteArray) : Feed :=
  match Utf8.decode? content with
  | some text => ofLines (textLines text)
  | none =>
      (ofLines (completeLines (textOfChunks content (content.size / chunkSize + 1)))).append
        (failing (.defect .undecodableText))

/-- The records of a document that stands in a file. -/
def ofDocumentBytes (path : String) (content : ByteArray) : Feed :=
  match Utf8.decode? content with
  | none => failing (.defect .undecodableText)
  | some text =>
      match Json.readDocument (.refused (.fileNotJson path)) text with
      | .ok document => ofDocument document
      | .error fault => failing fault

/-- The records of a file. -/
def ofFile (disk : Disk) (path : String) : Feed :=
  match disk.find? path with
  | none => failing (.storage (.recordsMissing path))
  | some (.directory _) => failing (.storage (.recordsUnreadable path))
  | some (.file content _) =>
      if holdsLines path then ofLineBytes content else ofDocumentBytes path content

end CodeGraph.Feed

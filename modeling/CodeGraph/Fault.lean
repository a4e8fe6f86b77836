import CodeGraph.Number.Decimal

/-!
This file holds the reasons for which an operation fails, and the wording of each. A fault is
either reported to the caller in an answer or it is a defect, which ends the operation at once.
-/

namespace CodeGraph

/-- The reasons for which a disk refuses an operation. -/
inductive DiskFault where
  | missing
  | isDirectory
  | notDirectory
  | occupied
  | nameTooLong
  /-- No path holds a null character. -/
  | nullCharacter
  /-- Too many directories in a row are to be made. -/
  | tooDeep
  deriving DecidableEq, Repr

/-- The fault lies with the program that names a path, not with what stands on the disk. -/
def DiskFault.isDefect : DiskFault → Bool
  | .nullCharacter | .tooDeep => true
  | _ => false

def DiskFault.message : DiskFault → String
  | .missing => "No such file or directory"
  | .isDirectory => "Is a directory"
  | .notDirectory => "Not a directory"
  | .occupied => "File exists"
  | .nameTooLong => "File name too long"
  | .nullCharacter => "embedded null byte"
  | .tooDeep => "maximum recursion depth exceeded"

/-- A value that has the wrong shape for a place where no check was made, or a disk that refuses an
operation where no check was made. -/
inductive Defect where
  | notIterable (typeName : String)
  | fieldOfNonObject (typeName : String)
  | notInteger (typeName : String)
  | notNumber (typeName : String)
  | badInteger (quoted : String)
  | badNumber (quoted : String)
  | nanToInteger
  | infinityToInteger
  | integerTooLarge
  | quotientTooLarge
  | tooManyDigits
  | tooDeep
  | notPair (position : Nat)
  | badPair (position length : Nat)
  | unhashable (typeName : String)
  | wrongCount (expected : Nat)
  | noAttribute (typeName member : String)
  | incomparable (operator left right : String)
  | badSlice
  | notPath (typeName : String)
  | badArguments
  | undecodableText
  | unpairedSurrogate
  | disk (fault : DiskFault)
  deriving DecidableEq, Repr

/-- The classes of defects that a caller can tell apart. -/
inductive DefectClass where
  | wrongType
  | wrongValue
  | overflow
  | missingAttribute
  | undecodable
  | unencodable
  | tooDeep
  | disk (fault : DiskFault)
  deriving DecidableEq, Repr

def Defect.defectClass : Defect → DefectClass
  | .notIterable _ | .fieldOfNonObject _ | .notInteger _ | .notNumber _ | .notPair _
  | .unhashable _ | .incomparable _ _ _ | .badSlice | .notPath _ | .badArguments => .wrongType
  | .badInteger _ | .badNumber _ | .nanToInteger | .tooManyDigits | .badPair _ _
  | .wrongCount _ => .wrongValue
  | .infinityToInteger | .integerTooLarge | .quotientTooLarge => .overflow
  | .noAttribute _ _ => .missingAttribute
  | .undecodableText => .undecodable
  | .unpairedSurrogate => .unencodable
  | .tooDeep => .tooDeep
  | .disk .nullCharacter => .wrongValue
  | .disk .tooDeep => .tooDeep
  | .disk fault => .disk fault

def Defect.message : Defect → String
  | .notIterable typeName => "'" ++ typeName ++ "' object is not iterable"
  | .fieldOfNonObject typeName => "'" ++ typeName ++ "' object has no fields"
  | .notInteger typeName =>
      "int() argument must be a string, a bytes-like object or a real number, not '" ++
        typeName ++ "'"
  | .notNumber typeName =>
      "float() argument must be a string or a real number, not '" ++ typeName ++ "'"
  | .badInteger quoted => "invalid literal for int() with base 10: " ++ quoted
  | .badNumber quoted => "could not convert string to float: " ++ quoted
  | .nanToInteger => "cannot convert float NaN to integer"
  | .infinityToInteger => "cannot convert float infinity to integer"
  | .integerTooLarge => "int too large to convert to float"
  | .quotientTooLarge => "integer division result too large for a float"
  | .tooManyDigits => "Exceeds the limit (4300 digits) for integer string conversion"
  | .tooDeep => "maximum recursion depth exceeded"
  | .notPair position =>
      "cannot convert dictionary update sequence element #" ++ Decimal.naturalText position ++
        " to a sequence"
  | .badPair position length =>
      "dictionary update sequence element #" ++ Decimal.naturalText position ++ " has length " ++
        Decimal.naturalText length ++ "; 2 is required"
  | .unhashable typeName => "unhashable type: '" ++ typeName ++ "'"
  | .wrongCount expected =>
      "wrong number of values to unpack (expected " ++ Decimal.naturalText expected ++ ")"
  | .noAttribute typeName member =>
      "'" ++ typeName ++ "' object has no attribute '" ++ member ++ "'"
  | .incomparable operator left right =>
      "'" ++ operator ++ "' not supported between instances of '" ++ left ++ "' and '" ++
        right ++ "'"
  | .badSlice => "slice indices must be integers or None or have an __index__ method"
  | .notPath typeName => "expected str, bytes or os.PathLike object, not " ++ typeName
  | .badArguments => "unexpected arguments"
  | .undecodableText => "invalid UTF-8"
  | .unpairedSurrogate => "surrogates not allowed"
  | .disk fault => fault.message

/-- The records of an extractor are of three kinds. -/
inductive RecordKind where
  | entity
  | edge
  | changeSet
  deriving DecidableEq, Repr

/-- The word that a record carries to name its kind. -/
def RecordKind.word : RecordKind → String
  | .entity => "entity"
  | .edge => "edge"
  | .changeSet => "change_set"

def RecordKind.all : List RecordKind := [.entity, .edge, .changeSet]

def RecordKind.ofWord? (word : String) : Option RecordKind :=
  RecordKind.all.find? fun kind => kind.word == word

/-- The kind of a record at the head of a message. -/
def RecordKind.title : RecordKind → String
  | .entity => "Entity record"
  | .edge => "Edge record"
  | .changeSet => "Change set record"

/-- A value in a request or a record that is refused. Texts are kept as the message shows them. -/
inductive Refusal where
  | language (shown : String)
  | entityKind (shown : String)
  | emptyPath
  | absolutePath (shown : String)
  | escapingPath (shown : String)
  | pathToken (token : String)
  | reservedToken
  | lineSpan (first last : Int)
  | entityName (quoted : String)
  | keyNotText
  | malformedKey (text : String)
  | malformedKeyRange (text : String)
  | externalKeyRange (text : String)
  | externalRange (name : String)
  | notExternal (key : String)
  | missingField (kind : RecordKind) (field : String)
  | lineRange (name quoted : String)
  | documentNotObject
  | lineNotJson (number : Nat)
  | lineKind (number : Nat)
  | fileNotJson (path : String)
  | batchSize (size : Int)
  | recordKind (quoted : String)
  | foreignEntity (typeName : String)
  | foreignEdge (typeName : String)
  | noRelation (source target : String)
  | positiveInteger (name shown : String)
  | number (name quoted : String)
  | required (name : String)
  | blankQuery
  | limit (quoted : String)
  | top (quoted : String)
  | hops (quoted : String)
  | direction (quoted : String)
  | threshold (quoted : String)
  | tokenBudget (quoted : String)
  | maxDepth (quoted : String)
  | environment (name value : String)
  deriving DecidableEq, Repr

def Refusal.message : Refusal → String
  | .language shown => "Unsupported language: '" ++ shown ++ "'"
  | .entityKind shown => "Unsupported entity type: '" ++ shown ++ "'"
  | .emptyPath => "file_path must not be empty"
  | .absolutePath shown => "file_path must be relative: '" ++ shown ++ "'"
  | .escapingPath shown => "file_path escapes the source root: '" ++ shown ++ "'"
  | .pathToken token => "Invalid path token: '" ++ token ++ "'"
  | .reservedToken => "'unknown' is reserved for external references"
  | .lineSpan first last =>
      "Invalid line range: " ++ Decimal.integerText first ++ "-" ++ Decimal.integerText last
  | .entityName quoted => "Invalid entity name: " ++ quoted
  | .keyNotText => "Entity key must be a non-empty string"
  | .malformedKey text => "Malformed entity key: '" ++ text ++ "'"
  | .malformedKeyRange text => "Malformed line range in entity key: '" ++ text ++ "'"
  | .externalKeyRange text => "External reference must use range 0-0: '" ++ text ++ "'"
  | .externalRange name => "External reference '" ++ name ++ "' must not carry a line range"
  | .notExternal key => "Key '" ++ key ++ "' is not an external reference"
  | .missingField kind field => kind.title ++ " is missing field '" ++ field ++ "'"
  | .lineRange name quoted => "Invalid line range for entity '" ++ name ++ "': " ++ quoted
  | .documentNotObject => "Record document must be a JSON object"
  | .lineNotJson line => "Invalid JSON on line " ++ Decimal.naturalText line ++ ": ..."
  | .lineKind line =>
      "Line " ++ Decimal.naturalText line ++
        ": 'record' must be one of ('entity', 'edge', 'change_set')"
  | .fileNotJson path => "Invalid JSON in " ++ path ++ ": ..."
  | .batchSize size => "batch_size must be positive, got " ++ Decimal.integerText size
  | .recordKind quoted => "Unknown record kind: " ++ quoted
  | .foreignEntity typeName => "Expected Entity, got " ++ typeName
  | .foreignEdge typeName => "Expected Edge, got " ++ typeName
  | .noRelation source target => "Edge " ++ source ++ " -> " ++ target ++ " has no relation"
  | .positiveInteger name shown => name ++ " must be a positive integer, got " ++ shown
  | .number name quoted => name ++ " must be a number, got " ++ quoted
  | .required name => name ++ " is required"
  | .blankQuery => "Search query must be a non-empty string"
  | .limit quoted => "limit must be a positive integer, got " ++ quoted
  | .top quoted => "top must be a positive integer, got " ++ quoted
  | .hops quoted => "hops must be a non-negative integer, got " ++ quoted
  | .direction quoted => "direction must be one of ('reverse', 'forward'), got " ++ quoted
  | .threshold quoted => "threshold must be in (0, 1], got " ++ quoted
  | .tokenBudget quoted => "token budget must be a positive integer, got " ++ quoted
  | .maxDepth quoted => "max_depth must be a positive integer, got " ++ quoted
  | .environment name value =>
      "Environment variable " ++ name ++ " has an invalid value: '" ++ value ++ "'"

/-- The reason why stored data are no snapshot. -/
inductive Malformation where
  | missingField (field : String)
  | refused (refusal : Refusal)
  | defect (cause : Defect)
  deriving DecidableEq, Repr

/-- The text of a defect is left out. -/
def Malformation.message : Malformation → String
  | .missingField field => "'" ++ field ++ "'"
  | .refused refusal => refusal.message
  | .defect _ => "..."

/-- A place where snapshots or records are kept does not answer as it should. -/
inductive StorageFault where
  | builderCommitted
  | malformedSnapshot (reason : Malformation)
  | checksumMismatch (stored computed : String)
  | recordsMissing (path : String)
  | recordsUnreadable (path : String)
  | readLock (path : String)
  | saveLock (path : String)
  | corruptSnapshot (path : String)
  | unreadableSnapshot (path : String)
  | snapshotNotObject (path : String)
  | directoryRefused (directory : String)
  | saveFailed (path : String)
  deriving DecidableEq, Repr

def StorageFault.message : StorageFault → String
  | .builderCommitted => "Snapshot builder has already been committed"
  | .malformedSnapshot reason => "Malformed snapshot data: " ++ reason.message
  | .checksumMismatch stored computed =>
      "Snapshot checksum mismatch: stored " ++ stored ++ ", computed " ++ computed
  | .recordsMissing path => "Record file not found: " ++ path
  | .recordsUnreadable path => "Could not read records from " ++ path ++ ": ..."
  | .readLock path => "Could not acquire lock to read " ++ path
  | .saveLock path => "Could not acquire lock to save snapshot to " ++ path
  | .corruptSnapshot path => "Corrupt snapshot file " ++ path ++ ": ..."
  | .unreadableSnapshot path => "Could not read snapshot file " ++ path ++ ": ..."
  | .snapshotNotObject path => "Snapshot file " ++ path ++ " does not contain an object"
  | .directoryRefused directory =>
      "Could not create storage directory " ++ directory ++ ": ..."
  | .saveFailed path => "Could not save snapshot to " ++ path ++ ": ..."

/-- Staged data that do not make up a snapshot. -/
inductive IntegrityFault where
  | conflictingEntities (key : String)
  | missingEndpoints (count : Nat) (quoted : List String)
  deriving DecidableEq, Repr

def IntegrityFault.message : IntegrityFault → String
  | .conflictingEntities key => "Conflicting entities for key '" ++ key ++ "'"
  | .missingEndpoints count quoted =>
      Decimal.naturalText count ++ " edge endpoint(s) missing from the entity set: " ++
        ", ".intercalate quoted

/-- The reasons for which an operation fails. -/
inductive Fault where
  | refused (refusal : Refusal)
  | entityNotFound (key : String)
  | storage (cause : StorageFault)
  | integrity (cause : IntegrityFault)
  | noSnapshot
  | defect (cause : Defect)
  deriving DecidableEq, Repr

namespace Fault

def message : Fault → String
  | .refused refusal => refusal.message
  | .entityNotFound key => "Entity '" ++ key ++ "' not found"
  | .storage cause => cause.message
  | .integrity cause => cause.message
  | .noSnapshot => "No snapshot has been indexed or loaded yet"
  | .defect cause => cause.message

/-- The storage is at fault, whatever the details. -/
def isStorage : Fault → Bool
  | .storage _ | .integrity _ | .noSnapshot => true
  | _ => false

def isDefect : Fault → Bool
  | .defect _ => true
  | _ => false

end Fault

/-- The result of an operation that may fail. -/
abbrev Outcome (α : Type) : Type := Except Fault α

def refuse {α : Type} (refusal : Refusal) : Outcome α := .error (.refused refusal)

def crash {α : Type} (cause : Defect) : Outcome α := .error (.defect cause)

end CodeGraph

/-!
# Events

What a run reports while it works. An event is a value; its level, its words and its fields
follow from it, so a run that reports nothing of a level can be stated without looking at text.
-/

namespace CrudScaffold

/-- How much an event matters. -/
inductive Level
  | debug
  | info
  | warn
  | error
deriving Repr, DecidableEq, Inhabited

/-- The stages of an assembly. -/
inductive Stage
  | idle
  | validating
  | generating
  | assembled
  | failed
deriving Repr, DecidableEq, Inhabited

/-- The word for a stage. -/
def Stage.name : Stage → String
  | .idle => "Idle"
  | .validating => "Validating"
  | .generating => "Generating"
  | .assembled => "Assembled"
  | .failed => "Failed"

/-- Something that is reported. -/
inductive Event
  /-- The assembly enters another stage. -/
  | stageChanged (before after : Stage)
  /-- Nothing usable is left of a class name, so the class is called by its position. -/
  | unusableClassName (classId raw fallback : String)
  /-- A relation names a class that is not in the diagram. -/
  | unknownEndpoint (relationId missingClass : String)
  /-- Two relationship fields of one class have the same name. -/
  | repeatedRelationshipField (classId field : String)
  /-- The work on a project begins. -/
  | generating (project : String) (classes relations : Nat)
  /-- Nothing usable is left of an attribute name. -/
  | unusableAttributeName (typeName raw : String)
  /-- An attribute has the field name of an earlier one. -/
  | repeatedAttribute (typeName raw fieldName : String)
  /-- An attribute has a type that is not known. -/
  | unknownTag (typeName fieldName : String)
  /-- An attribute is flagged as key after the first one that is. -/
  | extraKey (typeName fieldName : String)
  /-- An attribute called `id` serves as key because none is flagged. -/
  | idServesAsKey (typeName : String)
  /-- A file of the project is written. -/
  | projectArtifact (path : String)
  /-- A file of a class is written. -/
  | classArtifact (path : String)
  /-- A file replaces that of an earlier class with the same name. -/
  | repeatedTypeName (path typeName : String)
  /-- The tree of files is complete. -/
  | assembled (files : Nat)
  /-- The tree of files is packed. -/
  | archivePacked (files bytes : Nat) (archive : String)
  /-- An archive is in its place. -/
  | archiveDelivered (path : String) (bytes : Nat)
  /-- A diagram is in the store. -/
  | snapshotWritten (path : String)
deriving Repr, DecidableEq, Inhabited

namespace Event

/-- The value of a field of an event. -/
inductive Field
  | text (s : String)
  | count (n : Nat)
deriving Repr, DecidableEq

/-- The value of a field as text. -/
def Field.render : Field → String
  | .text s => s
  | .count n => toString n

/-- The level of an event. -/
def level : Event → Level
  | stageChanged .. | idServesAsKey .. | projectArtifact .. | classArtifact ..
  | snapshotWritten .. => .debug
  | generating .. | assembled .. | archivePacked .. | archiveDelivered .. => .info
  | unusableClassName .. | unknownEndpoint .. | repeatedRelationshipField ..
  | unusableAttributeName .. | repeatedAttribute .. | unknownTag .. | extraKey ..
  | repeatedTypeName .. => .warn

/-- The words of an event. -/
def message : Event → String
  | stageChanged .. => "assembler state"
  | unusableClassName .. => "class name has no usable characters"
  | unknownEndpoint .. => "relation references an unknown class, skipping"
  | repeatedRelationshipField .. => "two relationships produce the same field name"
  | generating .. => "generating project"
  | unusableAttributeName .. => "attribute name has no usable characters, skipping"
  | repeatedAttribute .. => "attribute normalizes to an existing field name, skipping"
  | unknownTag .. => "unknown type tag, generating as String"
  | extraKey .. => "more than one primary key flagged, treating as ordinary attribute"
  | idServesAsKey .. => "no primary key flagged, using the id attribute"
  | projectArtifact .. => "project artifact"
  | classArtifact .. => "class artifact"
  | repeatedTypeName .. => "two classes normalize to the same name, later one wins"
  | assembled .. => "project assembled"
  | archivePacked .. => "archive packed"
  | archiveDelivered .. => "archive delivered"
  | snapshotWritten .. => "snapshot written"

/-- The fields of an event in the order they are reported. -/
def fields : Event → List (String × Field)
  | stageChanged before after => [("from", .text before.name), ("to", .text after.name)]
  | unusableClassName classId raw fallback =>
    [("class_id", .text classId), ("raw", .text raw), ("fallback", .text fallback)]
  | unknownEndpoint relationId missingClass =>
    [("relation_id", .text relationId), ("missing_class", .text missingClass)]
  | repeatedRelationshipField classId field =>
    [("class_id", .text classId), ("field", .text field)]
  | generating project classes relations =>
    [("project", .text project), ("classes", .count classes), ("relations", .count relations)]
  | unusableAttributeName typeName raw => [("class", .text typeName), ("raw", .text raw)]
  | repeatedAttribute typeName raw fieldName =>
    [("class", .text typeName), ("raw", .text raw), ("attribute", .text fieldName)]
  | unknownTag typeName fieldName | extraKey typeName fieldName =>
    [("class", .text typeName), ("attribute", .text fieldName)]
  | idServesAsKey typeName => [("class", .text typeName)]
  | projectArtifact path | classArtifact path | snapshotWritten path => [("path", .text path)]
  | repeatedTypeName path typeName => [("path", .text path), ("class", .text typeName)]
  | assembled files => [("files", .count files)]
  | archivePacked files bytes archive =>
    [("files", .count files), ("bytes", .count bytes), ("archive", .text archive)]
  | archiveDelivered path bytes => [("path", .text path), ("bytes", .count bytes)]

/-- An event calls for the attention of the user. -/
def isWarning (e : Event) : Bool := e.level == .warn

end Event

end CrudScaffold

import CrudScaffold.Json.Value
import CrudScaffold.Snapshot.Basic

/-!
# The schema of diagrams

A JSON Schema of the texts that diagrams are read from. Every record has its own definition, and
the members of a record stand in the order of their names.
-/

namespace CrudScaffold.Schema

open Json

/-- The schema of a definition. -/
def reference (name : String) : String × Value := ("$ref", .string ("#/$defs/" ++ name))

/-- The schema of a text. -/
def text : Value := .object [("type", .string "string")]

/-- The schema of a text that has a description. -/
def described (description : String) : Value :=
  .object [("description", .string description), ("type", .string "string")]

/-- The schema of a flag that is off unless it is given. -/
def flag : Value := .object [("type", .string "boolean"), ("default", .bool false)]

/-- The schema of a list that is empty unless it is given. -/
def listOf (name : String) : Value :=
  .object [("type", .string "array"), ("default", .array []), ("items", .object [reference name])]

/-- The schema of a record. -/
def record (properties : List (String × Value)) (required : List String) : Value :=
  .object [("type", .string "object"), ("properties", .object properties),
    ("required", .array (required.map .string))]

/-- The words of a choice. -/
def words (ws : List String) : List (String × Value) :=
  [("type", .string "string"), ("enum", .array (ws.map .string))]

/-- All types of attributes. -/
def typeTags : List TypeTag :=
  [.string, .int, .long, .boolean, .float, .double, .date, .datetime, .decimal, .unknown]

/-- All kinds of relations. -/
def relationKinds : List RelationKind :=
  [.association, .associationNtoN, .inheritance, .aggregation, .composition, .dependency, .other]

/-- The schema of an attribute. -/
def attributeDef : Value :=
  record
    [("isPrimaryKey", flag), ("isRequired", flag),
      ("maxLength", .object [("type", .array [.string "integer", .string "null"]),
        ("format", .string "uint32"), ("minimum", .number 0)]),
      ("name", text),
      ("typeTag", .object [reference "TypeTag", ("default", .string (default : TypeTag).name)])]
    ["name"]

/-- The schema of a class. -/
def classDef : Value :=
  record
    [("attributes", listOf "AttributeDef"), ("id", described "Unique within one snapshot."),
      ("name", described "Free text as typed in the editor, e.g. \"Línea de Pedido\".")]
    ["id", "name"]

/-- The schema of a relation. -/
def relationDef : Value :=
  record
    [("associationClassId", .object [("type", .array [.string "string", .string "null"])]),
      ("id", text), ("sourceId", text), ("targetId", text),
      ("type", .object [reference "RelationKind"])]
    ["id", "sourceId", "targetId", "type"]

/-- What the schema says about types of attributes. -/
def typeTagDescription : String :=
  "Attribute type tags understood by the generator.\n\n" ++
    "Anything the editor sends that is not listed here deserializes as\n" ++
    "`Unknown` and is generated as text."

/-- The schema of a diagram. -/
def snapshot : Value :=
  .object [
    ("$schema", .string "https://json-schema.org/draft/2020-12/schema"),
    ("title", .string "Snapshot"),
    ("description",
      .string "The complete class/relation graph of one diagram at a point in time."),
    ("type", .string "object"),
    ("properties",
      .object [("classes", listOf "ClassDef"), ("relations", listOf "RelationDef")]),
    ("$defs", .object [
      ("AttributeDef", attributeDef),
      ("ClassDef", classDef),
      ("RelationDef", relationDef),
      ("RelationKind", .object (words (relationKinds.map RelationKind.name))),
      ("TypeTag", .object ([("description", .string typeTagDescription)] ++
        words (typeTags.map TypeTag.name)))])]

end CrudScaffold.Schema

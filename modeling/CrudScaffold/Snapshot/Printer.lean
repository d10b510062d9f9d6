import CrudScaffold.Json.Value
import CrudScaffold.Snapshot.Basic

/-!
# Writing diagrams

Records list their fields in declared order. A length or an association class that is not given
is left out.
-/

namespace CrudScaffold

open Json

/-- An attribute as a value. -/
def AttributeDef.toValue (a : AttributeDef) : Value :=
  .object ([("name", .string a.name), ("typeTag", .string a.typeTag.name),
    ("isPrimaryKey", .bool a.isPrimaryKey), ("isRequired", .bool a.isRequired)] ++
    match a.maxLength with
    | some n => [("maxLength", .number n.toNat)]
    | none => [])

/-- A class as a value. -/
def ClassDef.toValue (c : ClassDef) : Value :=
  .object [("id", .string c.id), ("name", .string c.name),
    ("attributes", .array (c.attributes.map AttributeDef.toValue))]

/-- A relation as a value. -/
def RelationDef.toValue (r : RelationDef) : Value :=
  .object ([("id", .string r.id), ("sourceId", .string r.sourceId),
    ("targetId", .string r.targetId), ("type", .string r.kind.name)] ++
    match r.associationClassId with
    | some id => [("associationClassId", .string id)]
    | none => [])

/-- A diagram as a value. -/
def Snapshot.toValue (s : Snapshot) : Value :=
  .object [("classes", .array (s.classes.map ClassDef.toValue)),
    ("relations", .array (s.relations.map RelationDef.toValue))]

/-- The text of a diagram as the store keeps it. -/
def Snapshot.toJson (s : Snapshot) : String := s.toValue.pretty

end CrudScaffold

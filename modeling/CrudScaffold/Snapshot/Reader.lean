import CrudScaffold.Json.Reader
import CrudScaffold.Snapshot.Basic

/-!
# Reading diagrams

The JSON form of a diagram. Members that no record declares are skipped, unknown tags and kinds
are kept as such, and the fields that have a default may be absent. `Snapshot.ofJson` is the
reader of a whole text.
-/

namespace CrudScaffold

open Json

/-- Reads a length. -/
def readLength (t : Tree) : Except Error UInt32 := (readNat32 t).map UInt32.ofNat

/-- The fields of an attribute that are known so far. -/
structure AttributeDraft where
  name : Option String := none
  typeTag : Option TypeTag := none
  isPrimaryKey : Option Bool := none
  isRequired : Option Bool := none
  maxLength : Option (Option UInt32) := none

/-- How an attribute is read. -/
def AttributeDef.record : Record AttributeDraft AttributeDef where
  expected := "struct AttributeDef"
  expectedLength := "struct AttributeDef with 5 elements"
  blank := {}
  member d name value :=
    match name with
    | "name" => return { d with name := ← once name d.name (readString value) }
    | "typeTag" =>
      return { d with typeTag := ← once name d.typeTag (readName TypeTag.ofName value) }
    | "isPrimaryKey" =>
      return { d with isPrimaryKey := ← once name d.isPrimaryKey (readBool value) }
    | "isRequired" => return { d with isRequired := ← once name d.isRequired (readBool value) }
    | "maxLength" =>
      return { d with maxLength := ← once name d.maxLength (readOption readLength value) }
    | _ => do
      skip value
      return d
  fields := ["name", "typeTag", "isPrimaryKey", "isRequired", "maxLength"]
  needed := 1
  finish d := do
    let name ← required "name" d.name
    return {
      name
      typeTag := d.typeTag.getD .string
      isPrimaryKey := d.isPrimaryKey.getD false
      isRequired := d.isRequired.getD false
      maxLength := d.maxLength.getD none }

/-- The fields of a class that are known so far. -/
structure ClassDraft where
  id : Option String := none
  name : Option String := none
  attributes : Option (List AttributeDef) := none

/-- How a class is read. -/
def ClassDef.record : Record ClassDraft ClassDef where
  expected := "struct ClassDef"
  expectedLength := "struct ClassDef with 3 elements"
  blank := {}
  member d name value :=
    match name with
    | "id" => return { d with id := ← once name d.id (readString value) }
    | "name" => return { d with name := ← once name d.name (readString value) }
    | "attributes" =>
      return { d with
        attributes := ← once name d.attributes (readList AttributeDef.record.read value) }
    | _ => do
      skip value
      return d
  fields := ["id", "name", "attributes"]
  needed := 2
  finish d := do
    let id ← required "id" d.id
    let name ← required "name" d.name
    return { id, name, attributes := d.attributes.getD [] }

/-- The fields of a relation that are known so far. -/
structure RelationDraft where
  id : Option String := none
  sourceId : Option String := none
  targetId : Option String := none
  kind : Option RelationKind := none
  associationClassId : Option (Option String) := none

/-- How a relation is read. -/
def RelationDef.record : Record RelationDraft RelationDef where
  expected := "struct RelationDef"
  expectedLength := "struct RelationDef with 5 elements"
  blank := {}
  member d name value :=
    match name with
    | "id" => return { d with id := ← once name d.id (readString value) }
    | "sourceId" => return { d with sourceId := ← once name d.sourceId (readString value) }
    | "targetId" => return { d with targetId := ← once name d.targetId (readString value) }
    | "type" => return { d with kind := ← once name d.kind (readName RelationKind.ofName value) }
    | "associationClassId" =>
      return { d with
        associationClassId := ← once name d.associationClassId (readOption readString value) }
    | _ => do
      skip value
      return d
  fields := ["id", "sourceId", "targetId", "type", "associationClassId"]
  needed := 4
  finish d := do
    let id ← required "id" d.id
    let sourceId ← required "sourceId" d.sourceId
    let targetId ← required "targetId" d.targetId
    let kind ← required "type" d.kind
    return { id, sourceId, targetId, kind, associationClassId := d.associationClassId.getD none }

/-- The fields of a diagram that are known so far. -/
structure SnapshotDraft where
  classes : Option (List ClassDef) := none
  relations : Option (List RelationDef) := none

/-- How a diagram is read. -/
def Snapshot.record : Record SnapshotDraft Snapshot where
  expected := "struct Snapshot"
  expectedLength := "struct Snapshot with 2 elements"
  blank := {}
  member d name value :=
    match name with
    | "classes" =>
      return { d with classes := ← once name d.classes (readList ClassDef.record.read value) }
    | "relations" =>
      return { d with
        relations := ← once name d.relations (readList RelationDef.record.read value) }
    | _ => do
      skip value
      return d
  fields := ["classes", "relations"]
  needed := 0
  finish d := return { classes := d.classes.getD [], relations := d.relations.getD [] }

/-- Reads a diagram from a text. -/
def Snapshot.ofJson (text : String) : Except Json.Error Snapshot := Snapshot.record.ofText text

end CrudScaffold

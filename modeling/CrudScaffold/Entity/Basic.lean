import CrudScaffold.Java.Types
import CrudScaffold.Relationship.Basic

/-!
# Entities

Everything that the files of one class need to know: its attributes under their field names, its
key and its relationship fields.

The attributes are surveyed once, in order. Each is kept or dropped, with the reason; the kept
ones become the attributes of the entity and the reasons become its notices. The first flagged
attribute is the key. If it is not kept, an attribute called `id` takes its place, and without
one the entity has a generated `Long id` of its own.
-/

namespace CrudScaffold

open Naming

/-- The field name of a key that no attribute provides. -/
def surrogateField : String := "id"

/-- An attribute under its field name. -/
structure Attribute where
  fieldName : String
  java : JavaType
  isPrimaryKey : Bool
  isRequired : Bool
  maxLength : Option UInt32
deriving Repr, DecidableEq, Inhabited

/-- The key of an entity. -/
structure PrimaryKey where
  fieldName : String
  java : JavaType
  /-- No attribute provides the key. -/
  synthesized : Bool
deriving Repr, DecidableEq, Inhabited

/-- The database generates keys that are integers. All others are assigned elsewhere. -/
def PrimaryKey.isGenerated (k : PrimaryKey) : Bool := k.java.isInteger

/-- A class as its files see it. -/
structure Entity where
  typeName : String
  package : String
  attributes : List Attribute
  primaryKey : PrimaryKey
  relationships : List RelationshipField
deriving Repr, DecidableEq, Inhabited

/-! ### The survey of attributes -/

/-- What becomes of an attribute of the diagram. -/
inductive Finding
  /-- Nothing usable is left of its name. -/
  | unusable (raw : String)
  /-- An earlier attribute has its field name. -/
  | repeated (raw fieldName : String)
  /-- It is kept. Its tag may be unknown, and it may be flagged after the first flagged one. -/
  | kept (a : Attribute) (unknownTag extraKey : Bool)
deriving Repr, DecidableEq

/-- Surveys attributes behind those with the field names `seen`. `flagged` says that one of
them is flagged as key, kept or not. -/
def survey (seen : List String) (flagged : Bool) : List AttributeDef → List Finding
  | [] => []
  | a :: rest =>
    let name := fieldName a.name
    let flagged' := flagged || a.isPrimaryKey
    if name.isEmpty then .unusable a.name :: survey seen flagged' rest
    else if name ∈ seen then .repeated a.name name :: survey seen flagged' rest
    else
      .kept {
          fieldName := name
          java := .ofTag a.typeTag
          isPrimaryKey := a.isPrimaryKey && !flagged
          isRequired := a.isRequired
          maxLength := a.maxLength }
        (a.typeTag == .unknown) (a.isPrimaryKey && flagged) ::
      survey (name :: seen) flagged' rest

/-- The attribute that a finding keeps. -/
def Finding.attribute? : Finding → Option Attribute
  | kept a _ _ => some a
  | _ => none

/-- What a finding gives reason to report. -/
def Finding.notices (typeName : String) : Finding → List Event
  | unusable raw => [.unusableAttributeName typeName raw]
  | repeated raw name => [.repeatedAttribute typeName raw name]
  | kept a unknownTag extraKey =>
    (if unknownTag then [.unknownTag typeName a.fieldName] else []) ++
      (if extraKey then [.extraKey typeName a.fieldName] else [])

/-! ### The key -/

/-- Makes the first attribute called `id` the key. -/
def promoteId : List Attribute → List Attribute
  | [] => []
  | a :: rest =>
    if a.fieldName = surrogateField then { a with isPrimaryKey := true } :: rest
    else a :: promoteId rest

/-- No attribute is the key, but one is called `id`. -/
def needsPromotion (attributes : List Attribute) : Bool :=
  !attributes.any (·.isPrimaryKey) && attributes.any (·.fieldName == surrogateField)

/-- The attributes with the key among them, if one of them can be it. -/
def chooseKey (attributes : List Attribute) : List Attribute :=
  if needsPromotion attributes then promoteId attributes else attributes

/-- The key that attributes provide, or the one that is added to them. -/
def keyOf (attributes : List Attribute) : PrimaryKey :=
  match attributes.find? (·.isPrimaryKey) with
  | some a => ⟨a.fieldName, a.java, false⟩
  | none => ⟨surrogateField, .surrogateKey, true⟩

namespace Entity

/-- The attributes of a class that are kept, as the diagram flags them. -/
def keptAttributes (c : ClassDef) : List Attribute :=
  (survey [] false c.attributes).filterMap Finding.attribute?

/-- The entity of a class. -/
def ofClass (c : ClassDef) (typeName : String) (relationships : List RelationshipField)
    (package : String) : Entity :=
  let attributes := chooseKey (keptAttributes c)
  { typeName, package, attributes, primaryKey := keyOf attributes, relationships }

/-- What there is to report about the attributes of a class. -/
def notices (c : ClassDef) (typeName : String) : List Event :=
  (survey [] false c.attributes).flatMap (Finding.notices typeName) ++
    (if needsPromotion (keptAttributes c) then [.idServesAsKey typeName] else [])

/-- The package of a layer. -/
def layerPackage (e : Entity) (layer : String) : String := s!"{e.package}.{layer}"

/-- The full name of a type in a layer. -/
def qualified (e : Entity) (layer typeName : String) : String := s!"{e.package}.{layer}.{typeName}"

/-- The route of the entity. -/
def resourcePath (e : Entity) : String := "/" ++ lowerFirst e.typeName

/-- The imports that the types of the attributes need. -/
def attributeImports (e : Entity) : List String := e.attributes.filterMap (·.java.imported)

/-- The import that the type of the key needs. -/
def keyImport (e : Entity) : List String := e.primaryKey.java.imported.toList

end Entity

end CrudScaffold

import CrudScaffold.Entity.Basic
import CrudScaffold.Java.Member

/-!
# The model

The persistent class of an entity. Its members are the added key, if there is one, the attributes
and the relationship fields, in this order, and each of them stands under the annotations that
map it.
-/

namespace CrudScaffold

open Naming

/-- An attribute as a member. -/
def Attribute.member (a : Attribute) : Member := ⟨a.java.name, a.fieldName⟩

/-- The key as a member. -/
def PrimaryKey.member (k : PrimaryKey) : Member := ⟨k.java.name, k.fieldName⟩

/-- The length that the column of an attribute is limited to. Only text has one. -/
def Attribute.textLimit (a : Attribute) : Option UInt32 :=
  if a.java.isText then a.maxLength else none

/-! ### Relationship fields -/

/-- A collection type and the class that implements it. -/
structure Collection where
  type : String
  implementation : String
deriving Repr, DecidableEq

namespace Collection

/-- A list that may hold an object twice. -/
def list : Collection := ⟨"List", "ArrayList"⟩

/-- A set. -/
def set : Collection := ⟨"Set", "HashSet"⟩

/-- The imports that a collection needs. -/
def imports (c : Collection) : List String :=
  ["java.util." ++ c.implementation, "java.util." ++ c.type]

end Collection

namespace RelationshipField

/-- The collection that holds the related objects. -/
def collection (f : RelationshipField) : Option Collection :=
  match f.kind with
  | .manyToOne => none
  | .oneToMany => some .list
  | .manyToMany => some .set

/-- The type of a field. -/
def type (f : RelationshipField) : String :=
  match f.collection with
  | some c => s!"{c.type}<{f.relatedType}>"
  | none => f.relatedType

/-- A relationship field as a member. -/
def member (f : RelationshipField) : Member := ⟨f.type, f.fieldName⟩

/-- The columns of the join table. A class that refers to one of its own name calls the second
column differently. -/
def joinColumns (ownType : String) (f : RelationshipField) : String × String :=
  let own := Text.lowercase ownType
  let other := Text.lowercase f.relatedType
  (own ++ "_id", if own = other then "related_" ++ other ++ "_id" else other ++ "_id")

/-- The field at the other end, as an annotation writes it. -/
def mappingField (f : RelationshipField) : String := f.mappedBy.getD ""

/-- The annotations of a relationship field. -/
def annotations (ownType : String) (f : RelationshipField) : List String :=
  match f.kind, f.side with
  | .manyToOne, _ => ["@ManyToOne", s!"@JoinColumn(name = \"{f.joinName}\")"]
  | .oneToMany, _ => [s!"@OneToMany(mappedBy = \"{f.mappingField}\")"]
  | .manyToMany, .owning =>
    let (own, other) := f.joinColumns ownType
    ["@ManyToMany",
      s!"@JoinTable(name = \"{f.joinName}\", joinColumns = @JoinColumn(name = \"{own}\"), "
        ++ s!"inverseJoinColumns = @JoinColumn(name = \"{other}\"))"]
  | .manyToMany, .inverse => [s!"@ManyToMany(mappedBy = \"{f.mappingField}\")"]

/-- The declaration of a relationship field. Collections are empty at first. -/
def declaration (f : RelationshipField) : String :=
  match f.collection with
  | some c => f.member.declarationWith c.implementation
  | none => f.member.declaration

/-- The imports that a relationship field needs. -/
def imports (f : RelationshipField) : List String :=
  match f.collection with
  | some c => c.imports
  | none => []

end RelationshipField

/-! ### Attributes -/

/-- What is required of the column of an attribute. -/
def Attribute.columnRules (a : Attribute) : List String :=
  (if a.isRequired then ["nullable = false"] else []) ++
    a.textLimit.toList.map fun n => s!"length = {n}"

/-- The annotation of the column of an attribute, if anything is required of it. -/
def Attribute.columnAnnotations (a : Attribute) : List String :=
  if a.columnRules.isEmpty then [] else ["@Column(" ++ ", ".intercalate a.columnRules ++ ")"]

/-- The annotations of the key. -/
def PrimaryKey.annotations (k : PrimaryKey) : List String :=
  "@Id" ::
    if k.isGenerated then ["@GeneratedValue(strategy = GenerationType.IDENTITY)"] else []

/-! ### The file -/

namespace Entity

/-- The key as a member of its own, if no attribute provides it. -/
def addedKey (e : Entity) : List PrimaryKey :=
  if e.primaryKey.synthesized then [e.primaryKey] else []

/-- The members of the model in the order they are declared. -/
def modelMembers (e : Entity) : List Member :=
  e.addedKey.map PrimaryKey.member ++ e.attributes.map Attribute.member ++
    e.relationships.map RelationshipField.member

/-- A declaration under its annotations, after a blank line. -/
def declared (annotations : List String) (declaration : String) : List Code :=
  .blank :: (annotations ++ [declaration]).map .line

/-- The declaration of an attribute of the model. -/
def modelAttribute (e : Entity) (a : Attribute) : List Code :=
  declared (if a.isPrimaryKey then e.primaryKey.annotations else a.columnAnnotations)
    a.member.declaration

/-- The imports of the model. -/
def modelImports (e : Entity) : List String :=
  "jakarta.persistence.*" :: e.attributeImports ++ e.keyImport ++
    e.relationships.flatMap RelationshipField.imports

/-- The body of the model. -/
def modelBody (e : Entity) : List Code :=
  e.addedKey.flatMap (fun k => declared k.annotations k.member.declaration) ++
    e.attributes.flatMap e.modelAttribute ++
    e.relationships.flatMap (fun f => declared (f.annotations e.typeName) f.declaration) ++
    [.blank, .braces s!"public {e.typeName}()" []] ++
    e.modelMembers.flatMap Member.accessors

/-- The file of the model. -/
def modelFile (e : Entity) : List Code :=
  preamble (e.layerPackage "model") e.modelImports ++
    [.line "@Entity", .braces s!"public class {e.typeName}" e.modelBody]

end Entity

end CrudScaffold

import CrudScaffold.Naming.ClassNames

/-!
# Relationships

What a relation of the diagram means for the classes at its two ends. A relation whose ends are
both known is a link. A link gives its source the owning field and its target the inverse one,
both computed from the same link, so the two always refer to each other.

Repeated relations of one kind between the same two classes are told apart by a number in the
names of both fields.
-/

namespace CrudScaffold

open Naming

/-- How many objects stand at the two ends of a field. -/
inductive RelationshipKind
  | manyToOne
  | oneToMany
  | manyToMany
deriving Repr, DecidableEq, Inhabited

/-- Which end of a link holds the mapping. -/
inductive Side
  | owning
  | inverse
deriving Repr, DecidableEq, Inhabited

/-- A field that a class has because of a link. -/
structure RelationshipField where
  ownerClassId : String
  kind : RelationshipKind
  side : Side
  relatedClassId : String
  relatedType : String
  fieldName : String
  /-- The foreign key column, or the join table of a many-to-many link. -/
  joinName : String
  /-- The field at the other end that owns the mapping. -/
  mappedBy : Option String
deriving Repr, DecidableEq, Inhabited

/-! ### Repeated relations -/

/-- Two relations of one kind from one class to another. -/
def RelationDef.repeats (a b : RelationDef) : Bool :=
  a.kind == b.kind && a.sourceId == b.sourceId && a.targetId == b.targetId

/-- Every relation with the number of earlier ones that it repeats. -/
def numberRepeats (earlier : List RelationDef) : List RelationDef → List (RelationDef × Nat)
  | [] => []
  | r :: rs => (r, earlier.countP r.repeats) :: numberRepeats (r :: earlier) rs

/-- The number in the names of a repeated relation, nothing for the first one. -/
def repeatSuffix (earlier : Nat) : String := if earlier = 0 then "" else toString (earlier + 1)

/-! ### Links -/

/-- A relation whose ends are both known. -/
structure Link where
  relation : RelationDef
  sourceType : String
  targetType : String
  suffix : String
deriving Repr, DecidableEq

/-- A relation as a link, if both its ends are classes. -/
def Link.of? (names : ClassNames) (r : RelationDef × Nat) : Option Link :=
  match names.typeName? r.1.sourceId, names.typeName? r.1.targetId with
  | some sourceType, some targetType => some ⟨r.1, sourceType, targetType, repeatSuffix r.2⟩
  | _, _ => none

/-- The links of a diagram in the order of its relations. -/
def Link.all (s : Snapshot) (names : ClassNames) : List Link :=
  (numberRepeats [] s.relations).filterMap (Link.of? names)

/-- The join table that an association class asks for: its own name, or its id if there is no
such class. -/
def associationTable (names : ClassNames) (r : RelationDef) : Option String :=
  r.associationClassId.map fun id =>
    match names.typeName? id with
    | some name => Text.lowercase name
    | none => id

/-- The join table of a relation. Without an association class it is called after its target
and its source. -/
def joinTableName (names : ClassNames) (r : RelationDef) : Option String :=
  match associationTable names r with
  | some table => some table
  | none =>
    match names.typeName? r.sourceId, names.typeName? r.targetId with
    | some source, some target => some (Text.lowercase target ++ "_" ++ Text.lowercase source)
    | _, _ => none

namespace Link

/-- The field that owns the mapping of an association. -/
def referenceName (l : Link) : String := lowerFirst l.targetType ++ l.suffix

/-- The field that owns the mapping of a many-to-many link. -/
def targetSetName (l : Link) : String := lowerFirst l.targetType ++ "Set" ++ l.suffix

/-- The join table of a many-to-many link, numbered like its fields. -/
def joinTable (names : ClassNames) (l : Link) : String :=
  let table := (associationTable names l.relation).getD
    (Text.lowercase l.targetType ++ "_" ++ Text.lowercase l.sourceType)
  if l.suffix.isEmpty then table else table ++ "_" ++ l.suffix

/-- The field that a link gives to its source. -/
def owningField (names : ClassNames) (l : Link) : Option RelationshipField :=
  match l.relation.kind with
  | .association => some {
      ownerClassId := l.relation.sourceId
      kind := .manyToOne
      side := .owning
      relatedClassId := l.relation.targetId
      relatedType := l.targetType
      fieldName := l.referenceName
      joinName := joinColumn l.referenceName
      mappedBy := none }
  | .associationNtoN => some {
      ownerClassId := l.relation.sourceId
      kind := .manyToMany
      side := .owning
      relatedClassId := l.relation.targetId
      relatedType := l.targetType
      fieldName := l.targetSetName
      joinName := l.joinTable names
      mappedBy := none }
  | _ => none

/-- The field that a link gives to its target. A many-to-many link of a class with itself has
the owning field only. -/
def inverseField (names : ClassNames) (l : Link) : Option RelationshipField :=
  match l.relation.kind with
  | .association => some {
      ownerClassId := l.relation.targetId
      kind := .oneToMany
      side := .inverse
      relatedClassId := l.relation.sourceId
      relatedType := l.sourceType
      fieldName := lowerFirst l.sourceType ++ "List" ++ l.suffix
      joinName := joinColumn l.referenceName
      mappedBy := some l.referenceName }
  | .associationNtoN =>
    if l.relation.isSelfRelation then none
    else some {
      ownerClassId := l.relation.targetId
      kind := .manyToMany
      side := .inverse
      relatedClassId := l.relation.sourceId
      relatedType := l.sourceType
      fieldName := lowerFirst l.sourceType ++ "Set" ++ l.suffix
      joinName := l.joinTable names
      mappedBy := some l.targetSetName }
  | _ => none

/-- The fields that a link gives to a class. -/
def fieldsOf (names : ClassNames) (classId : String) (l : Link) : List RelationshipField :=
  (if l.relation.sourceId = classId then (l.owningField names).toList else []) ++
    (if l.relation.targetId = classId then (l.inverseField names).toList else [])

/-- The fields that some links give to a class, in the order of the links. -/
def fieldsAmong (names : ClassNames) (links : List Link) (classId : String) :
    List RelationshipField :=
  links.flatMap (fieldsOf names classId)

end Link

/-- The relationship fields of a class, in the order of the relations. -/
def relationshipFields (classId : String) (s : Snapshot) (names : ClassNames) :
    List RelationshipField :=
  Link.fieldsAmong names (Link.all s names) classId

end CrudScaffold

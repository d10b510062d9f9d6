/-!
# Class diagrams

The graph of classes and relations of one diagram at a point in time. Classes are referred to
by id. Ids need not be unique and a relation may name a class that is not there; later stages
say what becomes of such cases.
-/

namespace CrudScaffold

/-- The type of an attribute as the diagram gives it. -/
inductive TypeTag
  | string
  | int
  | long
  | boolean
  | float
  | double
  | date
  | datetime
  | decimal
  | unknown
deriving Repr, DecidableEq, Inhabited

/-- The kind of a relation between two classes. -/
inductive RelationKind
  | association
  | associationNtoN
  | inheritance
  | aggregation
  | composition
  | dependency
  | other
deriving Repr, DecidableEq, Inhabited

/-- An attribute of a class. Lengths are below `2^32`. -/
structure AttributeDef where
  name : String
  typeTag : TypeTag := .string
  isPrimaryKey : Bool := false
  isRequired : Bool := false
  maxLength : Option UInt32 := none
deriving Repr, DecidableEq, Inhabited

/-- A class with its attributes in the order of the diagram. -/
structure ClassDef where
  id : String
  name : String
  attributes : List AttributeDef := []
deriving Repr, DecidableEq, Inhabited

/-- A directed relation between two classes. -/
structure RelationDef where
  id : String
  sourceId : String
  targetId : String
  kind : RelationKind
  associationClassId : Option String := none
deriving Repr, DecidableEq, Inhabited

/-- A class diagram. -/
structure Snapshot where
  classes : List ClassDef := []
  relations : List RelationDef := []
deriving Repr, DecidableEq, Inhabited

namespace TypeTag

/-- The spelling of a tag. -/
def name : TypeTag → String
  | .string => "string"
  | .int => "int"
  | .long => "long"
  | .boolean => "boolean"
  | .float => "float"
  | .double => "double"
  | .date => "date"
  | .datetime => "datetime"
  | .decimal => "decimal"
  | .unknown => "unknown"

/-- All tags in declared order. -/
def all : List TypeTag :=
  [.string, .int, .long, .boolean, .float, .double, .date, .datetime, .decimal, .unknown]

/-- The tag of a spelling. Every other spelling is `unknown`. -/
def ofName (s : String) : TypeTag := (all.find? (·.name == s)).getD .unknown

@[simp] theorem ofName_name (t : TypeTag) : ofName t.name = t := by cases t <;> decide

end TypeTag

namespace RelationKind

/-- The spelling of a kind. -/
def name : RelationKind → String
  | .association => "Association"
  | .associationNtoN => "AssociationNtoN"
  | .inheritance => "Inheritance"
  | .aggregation => "Aggregation"
  | .composition => "Composition"
  | .dependency => "Dependency"
  | .other => "Other"

/-- All kinds in declared order. -/
def all : List RelationKind :=
  [.association, .associationNtoN, .inheritance, .aggregation, .composition, .dependency, .other]

/-- The kind of a spelling. Every other spelling is `other`. -/
def ofName (s : String) : RelationKind := (all.find? (·.name == s)).getD .other

@[simp] theorem ofName_name (k : RelationKind) : ofName k.name = k := by cases k <;> decide

end RelationKind

/-- The attribute that acts as primary key: the first one that is flagged. -/
def ClassDef.primaryKey (c : ClassDef) : Option AttributeDef :=
  c.attributes.find? (·.isPrimaryKey)

/-- A relation of a class with itself. -/
def RelationDef.isSelfRelation (r : RelationDef) : Bool := r.sourceId == r.targetId

/-- A diagram without classes. -/
def Snapshot.isEmpty (s : Snapshot) : Bool := s.classes.isEmpty

end CrudScaffold

import CrudScaffold.Snapshot.Basic

/-!
# Java types of attributes

The type of a field, the import it needs, and the family that decides how keys and constraints
treat it.
-/

namespace CrudScaffold

/-- Families of Java types. -/
inductive TypeFamily
  | text
  | integer
  | floating
  | boolean
  | temporal
  | decimal
deriving Repr, DecidableEq, Inhabited

/-- A Java type with the import it needs, if any. -/
structure JavaType where
  name : String
  imported : Option String
  family : TypeFamily
deriving Repr, DecidableEq, Inhabited

/-- The word for a family. -/
def TypeFamily.name : TypeFamily → String
  | .text => "Text"
  | .integer => "Integer"
  | .floating => "Floating"
  | .boolean => "Boolean"
  | .temporal => "Temporal"
  | .decimal => "Decimal"

namespace JavaType

/-- Keys of these types are generated by the database. -/
def isInteger (t : JavaType) : Bool := t.family == .integer

/-- Fields of these types have a length and can be blank. -/
def isText (t : JavaType) : Bool := t.family == .text

/-- The type of an attribute. An unknown tag is kept as text. -/
def ofTag : TypeTag → JavaType
  | .string | .unknown => ⟨"String", none, .text⟩
  | .int => ⟨"Integer", none, .integer⟩
  | .long => ⟨"Long", none, .integer⟩
  | .boolean => ⟨"Boolean", none, .boolean⟩
  | .float => ⟨"Float", none, .floating⟩
  | .double => ⟨"Double", none, .floating⟩
  | .date => ⟨"LocalDate", some "java.time.LocalDate", .temporal⟩
  | .datetime => ⟨"LocalDateTime", some "java.time.LocalDateTime", .temporal⟩
  | .decimal => ⟨"BigDecimal", some "java.math.BigDecimal", .decimal⟩

/-- The type of a key that no attribute provides. -/
def surrogateKey : JavaType := ⟨"Long", none, .integer⟩

end JavaType

end CrudScaffold

import CrudScaffold.Text.Decomposition
import CrudScaffold.Text.Lowercase

/-!
# Names

Free text becomes names in two steps. The words of a text are its maximal runs of ASCII letters
and digits once accents are folded: the text is decomposed and its marks are dropped, so that
`Línea` keeps its letters and a mark never separates. Names are then built from the words:
type names by joining them with capital first letters, package paths by joining them in lower
case with dots.
-/

namespace CrudScaffold.Naming

open Text

/-! ### Words -/

/-- A text without accents. -/
def foldAccents (s : List Char) : List Char := (canonicalForm s).filter fun c => !isMark c

/-- The letters and digits that names are made of. -/
def isWordChar (c : Char) : Bool := c.isAlphanum

/-- The maximal runs of word characters, the first of them continuing `current`. -/
def runs (current : List Char) : List Char → List (List Char)
  | [] => if current.isEmpty then [] else [current]
  | c :: r =>
    if isWordChar c then runs (current ++ [c]) r
    else if current.isEmpty then runs [] r
    else current :: runs [] r

/-- The words of a text. -/
def words (text : String) : List (List Char) := runs [] (foldAccents text.toList)

/-! ### Case of the first letter -/

/-- A word with a capital first letter. -/
def capitalize : List Char → List Char
  | [] => []
  | c :: r => c.toUpper :: r

/-- A word with a small first letter. -/
def uncapitalize : List Char → List Char
  | [] => []
  | c :: r => c.toLower :: r

/-- A text with a capital first letter. -/
def upperFirst (s : String) : String := String.ofList (capitalize s.toList)

/-- A text with a small first letter. -/
def lowerFirst (s : String) : String := String.ofList (uncapitalize s.toList)

/-! ### Names -/

/-- `Línea de Pedido` becomes `LineaDePedido`. Nothing is left of a text without words. -/
def typeName (text : String) : String := String.ofList ((words text).flatMap capitalize)

/-- `Línea de Pedido` becomes `lineaDePedido`. -/
def fieldName (text : String) : String := lowerFirst (typeName text)

/-- `Mi Proyecto 2024` becomes `mi.proyecto.2024`. -/
def packagePath (text : String) : String :=
  String.ofList (List.intercalate ['.'] ((words text).map (·.map Char.toLower)))

/-- The directory of a package: `mi.proyecto` lives in `mi/proyecto`. -/
def packageDir (package : String) : String :=
  String.ofList (package.toList.map fun c => if c == '.' then '/' else c)

/-- The name of the method that reads a field. -/
def getter (field : String) : String := "get" ++ upperFirst field

/-- The name of the method that writes a field. -/
def setter (field : String) : String := "set" ++ upperFirst field

/-- The foreign key column of a field. -/
def joinColumn (field : String) : String := lowercase field ++ "_id"

end CrudScaffold.Naming

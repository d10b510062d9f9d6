/-!
# Source text

A source file is a list of lines and blocks. A block has an opening and a closing line, and what
it holds is set one step deeper, so opening and closing lines are balanced by construction.
Rendering to lines comes first; the text of a file is its lines with a line end behind each.
-/

namespace CrudScaffold

/-- A line of a source file, or a block of lines between an opening and a closing one. -/
inductive Code
  | line (text : String)
  | block (opening : String) (body : List Code) (closing : String)
deriving Repr, Inhabited

namespace Code

/-- A line without text. -/
def blank : Code := line ""

/-- A block in braces behind a header. -/
def braces (header : String) (body : List Code) : Code := block (header ++ " \x7b") body "\x7d"

/-- A markup element with its attributes. -/
def element (name : String) (body : List Code) (attributes : String := "") : Code :=
  block ("<" ++ name ++ attributes ++ ">") body ("</" ++ name ++ ">")

/-- A line at a level. A line without text has no indentation either. -/
def indented (level : Nat) (text : String) : String :=
  if text.isEmpty then "" else String.ofList (List.replicate (4 * level) ' ') ++ text

mutual

/-- The lines of a piece of code at a level. -/
def lines (level : Nat) : Code → List String
  | line text => [indented level text]
  | block opening body closing =>
    indented level opening :: linesOf (level + 1) body ++ [indented level closing]

/-- The lines of a list of code at a level. -/
def linesOf (level : Nat) : List Code → List String
  | [] => []
  | c :: cs => lines level c ++ linesOf level cs

end

/-- The text of a source file. -/
def render (code : List Code) : String := String.join ((linesOf 0 code).map (· ++ "\n"))

end Code

/-! ### Packages and imports -/

/-- Puts a name in its place in a sorted list without repetition. -/
def insertName (name : String) : List String → List String
  | [] => [name]
  | n :: rest =>
    if name < n then name :: n :: rest
    else if name = n then n :: rest
    else n :: insertName name rest

/-- The names of a list in order and without repetition. -/
def sortedNames (names : List String) : List String := names.foldr insertName []

/-- The head of a Java file: its package and its imports. -/
def preamble (package : String) (imports : List String) : List Code :=
  let imports := sortedNames imports
  [Code.line s!"package {package};"] ++
    (if imports.isEmpty then []
      else Code.blank :: imports.map fun i => Code.line s!"import {i};") ++
    [Code.blank]

end CrudScaffold

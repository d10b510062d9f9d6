/-!
# Paths

Paths as texts. A path is a row of names with slashes between them; one that begins with a slash
starts at the root, any other one at the working directory.
-/

namespace CrudScaffold.Path

/-- Parts a text at its slashes. -/
def splitChars : List Char → List (List Char)
  | [] => [[]]
  | c :: rest =>
    if c = '/' then [] :: splitChars rest
    else match splitChars rest with
      | name :: more => (c :: name) :: more
      | [] => [[c]]

/-- The names of a path, with an empty one where two slashes meet or one stands at an end. -/
def names (path : String) : List String := (splitChars path.toList).map String.ofList

/-- The path starts at the root. -/
def isAbsolute (path : String) : Bool := path.toList.head? == some '/'

/-- A path without the slashes at its end. The root keeps its own. -/
def unslashed (path : String) : String :=
  match path.toList.reverse.dropWhile (· == '/') with
  | [] => if isAbsolute path then "/" else path
  | c :: rest => String.ofList (c :: rest).reverse

/-- What a path leads to has its name at the end of the path. -/
def endsInName (path : String) : Bool :=
  match (names (unslashed path)).getLast? with
  | some name => name ≠ "" && name ≠ "." && name ≠ ".."
  | none => false

/-- The rows of names that lead to a path and to those above it, the longest first. A dot at the
end of the path belongs to its own row only. -/
def ways (path : String) : List (List String) :=
  let whole := (names path).filter (· ≠ "")
  let steps := whole.filter (· ≠ ".")
  whole :: (List.range steps.length).reverse.map steps.take

/-- The path of something below a directory. -/
def join (dir path : String) : String :=
  if isAbsolute path || dir.isEmpty then path
  else if dir.toList.getLast? = some '/' then dir ++ path
  else dir ++ "/" ++ path

/-- A name without its last ending. A dot at the start begins no ending. -/
def stem (name : String) : String :=
  match name.toList.reverse.dropWhile (· ≠ '.') with
  | _ :: c :: rest => String.ofList (c :: rest).reverse
  | _ => name

end CrudScaffold.Path

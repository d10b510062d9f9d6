import CrudScaffold.FileSystem.Basic
import CrudScaffold.Glob.Pattern

/-!
# Searching by pattern

Finds the places of a file system that fit to a pattern. Names without special characters are
looked up; any others are held against the names in a directory.
-/

namespace CrudScaffold.Glob

/-- The last name of a place. -/
def lastName (p : Place) : List Char := (p.getLast?.getD "").toList

/-- The places that tokens lead to from another one. -/
def next (fs : FileSystem) (tokens : List Token) (p : Place) : List Place :=
  match literal? tokens with
  | some name =>
    let name := String.ofList name
    match fs.step p name with
    | .ok q => if (fs.get? q).isSome then [q] else []
    | .error _ => []
  | none =>
    if fs.isDirectoryAt p then
      let named := (fs.children p).filter (fits tokens ·.toList)
      let special := if tokens.head? = some (.char '.') then
          (if fits tokens ['.'] then [p] else []) ++
            (if fits tokens ['.', '.'] then [p.dropLast] else [])
        else []
      named.map (p ++ [·]) ++ special
    else []

/-- The places that components lead to from another one. -/
def search (fs : FileSystem) : List Component → Place → List Place
  | [], p => [p]
  | [.anyNames], p => (fs.below p).filter fs.isDirectoryAt
  | .anyNames :: .anyNames :: rest, p => search fs (.anyNames :: rest) p
  | .anyNames :: .name tokens :: rest, p =>
    (fs.below p).flatMap fun q =>
      if fits tokens (lastName q) then search fs rest q else []
  | .name tokens :: rest, p => (next fs tokens p).flatMap (search fs rest)

/-- The places that fit to a pattern, or none if it is no pattern. -/
def find? (fs : FileSystem) (path : String) : Option (List Place) :=
  let relative := String.ofList (path.toList.dropWhile (· = '/'))
  (pattern? relative).map fun components => search fs components (fs.start path)

end CrudScaffold.Glob

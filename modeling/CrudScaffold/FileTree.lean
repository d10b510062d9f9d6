/-!
# File trees

The files of a project in the order they were first put in. A path is there once: putting in a
file at a path that is taken replaces its content and keeps its place. The place of every path is
kept beside the files, and all access by path goes through it.
-/

namespace CrudScaffold

/-- A file with its path. -/
structure File where
  path : String
  content : String
deriving Repr, DecidableEq, Inhabited

/-- Files by path, in the order of their first insertion. -/
structure FileTree where
  files : List File := []
  /-- The place of every path among the files, the last one first. -/
  places : List (String × Nat) := []
deriving Repr, DecidableEq, Inhabited

namespace FileTree

/-- The tree without files. -/
def empty : FileTree := {}

/-- The place of a path among the files. -/
def place? (t : FileTree) (path : String) : Option Nat := t.places.lookup path

/-- The content at a path. -/
def get? (t : FileTree) (path : String) : Option String :=
  (t.place? path).bind fun i => t.files[i]?.map File.content

/-- Puts a file into a tree. The content that it replaces is given back. -/
def put (t : FileTree) (path content : String) : Option String × FileTree :=
  match t.place? path with
  | some i =>
    (t.files[i]?.map File.content,
      { t with files := t.files.modify i fun f => { f with content } })
  | none =>
    (none,
      { files := t.files ++ [⟨path, content⟩], places := (path, t.files.length) :: t.places })

/-- A tree with one more file in it. -/
def insert (t : FileTree) (path content : String) : FileTree := (t.put path content).2

/-- The tree of a list of files that are put in one by one. -/
def ofList (files : List File) : FileTree :=
  files.foldl (fun t f => t.insert f.path f.content) empty

/-- The paths in order. -/
def paths (t : FileTree) : List String := t.files.map File.path

/-- The number of files. -/
def size (t : FileTree) : Nat := t.files.length

/-- There are no files. -/
def isEmpty (t : FileTree) : Bool := t.files.isEmpty

end FileTree

end CrudScaffold

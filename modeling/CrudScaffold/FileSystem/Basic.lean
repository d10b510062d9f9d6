import CrudScaffold.FileSystem.Path
import CrudScaffold.Text.Utf8

/-!
# File systems

Directories and plain files without links. A place in the tree is the row of names that leads to
it from the root. A path is looked up name by name, and every name but the last has to be the
name of a directory.
-/

namespace CrudScaffold

/-- Why an operation on files fails. -/
inductive FileError
  | missing
  | taken
  | notDirectory
  | isDirectory
  | busy
  | nameTooLong
  | zeroInName
  | notText
deriving Repr, DecidableEq

/-- The words of an error. -/
def FileError.message : FileError → String
  | missing => "No such file or directory (os error 2)"
  | taken => "File exists (os error 17)"
  | notDirectory => "Not a directory (os error 20)"
  | isDirectory => "Is a directory (os error 21)"
  | busy => "Device or resource busy (os error 16)"
  | nameTooLong => "File name too long (os error 36)"
  | zeroInName => "file name contained an unexpected NUL byte"
  | notText => "stream did not contain valid UTF-8"

/-- A place in the tree: the names that lead to it from the root. -/
abbrev Place := List String

/-- What stands at a place. -/
inductive Node
  | directory
  | file (content : Bytes)
deriving Repr, DecidableEq, Inhabited

/-- A tree of files, and the directory that relative paths start from. -/
structure FileSystem where
  nodes : List (Place × Node) := []
  here : Place := []
deriving Repr, Inhabited

namespace FileSystem

/-- What stands at a place. The root is always there. -/
def get? (fs : FileSystem) (p : Place) : Option Node :=
  if p = [] then some .directory else fs.nodes.lookup p

/-- Puts a node at a place of a list. -/
def placeNode (p : Place) (n : Node) : List (Place × Node) → List (Place × Node)
  | [] => [(p, n)]
  | (q, m) :: rest => if q = p then (p, n) :: rest else (q, m) :: placeNode p n rest

/-- Puts a node at a place. -/
def put (fs : FileSystem) (p : Place) (n : Node) : FileSystem :=
  { fs with nodes := placeNode p n fs.nodes }

/-- Takes away what stands at a place. -/
def erase (fs : FileSystem) (p : Place) : FileSystem :=
  { fs with nodes := fs.nodes.filter fun (q, _) => q ≠ p }

/-- The names in a directory. -/
def children (fs : FileSystem) (p : Place) : List String :=
  fs.nodes.filterMap fun (q, _) =>
    match q.getLast? with
    | some name => if q.dropLast = p then some name else none
    | none => none

/-- All places below another one. -/
def below (fs : FileSystem) (p : Place) : List Place :=
  fs.nodes.filterMap fun (q, _) => if p.isPrefixOf q && q ≠ p then some q else none

/-- There is a directory at a place. -/
def isDirectoryAt (fs : FileSystem) (p : Place) : Bool := fs.get? p == some .directory

/-! ### Looking up paths -/

/-- A name has at most this many bytes. -/
def longestName : Nat := 255

/-- The place that a name leads to from another one. -/
def step (fs : FileSystem) (p : Place) (name : String) : Except FileError Place :=
  match fs.get? p with
  | none => .error .missing
  | some (.file _) => .error .notDirectory
  | some .directory =>
    if name = "" ∨ name = "." then .ok p
    else if name = ".." then .ok p.dropLast
    else if longestName < name.utf8ByteSize then .error .nameTooLong
    else .ok (p ++ [name])

/-- Where a path starts. -/
def start (fs : FileSystem) (path : String) : Place := if Path.isAbsolute path then [] else fs.here

/-- The place of a path. There need not be anything. -/
def locate (fs : FileSystem) (path : String) : Except FileError Place :=
  if path.toList.contains '\x00' then .error .zeroInName
  else if path = "" then .error .missing
  else (Path.names path).foldlM fs.step (fs.start path)

/-- What a path leads to. -/
def find (fs : FileSystem) (path : String) : Except FileError Node := do
  match fs.get? (← fs.locate path) with
  | some n => .ok n
  | none => .error .missing

/-- A path leads to something. -/
def has (fs : FileSystem) (path : String) : Bool := (fs.find path).isOk

/-- A path leads to a file. -/
def hasFile (fs : FileSystem) (path : String) : Bool :=
  match fs.find path with
  | .ok (.file _) => true
  | _ => false

/-! ### Reading -/

/-- The content of a file. -/
def read (fs : FileSystem) (path : String) : Except FileError Bytes := do
  match ← fs.find path with
  | .file content => .ok content
  | .directory => .error .isDirectory

/-- The content of a file as text. -/
def readText (fs : FileSystem) (path : String) : Except FileError String := do
  match Text.ofBytes? (← fs.read path) with
  | some s => .ok s
  | none => .error .notText

/-! ### Working directories -/

/-- The files as they are seen from a directory. -/
def seenFrom (fs : FileSystem) (dir : Place) : FileSystem := { fs with here := dir }

/-- The working directory and the directories above it, the root last. -/
def outward (fs : FileSystem) : List Place :=
  (List.range (fs.here.length + 1)).reverse.map fs.here.take

end FileSystem

end CrudScaffold

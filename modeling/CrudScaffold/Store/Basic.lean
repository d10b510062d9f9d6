import CrudScaffold.FileSystem.Action
import CrudScaffold.Glob.Search
import CrudScaffold.Snapshot.Printer
import CrudScaffold.Snapshot.Reader
import CrudScaffold.Text.Blank

/-!
# The store

Diagrams are stored as files of one directory, each under its name. A name has to be a plain file
name. Storing publishes the file, so that a diagram is replaced as a whole or not at all.
-/

namespace CrudScaffold

/-- Why the store refuses a request. -/
inductive StoreError
  | file (e : FileError)
  | json (e : Json.Error)
  | pattern
  | invalidName (name : String)
  | notFound (name : String)
deriving Repr

/-- The words of an error with those of its cause behind it. -/
def StoreError.causes : StoreError → List String
  | file e => ["I/O error: " ++ e.message, e.message]
  | json e => ["Invalid snapshot JSON: " ++ e.message]
  | pattern => ["Invalid snapshot directory pattern"]
  | invalidName name => ["Invalid snapshot name '" ++ name ++ "': must be a plain file name"]
  | notFound name => ["Snapshot not found: " ++ name]

/-- The words of an error. -/
def StoreError.message (e : StoreError) : String := e.causes.headD ""

/-- A store of diagrams: the directory that holds them. -/
structure Store where
  dir : String
deriving Repr, DecidableEq

namespace Store

/-- The store of a home directory. -/
def ofHome (home : String) : Store := ⟨Path.join home ".blueprint"⟩

/-- A character that no name has. -/
def isForbidden (c : Char) : Bool := c == '/' || c == '\\' || c == '\x00'

/-- A name that a diagram can be stored under: not blank, without a dot at its start, and without
characters that lead to another directory. -/
def isValidName (name : String) : Bool :=
  !Text.isBlankText name && name.toList.head? != some '.' && !name.toList.any isForbidden

/-- Refuses names that are not valid. -/
def checkName (name : String) : Except StoreError Unit :=
  if isValidName name then .ok () else .error (.invalidName name)

/-- The file name of a diagram. -/
def fileName (name : String) : String := name ++ ".json"

/-- The file name of a diagram that is being written. -/
def draftName (name : String) : String := "." ++ name ++ ".json.tmp"

/-- The path of a diagram. -/
def path (s : Store) (name : String) : String := Path.join s.dir (fileName name)

/-- The names of all stored diagrams in order. -/
def list (s : Store) (fs : FileSystem) : Except StoreError (List String) :=
  if !fs.has s.dir then .ok []
  else match Glob.find? fs (Path.join s.dir "*.json") with
    | none => .error .pattern
    | some places =>
      let names := places.map fun p => Path.stem (p.getLast?.getD "")
      .ok ((names.filter fun n => n.toList.head? != some '.').mergeSort fun a b => decide (a ≤ b))

/-- The text of a stored diagram. -/
def readText (s : Store) (fs : FileSystem) (name : String) : Except StoreError String := do
  checkName name
  if fs.has (s.path name) then (fs.readText (s.path name)).mapError .file
  else .error (.notFound name)

/-- A stored diagram. -/
def read (s : Store) (fs : FileSystem) (name : String) : Except StoreError Snapshot := do
  (Snapshot.ofJson (← s.readText fs name)).mapError .json

/-- The steps that store a diagram. -/
def writeActions (s : Store) (name : String) (snapshot : Snapshot) :
    Except StoreError (List Action) := do
  checkName name
  return Action.publish s.dir (draftName name) (fileName name) (Text.bytes snapshot.toJson)

/-- The steps that remove a diagram, if it is there. -/
def deleteActions (s : Store) (fs : FileSystem) (name : String) :
    Except StoreError (List Action) := do
  checkName name
  return if fs.has (s.path name) then [.remove (s.path name)] else []

/-- Takes steps that the store asks for. -/
def carryOut (fs : FileSystem) :
    Except StoreError (List Action) → FileSystem × Except StoreError Unit
  | .error e => (fs, .error e)
  | .ok actions =>
    match Action.runAll fs actions with
    | (fs, none) => (fs, .ok ())
    | (fs, some e) => (fs, .error (.file e))

/-- Stores a diagram. -/
def write (s : Store) (fs : FileSystem) (name : String) (snapshot : Snapshot) :
    FileSystem × Except StoreError Unit :=
  carryOut fs (s.writeActions name snapshot)

/-- Removes a diagram, if it is there. -/
def delete (s : Store) (fs : FileSystem) (name : String) : FileSystem × Except StoreError Unit :=
  carryOut fs (s.deleteActions fs name)

end Store

/-- Reads a diagram from a file. -/
def Snapshot.ofFile (fs : FileSystem) (path : String) : Except StoreError Snapshot := do
  let text ← (fs.readText path).mapError .file
  (Snapshot.ofJson text).mapError .json

end CrudScaffold

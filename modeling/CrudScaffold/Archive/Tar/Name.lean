import CrudScaffold.Archive.Words

/-!
# Entry names

The name of an entry in an archive is a path without a root, without steps upward and without
empty or single-dot components. A name has to fit into its field; of a longer one the field holds
the beginning, and the whole is written in an entry of its own before.
-/

namespace CrudScaffold.Tar

/-- The size of the name field. -/
def nameLimit : Nat := 100

/-- The byte between the components of a path. -/
def slash : UInt8 := 0x2F

/-- The component that stands for the directory itself. -/
def here : Bytes := [0x2E]

/-- The component that stands for the directory above. -/
def above : Bytes := [0x2E, 0x2E]

/-- The parts of some bytes between slashes, the first of them continuing `current`. -/
def splitSlashes (current : Bytes) : Bytes → List Bytes
  | [] => [current]
  | b :: rest =>
    if b = slash then current :: splitSlashes [] rest else splitSlashes (current ++ [b]) rest

/-- The components of a path that are not empty. -/
def components (path : Bytes) : List Bytes := (splitSlashes [] path).filter (!·.isEmpty)

/-- The components that a name keeps. A path of dots alone keeps one. -/
def keptComponents (path : Bytes) : List Bytes :=
  let all := components path
  let named := all.filter (· ≠ here)
  if named.isEmpty then all.take 1 else named

/-- The components that must not lead upward. What stands last in a beginning may be the beginning
of something else. -/
def checkedComponents (beginning : Bool) (kept : List Bytes) : List Bytes :=
  if beginning then kept.dropLast else kept

/-- The name that a path has in an archive, if it can have one that fits. -/
def entryName? (beginning : Bool) (path : Bytes) : Option Bytes :=
  let kept := keptComponents path
  let name := List.intercalate [slash] kept ++ (if path.getLast? = some slash then [slash] else [])
  if path.head? = some slash ∨ kept = [] ∨ above ∈ checkedComponents beginning kept ∨ 0 ∈ name ∨
      nameLimit < name.length then none
  else some name

/-- The number of leading bytes of a path, `n` at most, that do not cut a character. -/
def wholeChars (path : Bytes) : Nat → Nat
  | 0 => 0
  | n + 1 =>
    match path[n + 1]? with
    | some b => if Text.isContinuation b then wholeChars path n else n + 1
    | none => n + 1

/-- The beginning of a path that is too long for the field. -/
def beginning (path : Bytes) : Bytes := path.take (wholeChars path nameLimit)

end CrudScaffold.Tar

import CrudScaffold.Archive.Basic
import CrudScaffold.FileSystem.Action

/-!
# Delivery

An archive is delivered into a directory, which is made if it is missing. The file has its name
only once it is complete.
-/

namespace CrudScaffold.Archive

/-- The file name of an archive that is being written. -/
def draftName (a : Archive) : String := "." ++ a.name ++ ".tmp"

/-- The path of an archive in a directory. -/
def path (a : Archive) (dir : String) : String := Path.join dir a.name

/-- The steps that deliver an archive. -/
def deliverActions (a : Archive) (dir : String) : List Action :=
  Action.publish dir a.draftName a.name a.bytes

/-- Delivers an archive into a directory. -/
def deliver (a : Archive) (fs : FileSystem) (dir : String) :
    FileSystem × Except FileError String :=
  match Action.runAll fs (a.deliverActions dir) with
  | (fs, none) => (fs, .ok (a.path dir))
  | (fs, some e) => (fs, .error e)

end CrudScaffold.Archive

import CrudScaffold.Archive.Tar.Reader
import CrudScaffold.Assembly

/-!
# Archives

A tree of files packed into one compressed archive, and read back in the same order. How the blocks
of the archive are compressed is left open: a compression is a parameter of whatever packs.
-/

namespace CrudScaffold

/-- Why an archive cannot be written or read. -/
inductive ArchiveError
  /-- The archive is damaged. -/
  | damaged
  /-- A file is at fault. -/
  | entry (path : String)
deriving Repr, DecidableEq

/-- An archive with the name it is delivered under. -/
structure Archive where
  name : String
  bytes : Bytes
deriving Repr, DecidableEq

/-- Packs a tree of files. -/
def FileTree.pack (t : FileTree) (compress : Bytes → Bytes) : Except ArchiveError Bytes :=
  match Tar.blocksOf t.files with
  | .ok blocks => .ok (compress blocks)
  | .error path => .error (.entry path)

/-- Reads a packed tree of files. -/
def FileTree.unpack (b : Bytes) : Except ArchiveError FileTree :=
  match Tar.files (Gzip.decompress b) with
  | .ok files => .ok (.ofList files)
  | .error .archive => .error .damaged
  | .error (.content path) => .error (.entry path)

/-- Why there is no archive. -/
inductive ArchiveFailure
  | generate (e : GenerateError)
  | pack (e : ArchiveError)
deriving Repr, DecidableEq

/-- Generates a project and packs it. -/
def generateArchive (compress : Bytes → Bytes) (s : Snapshot) (config : Config)
    (name : String) : Except ArchiveFailure Archive :=
  match generate s config name with
  | .error e => .error (.generate e)
  | .ok tree =>
    match tree.pack compress with
    | .ok bytes => .ok ⟨(Layout.ofName name).archiveName, bytes⟩
    | .error e => .error (.pack e)

end CrudScaffold

import CrudScaffold.Archive.Tar.Header
import CrudScaffold.Archive.Tar.Name
import CrudScaffold.FileTree

/-!
# Writing archives

Every file becomes a header and its content, filled up to whole blocks. Two blocks of zeros end
the archive.
-/

namespace CrudScaffold.Tar

/-- The kind of a plain file. -/
def plainKind : UInt8 := 0x30

/-- The kind of an entry that holds the name of the next one. -/
def longNameKind : UInt8 := 0x4C

/-- The name of an entry that holds the name of the next one. -/
def longNameTitle : Bytes := Text.bytes "././@LongLink"

/-- A header and what it describes. -/
def entry (name : Bytes) (kind : UInt8) (content : Bytes) : Bytes :=
  header name content.length kind ++ fillBlocks content

/-- The blocks of a file, unless its path cannot be a name. -/
def fileBlocks? (path content : Bytes) : Option Bytes :=
  match entryName? false path with
  | some name => some (entry name plainKind content)
  | none =>
    if path.length < nameLimit then none
    else
      (entryName? true (beginning path)).map fun name =>
        entry longNameTitle longNameKind (path ++ [0]) ++ entry name plainKind content

/-- The blocks of some files, or the first path that cannot be a name. -/
def blocksOf : List File → Except String Bytes
  | [] => .ok (zeroBlock ++ zeroBlock)
  | f :: rest =>
    match fileBlocks? (Text.bytes f.path) (Text.bytes f.content) with
    | some blocks => (blocksOf rest).map (blocks ++ ·)
    | none => .error f.path

end CrudScaffold.Tar

import CrudScaffold.Archive.Basic
import CrudScaffold.Config.Load
import CrudScaffold.Store.Basic

/-!
# Failures

Why a command fails. A failure is told as a chain of causes, from what was tried down to what
stood in the way.
-/

namespace CrudScaffold

/-- The words of an error and of its causes. -/
def Config.LoadError.causes : Config.LoadError → List String
  | .unreadable => ["Configuration error: a file is not a setting document"]
  | .wrongKind path => ["Configuration error: wrong kind of value for " ++ ".".intercalate path]
  | .outOfRange path => ["Configuration error: number out of range for " ++ ".".intercalate path]
  | .invalid fault => [fault.message]

/-- The words of an error and of its causes. -/
def ArchiveError.causes : ArchiveError → List String
  | .damaged => ["Archive I/O error"]
  | .entry path => ["Cannot add '" ++ path ++ "' to archive"]

/-- The words of a failure and of its causes. -/
def ArchiveFailure.causes : ArchiveFailure → List String
  | .generate e => [e.message]
  | .pack e => ("Packaging failed: " ++ e.causes.headD "") :: e.causes

namespace CommandLine

/-- Why a command fails. -/
inductive Failure
  /-- There is no configuration. -/
  | configuration (e : Config.LoadError)
  /-- The file of a diagram cannot be read. -/
  | diagramFile (path : String) (e : StoreError)
  /-- A diagram that is not in a file is not in the store either. -/
  | diagram (reference : String) (e : StoreError)
  /-- There is no archive. -/
  | archive (e : ArchiveFailure)
  /-- An archive cannot be put into a directory. -/
  | delivery (dir : String) (e : FileError)
  /-- The file of a diagram that is to be stored cannot be read. -/
  | source (path : String) (e : StoreError)
  /-- The store refuses. -/
  | store (e : StoreError)
  /-- The settings of a project cannot be read or written. -/
  | settings (e : FileError)
  /-- The settings of a project are not a setting document. -/
  | document

/-- The words of a failure and of its causes. -/
def Failure.causes : Failure → List String
  | configuration e => "failed to load configuration" :: e.causes
  | diagramFile path e => ("failed to read snapshot file " ++ path) :: e.causes
  | diagram reference e =>
    ("'" ++ reference ++ "' is neither a file nor a stored snapshot") :: e.causes
  | archive e => e.causes
  | delivery dir e =>
    ["failed to write archive into " ++ dir, "Archive I/O error: " ++ e.message, e.message]
  | source path e => ("failed to read " ++ path) :: e.causes
  | store e => e.causes
  | settings e => [e.message]
  | document => ["TOML parse error"]

/-- The words of a failure. -/
def Failure.message (f : Failure) : String := ": ".intercalate f.causes

end CommandLine

end CrudScaffold

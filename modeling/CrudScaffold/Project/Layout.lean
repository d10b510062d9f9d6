import CrudScaffold.Artifact.Kind

/-!
# Layout

Where the files of a project go. Package, directory and artifact id are one sequence of words
under three separators.
-/

namespace CrudScaffold

open Naming

/-- The names that are derived from the name of a project. -/
structure Layout where
  /-- The root package. -/
  package : String
  /-- The type that starts the application. -/
  applicationType : String
deriving Repr, DecidableEq

namespace Layout

/-- A text, or another one in its place if it is empty. -/
def orElse (text instead : String) : String := if text.isEmpty then instead else text

/-- The layout of a project. A name without words is treated as `demo`. -/
def ofName (name : String) : Layout where
  package := orElse (packagePath name) "demo"
  applicationType := orElse (typeName name) "Demo" ++ "Application"

/-- The directory of the root package. -/
def packageDir (l : Layout) : String := Naming.packageDir l.package

/-- The artifact id, which is also the directory that holds everything. -/
def artifactId (l : Layout) : String :=
  String.ofList (l.package.toList.map fun c => if c == '.' then '-' else c)

/-- The name of the archive. -/
def archiveName (l : Layout) : String := l.artifactId ++ ".tar.gz"

/-- The path of a file of the project. -/
def projectFile (l : Layout) (relative : String) : String := s!"{l.artifactId}/{relative}"

/-- The path of a source file. -/
def sourceFile (l : Layout) (relative : String) : String :=
  l.projectFile s!"src/main/java/{l.packageDir}/{relative}"

/-- The path of a file of an entity. -/
def artifactPath (l : Layout) (kind : ArtifactKind) (typeName : String) : String :=
  l.sourceFile s!"{kind.layer}/{kind.stem typeName}.java"

end Layout

end CrudScaffold

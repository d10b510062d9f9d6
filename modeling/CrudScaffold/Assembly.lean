import CrudScaffold.Event
import CrudScaffold.FileTree
import CrudScaffold.Project.Manifest
import CrudScaffold.Project.Readme
import CrudScaffold.Project.Runtime
import CrudScaffold.Relationship.Index

/-!
# Assembly

From a diagram to the files of a project. `generate` gives the tree of files and `report` tells
what there is to say about it; the two are separate, so nothing that is said can change what is
made. An assembler keeps the stage it is in from one run to the next.
-/

namespace CrudScaffold

/-- Why there is nothing to generate. -/
inductive GenerateError
  /-- The diagram has no classes. -/
  | emptyModel
deriving Repr, DecidableEq

/-- The words of an error. -/
def GenerateError.message : GenerateError → String
  | .emptyModel => "Cannot generate a project from a snapshot without classes"

/-- The entities of a diagram, one for each class. -/
def Snapshot.entities (s : Snapshot) (package : String) : List Entity :=
  let names := ClassNames.ofSnapshot s
  let index := RelationshipIndex.build s names
  s.classes.filterMap fun c =>
    (names.typeName? c.id).map fun typeName =>
      Entity.ofClass c typeName (index.fieldsFor c.id) package

/-- The project that a diagram becomes. -/
def Snapshot.project (s : Snapshot) (config : Config) (name : String) : Project :=
  .ofEntities config name (s.entities (Layout.ofName name).package)

namespace Project

/-- The files of a project that belong to no entity. -/
def ownFiles (p : Project) : List File :=
  [⟨p.layout.projectFile "pom.xml", Code.render p.manifest⟩,
    ⟨p.layout.projectFile "README.md", Code.render p.readme⟩,
    ⟨p.layout.projectFile "src/main/resources/application.properties",
      Code.render p.runtimeSettings⟩,
    ⟨p.layout.sourceFile s!"{p.layout.applicationType}.java", Code.render p.application⟩]

end Project

/-- The files of an entity. -/
def Entity.files (e : Entity) (layout : Layout) : List File :=
  ArtifactKind.all.map fun kind => ⟨layout.artifactPath kind e.typeName, kind.render e⟩

/-- The files of a project in the order they are made. Of several files at one path the last one
is kept. -/
def Snapshot.files (s : Snapshot) (config : Config) (name : String) : List File :=
  let layout := Layout.ofName name
  (s.project config name).ownFiles ++ (s.entities layout.package).flatMap (·.files layout)

/-- The tree of files of a project. -/
def generate (s : Snapshot) (config : Config) (name : String) : Except GenerateError FileTree :=
  if s.isEmpty then .error .emptyModel else .ok (.ofList (s.files config name))

/-! ### What is reported -/

namespace Snapshot

/-- What there is to report about the names of a diagram before the work begins. -/
def nameNotices (s : Snapshot) : List Event :=
  ClassNames.notices s ++ RelationshipIndex.notices s (ClassNames.ofSnapshot s)

/-- What there is to report about the attributes of a diagram. -/
def attributeNotices (s : Snapshot) : List Event :=
  let names := ClassNames.ofSnapshot s
  s.classes.flatMap fun c =>
    match names.typeName? c.id with
    | some typeName => Entity.notices c typeName
    | none => []

/-- The files of entities with the type they belong to, in the order they are made. -/
def artifacts (s : Snapshot) (layout : Layout) : List (String × String) :=
  (s.entities layout.package).flatMap fun e =>
    ArtifactKind.all.map fun kind => (layout.artifactPath kind e.typeName, e.typeName)

end Snapshot

/-- Reports files of entities behind those at the paths `made`. -/
def artifactNotices (made : List String) : List (String × String) → List Event
  | [] => []
  | (path, typeName) :: rest =>
    .classArtifact path ::
      (if path ∈ made then [.repeatedTypeName path typeName] else []) ++
      artifactNotices (path :: made) rest

/-- What a run reports when an assembler begins it at a stage. -/
def report (stage : Stage) (s : Snapshot) (config : Config) (name : String) : List Event :=
  if s.isEmpty then [.stageChanged stage .validating, .stageChanged .validating .failed]
  else
    let layout := Layout.ofName name
    let own := (s.project config name).ownFiles.map File.path
    [.stageChanged stage .validating, .stageChanged .validating .generating] ++
      s.nameNotices ++
      [.generating layout.artifactId s.classes.length s.relations.length] ++
      s.attributeNotices ++
      own.map .projectArtifact ++
      artifactNotices own (s.artifacts layout) ++
      [.stageChanged .generating .assembled,
        .assembled (FileTree.ofList (s.files config name)).size]

/-- Settings with the stage of the last run. -/
structure Assembler where
  config : Config
  stage : Stage := .idle
deriving Repr, DecidableEq

namespace Assembler

/-- Assembles a project. -/
def run (a : Assembler) (s : Snapshot) (name : String) :
    Except GenerateError FileTree × Assembler :=
  match generate s a.config name with
  | .ok tree => (.ok tree, { a with stage := .assembled })
  | .error e => (.error e, { a with stage := .failed })

end Assembler

end CrudScaffold

import CrudScaffold.Artifact.Api
import CrudScaffold.Artifact.Logic
import CrudScaffold.Artifact.Mapper
import CrudScaffold.Artifact.Payload

/-!
# Artifacts

The seven files that every entity has, and the layers they belong to.
-/

namespace CrudScaffold

/-- The kinds of files of an entity. -/
inductive ArtifactKind
  | model
  | access
  | logic
  | api
  | request
  | response
  | mapper
deriving Repr, DecidableEq, Inhabited

namespace ArtifactKind

/-- All kinds in the order their files are made. -/
def all : List ArtifactKind := [.model, .access, .logic, .api, .request, .response, .mapper]

/-- The layer of a kind, which is also the last part of its package. -/
def layer : ArtifactKind → String
  | .model => "model"
  | .access => "access"
  | .logic => "logic"
  | .api => "api"
  | .request | .response => "dto"
  | .mapper => "mapping"

/-- What is added to the type name of an entity. -/
def ending : ArtifactKind → String
  | .model => ""
  | .access => "Access"
  | .logic => "Logic"
  | .api => "Api"
  | .request => "Request"
  | .response => "Response"
  | .mapper => "Mapper"

/-- The name of the type that a file declares. -/
def stem (kind : ArtifactKind) (typeName : String) : String := typeName ++ kind.ending

/-- The code of a file. -/
def code (kind : ArtifactKind) (e : Entity) : List Code :=
  match kind with
  | .model => e.modelFile
  | .access => e.accessFile
  | .logic => e.logicFile
  | .api => e.apiFile
  | .request => e.payloadFile .request
  | .response => e.payloadFile .response
  | .mapper => e.mapperFile

/-- The text of a file. -/
def render (kind : ArtifactKind) (e : Entity) : String := Code.render (kind.code e)

end ArtifactKind

end CrudScaffold

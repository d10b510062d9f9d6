import CrudScaffold.Config.Basic
import CrudScaffold.Project.Layout

/-!
# Projects

A project is what its four own files are made from: its names, its settings and the routes of its
entities.
-/

namespace CrudScaffold

/-- An entity as the project lists it. -/
structure Route where
  typeName : String
  path : String
deriving Repr, DecidableEq, Inhabited

/-- The route of an entity. -/
def Entity.route (e : Entity) : Route := ⟨e.typeName, e.resourcePath⟩

/-- What the files of a project need to know. -/
structure Project where
  /-- The name that readers see. -/
  title : String
  layout : Layout
  config : Config
  routes : List Route
deriving Repr, DecidableEq

namespace Project

/-- A name without the space around it. A blank one is shown as `Demo`. -/
def titleOf (name : String) : String := Layout.orElse (Text.trim name) "Demo"

/-- The project of a name, with the routes of its entities. -/
def ofEntities (config : Config) (name : String) (entities : List Entity) : Project where
  title := titleOf name
  layout := .ofName name
  config := config
  routes := entities.map Entity.route

end Project

end CrudScaffold

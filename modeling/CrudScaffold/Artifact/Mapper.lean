import CrudScaffold.Entity.Basic
import CrudScaffold.Java.Source

/-!
# The mapper

Copies the attributes of an entity between payloads and model, one by one. Relationship fields
are left alone.
-/

namespace CrudScaffold.Entity

open Naming

/-- The imports of the mapper. -/
def mapperImports (e : Entity) : List String :=
  [e.qualified "model" e.typeName,
    e.qualified "dto" (e.typeName ++ "Request"),
    e.qualified "dto" (e.typeName ++ "Response"),
    "org.springframework.stereotype.Component"]

/-- The statement that copies a field from one object to another. -/
def copyField (source target field : String) : String :=
  s!"{target}.{setter field}({source}.{getter field}());"

/-- The method that makes an object of one type from one of another. -/
def conversion (e : Entity) (method sourceType source targetType target : String) : Code :=
  .braces s!"public {targetType} {method}({sourceType} {source})"
    (.line s!"{targetType} {target} = new {targetType}();" ::
      e.attributes.map (fun a => .line (copyField source target a.fieldName)) ++
      [.line s!"return {target};"])

/-- The file of the mapper. -/
def mapperFile (e : Entity) : List Code :=
  preamble (e.layerPackage "mapping") e.mapperImports ++
    [.line "@Component",
      .braces s!"public class {e.typeName}Mapper"
        [.blank,
          e.conversion "toModel" (e.typeName ++ "Request") "request" e.typeName "model",
          .blank,
          e.conversion "toResponse" e.typeName "model" (e.typeName ++ "Response") "response"]]

end CrudScaffold.Entity

import CrudScaffold.Entity.Basic
import CrudScaffold.Java.Source

/-!
# Access and logic

The repository of an entity, typed by its model and its key, and the service that works on it. The
service converts payloads with the mapper, and answers with a 404 when there is nothing with the key
that is asked for.
-/

namespace CrudScaffold.Entity

open Naming

/-! ### The repository -/

/-- The imports of the repository. -/
def accessImports (e : Entity) : List String :=
  [e.qualified "model" e.typeName,
    "org.springframework.data.jpa.repository.JpaRepository",
    "org.springframework.stereotype.Repository"] ++ e.keyImport

/-- The file of the repository. -/
def accessFile (e : Entity) : List Code :=
  preamble (e.layerPackage "access") e.accessImports ++
    [.line "@Repository",
      .braces
        (s!"public interface {e.typeName}Access extends "
          ++ s!"JpaRepository<{e.typeName}, {e.primaryKey.java.name}>") []]

/-! ### The service -/

/-- The imports of the service. -/
def logicImports (e : Entity) : List String :=
  [e.qualified "access" (e.typeName ++ "Access"),
    e.qualified "dto" (e.typeName ++ "Request"),
    e.qualified "dto" (e.typeName ++ "Response"),
    e.qualified "mapping" (e.typeName ++ "Mapper"),
    e.qualified "model" e.typeName,
    "java.util.List",
    "org.springframework.http.HttpStatus",
    "org.springframework.stereotype.Service",
    "org.springframework.web.server.ResponseStatusException"] ++ e.keyImport

/-- Refuses a key that nothing is stored under. -/
def requireStored : Code := .braces "if (!access.existsById(id))" [.line "throw notFound(id);"]

/-- The methods of the service. -/
def logicMethods (e : Entity) : List Code :=
  let name := e.typeName
  let key := e.primaryKey.java.name
  [.blank,
    .braces s!"public {name}Logic({name}Access access, {name}Mapper mapper)"
      [.line "this.access = access;", .line "this.mapper = mapper;"],
    .blank,
    .braces s!"public void create({name}Request request)"
      [.line "access.save(mapper.toModel(request));"],
    .blank,
    .braces s!"public {name}Response getById({key} id)"
      [.line "return access.findById(id)",
        .line "        .map(mapper::toResponse)",
        .line "        .orElseThrow(() -> notFound(id));"],
    .blank,
    .braces s!"public List<{name}Response> listAll()"
      [.line "return access.findAll().stream()",
        .line "        .map(mapper::toResponse)",
        .line "        .toList();"],
    .blank,
    .braces s!"public void update({key} id, {name}Request request)"
      [requireStored,
        .line s!"{name} model = mapper.toModel(request);",
        .line s!"model.{setter e.primaryKey.fieldName}(id);",
        .line "access.save(model);"],
    .blank,
    .braces s!"public void delete({key} id)" [requireStored, .line "access.deleteById(id);"],
    .blank,
    .braces s!"private ResponseStatusException notFound({key} id)"
      [.line ("return new ResponseStatusException(HttpStatus.NOT_FOUND, \"" ++ name
        ++ " \" + id + \" not found\");")]]

/-- The file of the service. -/
def logicFile (e : Entity) : List Code :=
  preamble (e.layerPackage "logic") e.logicImports ++
    [.line "@Service",
      .braces s!"public class {e.typeName}Logic"
        ([.blank,
          .line s!"private final {e.typeName}Access access;",
          .line s!"private final {e.typeName}Mapper mapper;"] ++ e.logicMethods)]

end CrudScaffold.Entity

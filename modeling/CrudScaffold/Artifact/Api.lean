import CrudScaffold.Entity.Basic
import CrudScaffold.Java.Source

/-!
# Api

The controller of an entity. Its routes stand under the route of the entity.
-/

namespace CrudScaffold.Entity

/-- The imports of the controller. -/
def apiImports (e : Entity) : List String :=
  [e.qualified "logic" (e.typeName ++ "Logic"),
    e.qualified "dto" (e.typeName ++ "Request"),
    e.qualified "dto" (e.typeName ++ "Response"),
    "jakarta.validation.Valid",
    "java.util.List",
    "org.springframework.http.HttpStatus",
    "org.springframework.http.ResponseEntity",
    "org.springframework.web.bind.annotation.*"] ++ e.keyImport

/-- The path of one object below the route. -/
def objectPath : String := "/\x7bid\x7d"

/-- The methods of the controller. -/
def apiMethods (e : Entity) : List Code :=
  let name := e.typeName
  let key := e.primaryKey.java.name
  [.blank,
    .line "@PostMapping",
    .braces s!"public ResponseEntity<Void> create(@Valid @RequestBody {name}Request request)"
      [.line "logic.create(request);",
        .line "return ResponseEntity.status(HttpStatus.CREATED).build();"],
    .blank,
    .line ("@GetMapping(\"" ++ objectPath ++ "\")"),
    .braces s!"public ResponseEntity<{name}Response> getById(@PathVariable {key} id)"
      [.line "return ResponseEntity.ok(logic.getById(id));"],
    .blank,
    .line "@GetMapping",
    .braces s!"public ResponseEntity<List<{name}Response>> listAll()"
      [.line "return ResponseEntity.ok(logic.listAll());"],
    .blank,
    .line ("@PutMapping(\"" ++ objectPath ++ "\")"),
    .braces
      (s!"public ResponseEntity<Void> update(@PathVariable {key} id, "
        ++ s!"@Valid @RequestBody {name}Request request)")
      [.line "logic.update(id, request);",
        .line "return ResponseEntity.ok().build();"],
    .blank,
    .line ("@DeleteMapping(\"" ++ objectPath ++ "\")"),
    .braces s!"public ResponseEntity<Void> delete(@PathVariable {key} id)"
      [.line "logic.delete(id);",
        .line "return ResponseEntity.noContent().build();"]]

/-- The file of the controller. -/
def apiFile (e : Entity) : List Code :=
  preamble (e.layerPackage "api") e.apiImports ++
    [.line "@RestController",
      .line s!"@RequestMapping(\"{e.resourcePath}\")",
      .braces s!"public class {e.typeName}Api"
        ([.blank,
          .line s!"private final {e.typeName}Logic logic;",
          .blank,
          .braces s!"public {e.typeName}Api({e.typeName}Logic logic)" [.line "this.logic = logic;"]]
          ++ e.apiMethods)]

end CrudScaffold.Entity

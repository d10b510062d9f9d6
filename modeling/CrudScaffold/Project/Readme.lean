import CrudScaffold.Project.Basic

/-!
# The readme

How to run a project, and a table of everything its routes answer.
-/

namespace CrudScaffold

/-- A method of a route with what it answers. -/
structure Endpoint where
  method : String
  /-- It works on one object and not on all of them. -/
  single : Bool
  result : String
deriving Repr, DecidableEq

namespace Endpoint

/-- The endpoints of every entity. -/
def all : List Endpoint :=
  [⟨"POST", false, "201 Created"⟩,
    ⟨"GET", true, "200 OK, 404 if missing"⟩,
    ⟨"GET", false, "200 OK, list"⟩,
    ⟨"PUT", true, "200 OK, 404 if missing"⟩,
    ⟨"DELETE", true, "204 No Content, 404 if missing"⟩]

/-- The path of an endpoint. -/
def path (e : Endpoint) (route : String) : String :=
  if e.single then route ++ "/\x7bid\x7d" else route

/-- The row of an endpoint. -/
def row (r : Route) (e : Endpoint) : Code :=
  .line s!"| {r.typeName} | {e.method} | `{e.path r.path}` | {e.result} |"

end Endpoint

/-- The rows of an entity. -/
def Route.rows (r : Route) : List Code := Endpoint.all.map (Endpoint.row r)

namespace Project

/-- Where the console of the database is, if there is one. -/
def consoleNote (p : Project) : String :=
  if p.config.database.console then " (console at `/h2-console`)" else ""

/-- The readme. -/
def readme (p : Project) : List Code :=
  [.line s!"# {p.title}",
    .blank,
    .line "Spring Boot CRUD backend generated from a class diagram.",
    .blank,
    .line "## Running",
    .blank,
    .line "```sh",
    .line "mvn spring-boot:run",
    .line "```",
    .blank,
    .line (s!"The API listens on port {p.config.server.port}. "
      ++ s!"Data lives in an in-memory H2 database{p.consoleNote}."),
    .blank,
    .line "## Endpoints",
    .blank,
    .line "| Entity | Method | Path | Result |",
    .line "|--------|--------|------|--------|"] ++
  p.routes.flatMap Route.rows ++
  [.blank,
    .line "## Layout",
    .blank,
    .line s!"Sources live under `src/main/java/{p.layout.packageDir}`:",
    .blank,
    .line "- `model`: JPA entities",
    .line "- `access`: Spring Data repositories",
    .line "- `logic`: services",
    .line "- `dto`: request and response payloads",
    .line "- `mapping`: DTO and entity conversion",
    .line "- `api`: REST controllers"]

end Project

end CrudScaffold

import CrudScaffold.Project.Basic

/-!
# Runtime

What a project needs to run: its settings as properties, and the type that starts it.
-/

namespace CrudScaffold.Project

/-- A property and its value. -/
def property (key value : String) : Code := .line s!"{key}={value}"

/-- The settings of the generated backend. -/
def runtimeSettings (p : Project) : List Code :=
  let db := p.config.database
  [property "spring.application.name" p.layout.artifactId,
    property "server.port" (toString p.config.server.port),
    .blank,
    property "spring.datasource.url" s!"jdbc:h2:mem:{p.layout.artifactId};DB_CLOSE_DELAY=-1",
    property "spring.datasource.driver-class-name" "org.h2.Driver",
    property "spring.datasource.username" db.username,
    property "spring.datasource.password" db.password,
    .blank,
    property "spring.jpa.hibernate.ddl-auto" db.ddlAuto,
    property "spring.jpa.open-in-view" "false",
    property "spring.h2.console.enabled" (if db.console then "true" else "false")]

/-- The imports of the type that starts the application. -/
def applicationImports : List String :=
  ["org.springframework.boot.SpringApplication",
    "org.springframework.boot.autoconfigure.SpringBootApplication"]

/-- The type that starts the application. -/
def application (p : Project) : List Code :=
  let name := p.layout.applicationType
  preamble p.layout.package applicationImports ++
    [.line "@SpringBootApplication",
      .braces s!"public class {name}"
        [.blank,
          .braces "public static void main(String[] args)"
            [.line s!"SpringApplication.run({name}.class, args);"]]]

end CrudScaffold.Project

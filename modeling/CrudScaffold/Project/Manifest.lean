import CrudScaffold.Project.Basic

/-!
# The manifest

The build description of a project in XML. Texts that a user can choose freely are escaped.
-/

namespace CrudScaffold

/-- A text as it stands between two tags. Ampersands are replaced first, since the entities that are
put in for brackets begin with one. -/
def xmlEscape (text : String) : String :=
  ((text.replace '&' "&amp;").replace '<' "&lt;").replace '>' "&gt;"

/-- A library that every project depends on. -/
structure Dependency where
  group : String
  artifact : String
  scope : Option String := none
deriving Repr, DecidableEq

namespace Dependency

/-- The libraries that every project depends on. -/
def all : List Dependency :=
  [{ group := "org.springframework.boot", artifact := "spring-boot-starter-web" },
    { group := "org.springframework.boot", artifact := "spring-boot-starter-data-jpa" },
    { group := "org.springframework.boot", artifact := "spring-boot-starter-validation" },
    { group := "com.h2database", artifact := "h2", scope := some "runtime" }]

/-- The entry of a library. -/
def code (d : Dependency) : Code :=
  .element "dependency"
    ([.line s!"<groupId>{d.group}</groupId>", .line s!"<artifactId>{d.artifact}</artifactId>"] ++
      d.scope.toList.map fun scope => .line s!"<scope>{scope}</scope>")

end Dependency

namespace Project

/-- The attributes of the outermost element. -/
def manifestAttributes : String :=
  " xmlns=\"http://maven.apache.org/POM/4.0.0\" "
    ++ "xmlns:xsi=\"http://www.w3.org/2001/XMLSchema-instance\" "
    ++ "xsi:schemaLocation=\"http://maven.apache.org/POM/4.0.0 "
    ++ "https://maven.apache.org/xsd/maven-4.0.0.xsd\""

/-- The body of the manifest. -/
def manifestBody (p : Project) : List Code :=
  [.line "<modelVersion>4.0.0</modelVersion>",
    .blank,
    .element "parent"
      [.line "<groupId>org.springframework.boot</groupId>",
        .line "<artifactId>spring-boot-starter-parent</artifactId>",
        .line s!"<version>{p.config.project.springBootVersion}</version>",
        .line "<relativePath/>"],
    .blank,
    .line s!"<groupId>{p.layout.package}</groupId>",
    .line s!"<artifactId>{p.layout.artifactId}</artifactId>",
    .line s!"<version>{p.config.project.version}</version>",
    .line s!"<name>{xmlEscape p.title}</name>",
    .line s!"<description>CRUD backend generated for {xmlEscape p.title}</description>",
    .blank,
    .element "properties" [.line s!"<java.version>{p.config.project.javaVersion}</java.version>"],
    .blank,
    .element "dependencies" (Dependency.all.map Dependency.code),
    .blank,
    .element "build"
      [.element "plugins"
        [.element "plugin"
          [.line "<groupId>org.springframework.boot</groupId>",
            .line "<artifactId>spring-boot-maven-plugin</artifactId>"]]]]

/-- The manifest. -/
def manifest (p : Project) : List Code :=
  [.line "<?xml version=\"1.0\" encoding=\"UTF-8\"?>",
    .element "project" p.manifestBody manifestAttributes]

end Project

end CrudScaffold

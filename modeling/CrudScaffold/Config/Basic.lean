import CrudScaffold.Text.Blank

/-!
# Configuration

The settings that a project is generated with. Each has a default, so an empty configuration is
complete, and a complete configuration can still be refused for its values.
-/

namespace CrudScaffold

/-- The versions that the manifest names. -/
structure ProjectSettings where
  javaVersion : String := "17"
  springBootVersion : String := "3.3.4"
  version : String := "0.0.1-SNAPSHOT"
deriving Repr, DecidableEq, Inhabited

/-- Where the generated backend listens. -/
structure ServerSettings where
  port : UInt16 := 8080
deriving Repr, DecidableEq, Inhabited

/-- The embedded database of the generated backend. -/
structure DatabaseSettings where
  username : String := "sa"
  password : String := ""
  ddlAuto : String := "update"
  console : Bool := true
deriving Repr, DecidableEq, Inhabited

/-- Where archives are delivered. -/
structure OutputSettings where
  dir : String := "."
deriving Repr, DecidableEq, Inhabited

/-- All settings. -/
structure Config where
  project : ProjectSettings := {}
  server : ServerSettings := {}
  database : DatabaseSettings := {}
  output : OutputSettings := {}
deriving Repr, DecidableEq, Inhabited

namespace Config

/-- Why a configuration is refused. -/
inductive Invalid
  | zeroPort
  | blankJavaVersion
  | blankSpringBootVersion
  | blankVersion
deriving Repr, DecidableEq

namespace Invalid

/-- The setting that is at fault. -/
def field : Invalid → String
  | zeroPort => "server.port"
  | blankJavaVersion => "project.java_version"
  | blankSpringBootVersion => "project.spring_boot_version"
  | blankVersion => "project.version"

/-- What is wrong with the setting. -/
def reason : Invalid → String
  | zeroPort => "must be between 1 and 65535"
  | _ => "must not be empty"

/-- The words of a refusal. -/
def message (i : Invalid) : String :=
  "Invalid configuration value for '" ++ i.field ++ "': " ++ i.reason

end Invalid

/-- All faults of a configuration, the first one leading. -/
def faults (c : Config) : List Invalid :=
  (if c.server.port = 0 then [.zeroPort] else []) ++
    (if Text.isBlankText c.project.javaVersion then [.blankJavaVersion] else []) ++
    (if Text.isBlankText c.project.springBootVersion then [.blankSpringBootVersion] else []) ++
    (if Text.isBlankText c.project.version then [.blankVersion] else [])

/-- Passes a configuration without faults. -/
def validate (c : Config) : Except Invalid Config :=
  match c.faults with
  | [] => .ok c
  | fault :: _ => .error fault

end Config

end CrudScaffold

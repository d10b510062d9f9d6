import CrudScaffold.Config.Environment
import CrudScaffold.Text.Utf8

/-!
# Loading a configuration

The layers of a configuration are, from the lowest to the highest: the defaults, the file of the
user, the file of the project, and the environment. They are laid over each other first and read
afterwards, so a setting that a higher layer replaces is never looked at.
-/

namespace CrudScaffold.Config

/-- Where a configuration comes from. -/
structure Sources where
  /-- The file of the user, if there is one. -/
  user : Option Bytes := none
  /-- The file of the project, if there is one. -/
  project : Option Bytes := none
  /-- The variables of the environment with their texts. -/
  environment : List (String × String) := []
deriving Inhabited

/-- Why a configuration cannot be loaded. -/
inductive LoadError
  /-- A file is not a setting document. -/
  | unreadable
  /-- A setting is not of the kind that its key asks for. -/
  | wrongKind (path : List String)
  /-- A number does not fit. -/
  | outOfRange (path : List String)
  /-- The settings are read and refused. -/
  | invalid (fault : Invalid)
deriving Repr, DecidableEq

/-! ### Single settings -/

/-- Why a setting cannot be read. -/
inductive Misfit
  | wrongKind
  | outOfRange
deriving Repr, DecidableEq

/-- The error of a misfit at a path. -/
def Misfit.at (path : List String) : Misfit → LoadError
  | .wrongKind => .wrongKind path
  | .outOfRange => .outOfRange path

/-- Reads a text. -/
def textOf : Setting → Except Misfit String
  | .text s => .ok s
  | _ => .error .wrongKind

/-- Reads a flag. -/
def flagOf : Setting → Except Misfit Bool
  | .boolean b => .ok b
  | _ => .error .wrongKind

/-- Reads a number of 16 bits. -/
def portOf : Setting → Except Misfit UInt16
  | .integer n => if 0 ≤ n ∧ n < 0x10000 then .ok n.toNat.toUInt16 else .error .outOfRange
  | _ => .error .wrongKind

/-! ### Sections -/

/-- The keys of a section in the order in which a list gives their settings. -/
def keys : String → List String
  | "project" => ["java_version", "spring_boot_version", "version"]
  | "server" => ["port"]
  | "database" => ["username", "password", "ddl_auto", "console"]
  | "output" => ["dir"]
  | _ => []

/-- Sets one setting of a configuration. -/
def set (c : Config) (name key : String) (v : Setting) : Except Misfit Config :=
  match name, key with
  | "project", "java_version" =>
    return { c with project := { c.project with javaVersion := ← textOf v } }
  | "project", "spring_boot_version" =>
    return { c with project := { c.project with springBootVersion := ← textOf v } }
  | "project", "version" => return { c with project := { c.project with version := ← textOf v } }
  | "server", "port" => return { c with server := { c.server with port := ← portOf v } }
  | "database", "username" =>
    return { c with database := { c.database with username := ← textOf v } }
  | "database", "password" =>
    return { c with database := { c.database with password := ← textOf v } }
  | "database", "ddl_auto" =>
    return { c with database := { c.database with ddlAuto := ← textOf v } }
  | "database", "console" =>
    return { c with database := { c.database with console := ← flagOf v } }
  | "output", "dir" => return { c with output := { c.output with dir := ← textOf v } }
  | _, _ => return c

/-- The settings of a section, each with its key and with the step of the path that leads to it:
the key itself in a table, and the position in a list. -/
def members? (name : String) : Setting → Option (List (String × String × Setting))
  | v@(.table _) =>
    some (((keys name).mergeSort fun a b => decide (a ≤ b)).filterMap fun key =>
      (v.get? key).map fun s => (key, key, s))
  | .list items =>
    some (((keys name).zip items).zipIdx.map fun ((key, s), i) => (toString i, key, s))
  | _ => none

/-- Reads a section. -/
def readSection (layers : Setting) (c : Config) (name : String) : Except LoadError Config :=
  match layers.get? name with
  | none => .ok c
  | some v =>
    match members? name v with
    | none => .error (.wrongKind [name])
    | some settings =>
      settings.foldlM (fun c (step, key, s) =>
        (c.set name key s).mapError (Misfit.at [name, step])) c

/-- Reads all sections. -/
def ofSetting (layers : Setting) : Except LoadError Config :=
  ["database", "output", "project", "server"].foldlM (readSection layers) {}

/-! ### Layers -/

/-- The layer of a file. A file that is not there adds nothing. -/
def fileLayer : Option Bytes → Except LoadError Setting
  | none => .ok (.table [])
  | some bytes =>
    match Text.ofBytes? bytes >>= Toml.Document.parse? with
    | some document => .ok (.table (Setting.ofEntries document.values))
    | none => .error .unreadable

/-- All layers, laid over each other. -/
def Sources.setting (s : Sources) : Except LoadError Setting := do
  let user ← fileLayer s.user
  let project ← fileLayer s.project
  return (Environment.setting s.environment).layOver
    (project.layOver (user.layOver ({} : Config).toSetting))

/-- Loads a configuration and checks it. -/
def load (s : Sources) : Except LoadError Config := do
  let c ← ofSetting (← s.setting)
  c.validate.mapError .invalid

end CrudScaffold.Config

import CrudScaffold.Config.Basic
import CrudScaffold.Toml.Document

/-!
# Settings in layers

Before a configuration is checked it is a tree of settings. A tree laid over another one takes
the place of it, save that two tables are joined key by key. So each setting comes from the
highest layer that has it.
-/

namespace CrudScaffold

/-- A setting, or a table of settings. -/
inductive Setting
  | text (s : String)
  | integer (n : Int)
  | float
  | boolean (b : Bool)
  | list (items : List Setting)
  | table (entries : List (String × Setting))
deriving Repr, Inhabited

namespace Setting

mutual

/-- The setting that a value of a document stands for. No setting is a moment, which counts as a
table that has no settings. -/
def ofValue : Toml.Value → Setting
  | .text s => .text s
  | .integer n => .integer n
  | .float _ => .float
  | .boolean b => .boolean b
  | .moment _ => .table []
  | .list items => .list (ofItems items)
  | .table entries => .table (ofEntries entries)

/-- The settings that the items of a list stand for. -/
def ofItems : List Toml.Value → List Setting
  | [] => []
  | v :: rest => ofValue v :: ofItems rest

/-- The settings that the entries of a table stand for. -/
def ofEntries : List (String × Toml.Value) → List (String × Setting)
  | [] => []
  | (k, v) :: rest => (k, ofValue v) :: ofEntries rest

end

/-- Changes the setting of a key, which goes to the end if it is new. -/
def change (key : String) (f : Option Setting → Setting) :
    List (String × Setting) → List (String × Setting)
  | [] => [(key, f none)]
  | (k, v) :: rest => if k = key then (k, f (some v)) :: rest else (k, v) :: change key f rest

mutual

/-- Lays a setting over another one. -/
def layOver : Setting → Setting → Setting
  | .table upper, .table lower => .table (entriesOver upper lower)
  | .table upper, _ => .table upper
  | .text s, _ => .text s
  | .integer n, _ => .integer n
  | .float, _ => .float
  | .boolean b, _ => .boolean b
  | .list items, _ => .list items

/-- Lays the entries of a table over those of another one. -/
def entriesOver : List (String × Setting) → List (String × Setting) → List (String × Setting)
  | [], lower => lower
  | (k, v) :: rest, lower =>
    entriesOver rest (change k (fun | none => v | some old => layOver v old) lower)

end

/-- The setting of a key in a table. -/
def get? (key : String) : Setting → Option Setting
  | .table entries => entries.lookup key
  | _ => none

/-- A setting under a path of keys. -/
def under : List String → Setting → Setting
  | [], v => v
  | key :: path, v => .table [(key, under path v)]

end Setting

/-! ### The sections of a configuration -/

namespace Config

/-- The settings of a configuration, section by section, each in the order of their names. -/
def settings (c : Config) : List (String × List (String × Setting)) :=
  [("database", [
      ("console", .boolean c.database.console),
      ("ddl_auto", .text c.database.ddlAuto),
      ("password", .text c.database.password),
      ("username", .text c.database.username)]),
    ("output", [("dir", .text c.output.dir)]),
    ("project", [
      ("java_version", .text c.project.javaVersion),
      ("spring_boot_version", .text c.project.springBootVersion),
      ("version", .text c.project.version)]),
    ("server", [("port", .integer c.server.port.toNat)])]

/-- A configuration as one layer. -/
def toSetting (c : Config) : Setting :=
  .table (c.settings.map fun (name, entries) => (name, .table entries))

end Config

end CrudScaffold

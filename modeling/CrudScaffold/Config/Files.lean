import CrudScaffold.Config.Load
import CrudScaffold.FileSystem.Basic

/-!
# Where settings are kept

The file of the user is in the directory for configurations, and the file of a project is in the
working directory. Where nothing is there nothing is read. Where something is there a file is looked
for, and a relative path is tried from the working directory first and then from the directories
above it: a directory of that name hides nothing that they hold.
-/

namespace CrudScaffold

namespace Environment

/-- The text of a variable. -/
def get? (environment : List (String × String)) (name : String) : Option String :=
  environment.lookup name

/-- The home directory of the user: the one that is set, or else the one of the account. Empty texts
name none. -/
def home (account : Option String) (environment : List (String × String)) : Option String :=
  ((get? environment "HOME").filter (· ≠ "")).or (account.filter (· ≠ ""))

/-- The directory of the user for configurations, if the user has any. -/
def configDir (account : Option String) (environment : List (String × String)) : Option String :=
  ((get? environment "XDG_CONFIG_HOME").filter Path.isAbsolute).or
    ((home account environment).map (Path.join · ".config"))

end Environment

namespace Config

/-- The name of the file of a project. -/
def projectFile : String := "blueprint.toml"

/-- The path of the file of the user, if there can be one. -/
def userFile (account : Option String) (environment : List (String × String)) : Option String :=
  (Environment.configDir account environment).map fun dir =>
    Path.join (Path.join dir "blueprint") "config.toml"

/-- The paths of all files of settings. -/
def settingsFiles (account : Option String) (environment : List (String × String)) : List String :=
  (userFile account environment).toList ++ [projectFile]

/-- The content of the file that a path of settings leads to, if there is one. -/
def contentOf (fs : FileSystem) (path : String) : Option Bytes :=
  if fs.has path then
    -- a path from the root is the same from everywhere
    fs.outward.findSome? fun dir => ((fs.seenFrom dir).read path).toOption
  else none

/-- The sources of a configuration in a file system. -/
def Sources.ofFiles (fs : FileSystem) (account : Option String)
    (environment : List (String × String)) : Sources where
  user := (userFile account environment).bind (contentOf fs)
  project := contentOf fs projectFile
  environment := environment

end Config

end CrudScaffold

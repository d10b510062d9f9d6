import CrudScaffold.CommandLine.Program

/-!
# Main

The outer layer of the program. It makes an image of the files that a command line can touch,
carries the command line out on the image, takes the steps that come of it, and prints what is
said. A directory is not listed from here: for the command `list`, the names of the files in the
store are read from standard input, one a line.
-/

namespace CrudScaffold.CommandLine

/-- The names of the variables that the program looks at. -/
def variableNames : List String :=
  let settings := ({} : Config).settings.flatMap fun (name, entries) =>
    ("BLUEPRINT_" ++ name.toUpper) ::
      entries.map fun (key, _) => "BLUEPRINT_" ++ name.toUpper ++ "__" ++ key.toUpper
  ["HOME", "XDG_CONFIG_HOME", "BLUEPRINT_LOG"] ++ settings

/-- The paths that a step touches. -/
def touched : Action → List String
  | .makeDirectory path | .create path | .fill path _ | .remove path => [path]
  | .move source target => [source, target]

/-- The paths that a command line may lead to at once. -/
def pathsOf (s : Surroundings) (arguments : List String) : List String :=
  let settings := (Config.settingsFiles s.account s.environment).flatMap fun path =>
    s.files.outward.map fun dir =>
      Surroundings.fullPath { s with files := s.files.seenFrom dir } path
  let texts := arguments ++ arguments.map fun s =>
    String.ofList ((s.toList.dropWhile (· ≠ '=')).drop 1)
  settings ++ [s.store.dir] ++ texts ++ texts.map s.store.path

/-- What stands at a path whose directory is there. -/
def probe (path : String) : IO (Option Node) := do
  try
    return some (.file (← IO.FS.readBinFile path).data.toList)
  catch
    | .inappropriateType .. => return some .directory
    | _ => return none

/-- Puts what stands on the way to a path into an image. -/
partial def look (fs : FileSystem) (p : Place) : List String → IO FileSystem
  | [] => return fs
  | name :: rest => do
    match fs.step p name with
    | .error _ => return fs
    | .ok q =>
      if (fs.get? q).isSome then look fs q rest
      else match ← probe ("/" ++ "/".intercalate q) with
        | none => return fs
        | some n => look (fs.put q n) q rest

/-- An image of what stands at paths. -/
def image (fs : FileSystem) (paths : List String) : IO FileSystem :=
  paths.foldlM (fun fs path =>
    if path.isEmpty then return fs else look fs (fs.start path) (Path.names path)) fs

/-- The lines of standard input. -/
partial def inputLines (stdin : IO.FS.Stream) : IO (List String) := do
  let line ← stdin.getLine
  if line.isEmpty then return []
  else return String.ofList (line.toList.filter (· ≠ '\n')) :: (← inputLines stdin)

/-- Puts the named files of the store into an image. -/
def withNames (fs : FileSystem) (dir : String) (names : List String) : FileSystem :=
  match fs.locate dir with
  | .ok p => names.foldl (fun fs name => fs.put (p ++ [name]) (.file [])) fs
  | .error _ => fs

/-- Takes a step on the files themselves. -/
def take : Action → IO Unit
  | .makeDirectory path => unless path.isEmpty do IO.FS.createDirAll path
  | .create path => IO.FS.writeBinFile path .empty
  | .fill path content => IO.FS.writeBinFile path ⟨content.toArray⟩
  | .move source target => IO.FS.rename source target
  | .remove path => IO.FS.removeFile path

end CrudScaffold.CommandLine

open CrudScaffold CommandLine

/-- Carries out a command line on the files that are there. -/
def main (arguments : List String) : IO UInt32 := do
  let environment ← variableNames.filterMapM fun name => do
    return (← IO.getEnv name).map ((name, ·))
  let working := toString (← IO.currentDir)
  let here := (Path.names working).filter (· ≠ "")
  let root ← image {} [working]
  let start : Surroundings := { files := { root with here }, environment }
  let known ← image start.files (pathsOf start arguments)
  let names ← if arguments.contains "list" then inputLines (← IO.getStdin) else pure []
  let listed := withNames known start.store.dir names
  let planned := run { start with files := listed } arguments
  let files ← image listed (planned.actions.flatMap touched)
  let final := run { start with files } arguments
  try
    final.actions.forM take
  catch e =>
    if final.code = 0 then
      IO.eprintln ("blueprint error: " ++ toString e)
      return 1
  IO.print final.output
  IO.eprint final.report
  return final.code.toUInt32

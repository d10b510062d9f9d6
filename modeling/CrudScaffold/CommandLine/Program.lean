import CrudScaffold.Archive.Delivery
import CrudScaffold.CommandLine.Arguments
import CrudScaffold.CommandLine.Failure
import CrudScaffold.CommandLine.Filter
import CrudScaffold.Config.Completion
import CrudScaffold.Config.Files
import CrudScaffold.Snapshot.Schema

/-!
# The program

What a command line makes of the files and the environment that it finds. A command yields the
lines it prints, what it has to say besides, the steps that change files, and perhaps a failure.
Nothing is decided outside: a run is a function of its surroundings and its arguments.
-/

namespace CrudScaffold.CommandLine

/-- What a command finds. -/
structure Surroundings where
  files : FileSystem
  environment : List (String × String)
  /-- The home directory that the account of the user names. -/
  account : Option String := none
  /-- The compression that the program is built with. -/
  compress : Bytes → Bytes := Gzip.store

/-- What a command has to say besides its output. -/
inductive Note
  | event (e : Event)
  | line (s : String)
deriving Repr

/-- What a command comes to. -/
structure Result where
  output : List String := []
  notes : List Note := []
  actions : List Action := []
  failure : Option Failure := none

namespace Surroundings

/-- The store of the user. Without a home it is in the working directory. -/
def store (s : Surroundings) : Store :=
  .ofHome ((Environment.home s.account s.environment).getD ".")

/-- Where the configuration comes from. -/
def sources (s : Surroundings) : Config.Sources :=
  .ofFiles s.files s.account s.environment

/-- The diagram that a text refers to: a file of that path, or a stored diagram of that name. -/
def diagram (s : Surroundings) (reference : String) : Except Failure Snapshot :=
  if s.files.hasFile reference then
    (Snapshot.ofFile s.files reference).mapError (.diagramFile reference)
  else (s.store.read s.files reference).mapError (.diagram reference)

/-- The path of a file in the working directory, from the root. -/
def fullPath (s : Surroundings) (name : String) : String :=
  Path.join ("/" ++ "/".intercalate s.files.here) name

end Surroundings

/-! ### Commands -/

/-- Steps with what is said once they are taken, or the failure that they end in. -/
def perform (s : Surroundings) (actions : List Action) (fail : FileError → Failure)
    (done : Result) : Result :=
  match Action.runAll s.files actions with
  | (_, none) => { done with actions }
  | (_, some e) => { actions, failure := some (fail e) }

/-- Generates a project, and lists its files or delivers its archive. -/
def generateCommand (s : Surroundings) (source name : String) (out : Option String)
    (listOnly : Bool) : Result :=
  match Config.load s.sources with
  | .error e => { failure := some (.configuration e) }
  | .ok config =>
    match s.diagram source with
    | .error f => { failure := some f }
    | .ok snapshot =>
      let notes := (report .idle snapshot config name).map .event
      match generate snapshot config name with
      | .error e => { notes, failure := some (.archive (.generate e)) }
      | .ok tree =>
        if listOnly then { notes, output := tree.paths }
        else match generateArchive s.compress snapshot config name with
          | .error e => { notes, failure := some (.archive e) }
          | .ok a =>
            let dir := out.getD config.output.dir
            let packed := notes ++ [.event (.archivePacked tree.size a.bytes.length a.name)]
            let delivered := .event (.archiveDelivered (a.path dir) a.bytes.length)
            let result := perform s (a.deliverActions dir) (.delivery dir)
              { notes := [delivered], output := [a.path dir] }
            { result with notes := packed ++ result.notes }

/-- Lists the stored diagrams. -/
def listCommand (s : Surroundings) : Result :=
  match s.store.list s.files with
  | .error e => { failure := some (.store e) }
  | .ok names =>
    { output := names
      notes := if names.isEmpty then [.line ("No snapshots in " ++ s.store.dir)] else [] }

/-- Stores a diagram under a name, or else under the name of its file. -/
def storeCommand (s : Surroundings) (file : String) (name : Option String) : Result :=
  match Snapshot.ofFile s.files file with
  | .error e => { failure := some (.source file e) }
  | .ok snapshot =>
    let name := name.getD (Path.stem ((Path.names file).getLast?.getD ""))
    match s.store.writeActions name snapshot with
    | .error e => { failure := some (.store e) }
    | .ok actions =>
      let counts := toString snapshot.classes.length ++ " classes, " ++
        toString snapshot.relations.length ++ " relations"
      perform s actions (fun e => .store (.file e))
        { notes := [.event (.snapshotWritten (s.store.path name)),
            .line ("Stored '" ++ name ++ "' (" ++ counts ++ ")")] }

/-- Removes a stored diagram. -/
def removeCommand (s : Surroundings) (name : String) : Result :=
  match s.store.deleteActions s.files name with
  | .error e => { failure := some (.store e) }
  | .ok actions =>
    perform s actions (fun e => .store (.file e)) { notes := [.line ("Removed '" ++ name ++ "'")] }

/-- The settings of the project as a document. One that is not there is empty. -/
def settingsDocument (s : Surroundings) (path : String) : Except Failure Toml.Document := do
  if s.files.has path then
    match Toml.Document.parse? (← (s.files.readText path).mapError .settings) with
    | some document => .ok document
    | none => .error .document
  else .ok {}

/-- Completes the settings of the project. -/
def initCommand (s : Surroundings) : Result :=
  let path := s.fullPath Config.projectFile
  match settingsDocument s path with
  | .error f => { failure := some f }
  | .ok document =>
    let (document, added) := Config.complete {} document
    let said := if added = 0 then path ++ " is already complete"
      else "Wrote " ++ path ++ " (" ++ toString added ++ " default keys added)"
    perform s (Action.write path (Text.bytes document.write)) .settings { notes := [.line said] }

/-- Carries out a command. -/
def Command.run (s : Surroundings) : Command → Result
  | .generate source name out listOnly => generateCommand s source name out listOnly
  | .list => listCommand s
  | .store file name => storeCommand s file name
  | .remove name => removeCommand s name
  | .schema => { output := [Schema.snapshot.pretty] }
  | .init => initCommand s

/-! ### Runs -/

/-- What a run leaves behind: its exit code, its output, what it says besides, and the steps that
change files. -/
structure Run where
  code : Nat
  output : String := ""
  report : String := ""
  actions : List Action := []

/-- Lines of text. -/
def lines (ls : List String) : String := String.join (ls.map (· ++ "\n"))

/-- The line of a note, if a filter shows it. -/
def Note.shown? (f : Filter) : Note → Option String
  | .event e => if f.shows e then some e.line else none
  | .line s => some s

/-- The help on the program. -/
def usage : String :=
  "Generate Spring Boot CRUD backends from class diagrams\n\n" ++
    "Usage: blueprint [OPTIONS] <COMMAND>\n\n" ++
    lines [
      "Commands:",
      "  generate  Generate a project archive from a snapshot",
      "  list      List stored snapshots",
      "  store     Copy a snapshot file into the snapshot store",
      "  remove    Delete a stored snapshot",
      "  schema    Print the JSON Schema of the snapshot format",
      "  init      Write or complete blueprint.toml in the current directory",
      "  help      Print this message or the help of the given subcommand(s)"]

/-- The version of the program. -/
def version : String := "blueprint 0.1.0\n"

/-- Carries out a command line. -/
def run (s : Surroundings) (arguments : List String) : Run :=
  match Invocation.ofArguments arguments with
  | .error .misuse => { code := 2, report := usage }
  | .error .help => { code := 0, output := usage }
  | .error .version => { code := 0, output := version }
  | .ok i =>
    let filter := Filter.choose (Environment.get? s.environment "BLUEPRINT_LOG") i.quiet i.verbose
    let r := i.command.run s
    let ending := match r.failure with
      | some f => ["blueprint error: " ++ f.message]
      | none => []
    { code := if r.failure.isSome then 1 else 0
      output := lines r.output
      report := lines (r.notes.filterMap (Note.shown? filter) ++ ending)
      actions := r.actions }

/-- The files behind a run. -/
def Run.files (r : Run) (s : Surroundings) : FileSystem := (Action.runAll s.files r.actions).1

end CrudScaffold.CommandLine

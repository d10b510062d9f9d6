import CrudScaffold.FileSystem.Basic

/-!
# Writing in steps

Files are written in steps that others can come between. A step does what it can and reports why
it could not do the rest. To publish a file means to write it under another name first and then
to move it to its own, so that no reader meets a file that is half written.
-/

namespace CrudScaffold

/-- A step that changes files. -/
inductive Action
  /-- Makes a directory and those that it is in, as far as they are missing. -/
  | makeDirectory (path : String)
  /-- Makes a file without content, or empties the one that is there. -/
  | create (path : String)
  /-- Fills a file. -/
  | fill (path : String) (content : Bytes)
  /-- Gives a file another path, and takes the place of a file that is there. -/
  | move (source target : String)
  /-- Removes a file. -/
  | remove (path : String)
deriving Repr, DecidableEq

/-- Files after a step, and why the step failed, if it did. -/
abbrev Outcome := FileSystem × Option FileError

namespace FileSystem

/-- The files after a change that can fail. -/
def after (fs : FileSystem) : Except FileError FileSystem → Outcome
  | .ok fs => (fs, none)
  | .error e => (fs, some e)

/-- Makes a directory, unless it is there, in one that is there. -/
def opened (fs : FileSystem) (p : Place) (names : List String) : Except FileError FileSystem := do
  let q ← names.foldlM fs.step p
  match fs.get? q with
  | none => .ok (fs.put q .directory)
  | some .directory => .ok fs
  | some (.file _) => .error .taken

/-- Makes a directory, whose way comes first, and those above it as far as they are missing. -/
def makeDirectories (fs : FileSystem) (p : Place) : List (List String) → Outcome
  | [] => (fs, none)
  | names :: above =>
    match fs.opened p names with
    | .error .missing =>
      match makeDirectories fs p above with
      | (fs, none) => fs.after (fs.opened p names)
      | failed => failed
    | result => fs.after result

/-- Empties a file, which may be new. -/
def emptied (fs : FileSystem) (path : String) : Except FileError FileSystem := do
  let p ← fs.locate path
  match fs.get? p with
  | some .directory => .error .isDirectory
  | _ => .ok (fs.put p (.file []))

/-- Fills a file that is there. -/
def filled (fs : FileSystem) (path : String) (content : Bytes) : Except FileError FileSystem := do
  let p ← fs.locate path
  match fs.get? p with
  | some (.file _) => .ok (fs.put p (.file content))
  | some .directory => .error .isDirectory
  | none => .error .missing

/-- Moves a file. The new path has to end in a name of its own, and in no slash. -/
def moved (fs : FileSystem) (source target : String) : Except FileError FileSystem := do
  let p ← fs.locate source
  let q ← fs.locate (Path.unslashed target)
  if !Path.endsInName target then .error .busy
  else match fs.get? p, fs.get? q with
    | none, _ => .error .missing
    | some .directory, _ => .error .isDirectory
    | some (.file content), there =>
      if Path.unslashed target ≠ target then .error .notDirectory
      else if there = some .directory then .error .isDirectory
      else .ok ((fs.erase p).put q (.file content))

/-- Removes a file. -/
def removed (fs : FileSystem) (path : String) : Except FileError FileSystem := do
  let p ← fs.locate path
  match fs.get? p with
  | none => .error .missing
  | some .directory => .error .isDirectory
  | some (.file _) => .ok (fs.erase p)

end FileSystem

namespace Action

/-- Takes a step. -/
def run (fs : FileSystem) : Action → Outcome
  | makeDirectory path =>
    if path.toList.contains '\x00' then (fs, some .zeroInName)
    else fs.makeDirectories (fs.start path) (Path.ways path)
  | create path => fs.after (fs.emptied path)
  | fill path content => fs.after (fs.filled path content)
  | move source target => fs.after (fs.moved source target)
  | remove path => fs.after (fs.removed path)

/-- Takes steps one after the other up to the first that fails. -/
def runAll (fs : FileSystem) : List Action → Outcome
  | [] => (fs, none)
  | a :: rest =>
    match a.run fs with
    | (fs, none) => runAll fs rest
    | (fs, some e) => (fs, some e)

/-- The steps that write a file. -/
def write (path : String) (content : Bytes) : List Action := [create path, fill path content]

/-- The steps that publish a file of a directory by way of another name. -/
def publish (dir draft name : String) (content : Bytes) : List Action :=
  [makeDirectory dir] ++ write (Path.join dir draft) content ++
    [move (Path.join dir draft) (Path.join dir name)]

end Action

end CrudScaffold

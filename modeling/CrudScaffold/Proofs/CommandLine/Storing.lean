import Mathlib
import CrudScaffold.CommandLine.Program
import CrudScaffold.Proofs.Archive.Delivery
import CrudScaffold.Proofs.Config.Load
import CrudScaffold.Proofs.FileSystem.Lookup
import CrudScaffold.Proofs.Store.Catalog

/-!
# Generating from a stored diagram

A diagram can be generated from where it lies in a file, or it is stored first and generated by its
name. The runs are compared as a whole: their exit codes, their output, what they report, and the
steps that they take, with the bytes of the archive among them (`CommandLine.run_generate_stored`).
They are the same but for what storing can change on its way, where it makes the directory of the
store. A path with two dots that went nowhere can lead on from there, and the path of the settings
of the user is such a path if the home directory is given with two dots
(`CommandLine.run_generate_shopAtWindingHome`). And a new directory can have the name of the
settings of the project: a file of this name is looked for then, and found in a directory above
(`CommandLine.run_generate_shopAtCoveredHome`).
-/

namespace CrudScaffold

open FileSystem

/-! ### Storing -/

/-- A diagram that has been stored is read back, and nothing else has changed but what storing makes
on its way. -/
lemma Store.of_runAll_publish {s : Store} {fs fs' : FileSystem} {name : String}
    {snapshot : Snapshot} (hfs : fs.Sound) (hname : Store.isValidName name)
    (hrun : Action.runAll fs (Action.publish s.dir (draftName name) (fileName name)
      (Text.bytes snapshot.toJson)) = (fs', none)) :
    fs'.Sound ∧ Confined fs fs' s.dir [draftName name, fileName name] ∧
      s.read fs' name = .ok snapshot := by
  have hfile := isFileName_fileName hname
  have hne := fileName_ne_draftName name name
  obtain ⟨hconfined, -⟩ :=
    Action.confined_of_runAll_publish_eq_none (isFileName_draftName hname) hfile hne hfs hrun
  obtain ⟨fs₁, d, -, hd, hfs', hrewrites, hget⟩ :=
    Action.of_runAll_publish (isFileName_draftName hname) hfile hne hfs hrun
  have hd' := hrewrites.opens hd
  have hnow : fs'.get? (d ++ [fileName name]) = some (.file (Text.bytes snapshot.toJson)) := by
    rw [hget, if_pos rfl]
  have hhas : fs'.has (s.path name) :=
    (has_join_iff hfs' hfile).mpr ⟨d, hd', by rw [hnow]; rfl⟩
  have htext : fs'.readText (s.path name) = .ok snapshot.toJson := readText_join hfs' hfile hd' hnow
  have hcheck : checkName name = .ok () := by rw [checkName, if_pos hname]
  have hjson : Snapshot.ofJson snapshot.toJson = .ok snapshot :=
    Json.Record.ofText_pretty snapshot.read_toValue
  refine ⟨hfs', hconfined, ?_⟩
  simp [read, readText, hcheck, hhas, htext, hjson, bind, Except.bind, Except.mapError]

/-- A file that is no text of the store ends in neither of its endings. -/
lemma Store.notMem_files {name x : String} (hx : x.toList.getLast? = some 'l') :
    x ∉ [draftName name, fileName name] := by
  have hlast : ∀ a ending : String, ending ≠ "" → ending.toList.getLast? ≠ some 'l' →
      x ≠ a ++ ending := by
    rintro a ending hne hending rfl
    rw [String.toList_append, List.getLast?_append_of_ne_nil _
      fun hnil => hne (String.toList_eq_nil_iff.mp hnil)] at hx
    exact hending hx
  intro hmem
  rcases List.mem_pair.mp hmem with rfl | rfl
  · exact hlast _ ".json.tmp" (by decide) (by decide) rfl
  · exact hlast _ ".json" (by decide) (by decide) rfl

/-- A valid name is itself the name of a file. -/
lemma Store.isFileName_of_isValidName {name : String} (h : isValidName name) :
    Path.IsFileName name := by
  obtain ⟨hne, hdot, hslash, hzero⟩ := of_isValidName h
  refine ⟨⟨hne, hslash⟩, ?_, ?_, hzero⟩
  · rintro rfl
    exact hdot rfl
  · rintro rfl
    exact hdot rfl

/-- A name is not the name of its own file or draft. -/
lemma Store.self_notMem_files (name : String) : name ∉ [draftName name, fileName name] := by
  have hlength : ∀ x : String, x.length ≠ name.length → name ≠ x := by
    rintro x hx rfl
    exact hx rfl
  intro hmem
  rcases List.mem_pair.mp hmem with h | h
  · refine hlength _ ?_ h
    simp only [draftName, String.length_append]
    have hdot : ".".length = 1 := rfl
    omega
  · refine hlength _ ?_ h
    simp only [fileName, String.length_append]
    have hending : ".json".length = 5 := rfl
    omega

namespace Config

variable {fs fs' : FileSystem} {dir path x : String} {files : List String}

/-- A change does not reach what a path of settings leads to. Wherever the file is looked for, two
dots of the path leave no directory that is new. And where the path has come to lead somewhere, so
that a file is looked for that was not looked for before, none is found outward. -/
structure Spares (fs fs' : FileSystem) (path : String) : Prop where
  detours : ∀ dir ∈ fs.outward, OldDetours (fs.seenFrom dir) (fs'.seenFrom dir) path
  outward : fs'.has path → fs.has path ∨ ∀ dir ∈ fs.outward, (fs.seenFrom dir).hasFile path = false

/-- The settings of a path are the same as before if a confined change to files of other names
spares the path. -/
lemma contentOf_congr (h : Confined fs fs' dir files) (hfs : fs.Sound) (hx : Path.IsFileName x)
    (hfiles : x ∉ files) (hnames : ∃ front, Path.names path = front ++ [x])
    (hspares : Spares fs fs' path) : contentOf fs' path = contentOf fs path := by
  have houtward : fs'.outward = fs.outward := by rw [FileSystem.outward, h.here, FileSystem.outward]
  have hreads : ∀ dir ∈ fs.outward,
      ((fs'.seenFrom dir).read path).toOption = ((fs.seenFrom dir).read path).toOption := by
    intro dir hdir
    refine Option.ext fun content => ?_
    simp only [toOption_read_eq_some_iff]
    exact h.read_seenFrom_eq_ok_iff hfs hx hfiles hnames (hspares.detours dir hdir)
  have hsearch : (fs'.outward.findSome? fun dir => ((fs'.seenFrom dir).read path).toOption) =
      fs.outward.findSome? fun dir => ((fs.seenFrom dir).read path).toOption := by
    rw [houtward, ← List.head?_filterMap, ← List.head?_filterMap, List.filterMap_congr hreads]
  rw [contentOf, contentOf, hsearch]
  by_cases hold : fs.has path
  · rw [if_pos hold, if_pos (h.has_of_has hx hfiles hnames hold)]
  rw [if_neg hold]
  split_ifs with hnow
  · -- a file is looked for that was not looked for before
    refine List.findSome?_eq_none_iff.mpr fun dir hdir => ?_
    refine Option.eq_none_iff_forall_ne_some.mpr fun content hcontent => ?_
    have hfree := (hspares.outward hnow).resolve_left hold dir hdir
    rw [Bool.eq_false_iff] at hfree
    exact hfree (hasFile_iff.mpr ⟨content, toOption_read_eq_some_iff.mp hcontent⟩)
  · rfl

/-- The settings come from the same files as before, with the same content, if none of them has
changed and the paths of settings are spared. -/
lemma Sources.ofFiles_congr (h : Confined fs fs' dir files) (hfs : fs.Sound)
    (hfiles : "config.toml" ∉ files ∧ projectFile ∉ files) {account : Option String}
    {environment : List (String × String)}
    (hspares : ∀ path ∈ settingsFiles account environment, Spares fs fs' path) :
    Sources.ofFiles fs' account environment = Sources.ofFiles fs account environment := by
  have huser : Path.IsFileName "config.toml" :=
    Path.isFileName_of_length (by decide) (by decide) (by decide)
  have hproject : Path.IsFileName projectFile :=
    Path.isFileName_of_length (by decide) (by decide) (by decide)
  obtain ⟨husers, hprojects⟩ := List.forall_mem_append.mp hspares
  have husers' : (userFile account environment).bind (contentOf fs') =
      (userFile account environment).bind (contentOf fs) := by
    refine Option.bind_congr fun path hpath => ?_
    obtain ⟨dir, -, rfl⟩ := Option.map_eq_some_iff.mp hpath
    obtain ⟨front, hnames, -⟩ := huser.exists_names_join (Path.join dir "blueprint")
    exact contentOf_congr h hfs huser hfiles.1 ⟨front, hnames⟩
      (husers _ (Option.mem_toList.mpr hpath))
  have hproject' : contentOf fs' projectFile = contentOf fs projectFile :=
    contentOf_congr h hfs hproject hfiles.2 ⟨[], Path.names_of_notMem hproject.slash⟩
      (hprojects _ List.mem_cons_self)
  rw [Sources.ofFiles, Sources.ofFiles, husers', hproject']

end Config

namespace CommandLine

/-! ### Arguments -/

/-- A text that does not begin with a dash is no option. -/
lemma isOption_eq_false {s : String} (h : s.toList.head? ≠ some '-') : isOption s = false := by
  rw [isOption]
  split
  · rename_i hs
    rw [hs] at h
    exact absurd rfl h
  · rfl

/-- A plain argument that a command takes is added. -/
lemma read_plain {sig : Signature} {all : List Given} {s : String} {rest : List String}
    (h : s.toList.head? ≠ some '-') :
    sig.read all (s :: rest) = (do sig.read (← sig.add all (.plain s)) rest) := by
  have hne : s ≠ "--" := by
    rintro rfl
    exact h rfl
  rw [Signature.read, isOption_eq_false h]
  · rfl
  · exact hne

/-- An option with its value is added. -/
lemma read_option {sig : Signature} {all all' : List Given} {s v long : String} {kind : Kind}
    {rest : List String} (hs : isOption s) (hne : s ≠ "--")
    (h : sig.option all s = .ok (.waiting all' long kind))
    (hv : v.toList.head? ≠ some '-') :
    sig.read all (s :: v :: rest) = (do sig.read (← sig.add all' (.value long kind v)) rest) := by
  rw [Signature.read, hs, h]
  · simp [bind, Except.bind, isOption_eq_false hv]
  · exact hne

/-- A flag is added. -/
lemma read_flag {sig : Signature} {all all' : List Given} {s : String} {rest : List String}
    (hs : isOption s) (hne : s ≠ "--") (h : sig.option all s = .ok (.done all')) :
    sig.read all (s :: rest) = sig.read all' rest := by
  rw [Signature.read, hs, h]
  · rfl
  · exact hne

/-- The arguments that store a file under a name. -/
def storeArguments (file name : String) : List String := ["store", file, "--as", name]

/-- The arguments that generate a project from a diagram, or list its files. -/
def generateArguments (source name : String) (listOnly : Bool) : List String :=
  ["generate", source, "--name", name] ++ if listOnly then ["--list"] else []

/-- The arguments for storing are understood. -/
lemma ofArguments_store {file name : String} (hfile : file.toList.head? ≠ some '-')
    (hne : file ≠ "") (hname : name.toList.head? ≠ some '-') :
    Invocation.ofArguments (storeArguments file name) =
      .ok ⟨false, false, .store file (some name)⟩ := by
  obtain ⟨sig, hsig⟩ : ∃ sig, sig = Signature.mk (common ++ [⟨none, "as", .value .text⟩])
      (some .path) := ⟨_, rfl⟩
  have hsignature : signature? "store" = some sig := hsig ▸ rfl
  have hplain : sig.add [] (.plain file) = .ok [.plain file] := by
    simp [Signature.add, Kind.accepts, hne, hsig]
  have hvalue : sig.add [.plain file] (.value "as" .text name) =
      .ok [.plain file, .value "as" .text name] := by
    simp [Signature.add, Kind.accepts, Given.option?]
  have hread : sig.read [] [file, "--as", name] = .ok [.plain file, .value "as" .text name] := by
    rw [read_plain hfile, hplain]
    change sig.read _ _ = _
    rw [read_option (by decide) (by decide) (by rw [hsig]; rfl) hname, hvalue]
    rfl
  rw [storeArguments, Invocation.ofArguments, readLeading]
  simp [isOption, hsignature, bind, Except.bind, hread]
  rfl

/-- The arguments for generating are understood. -/
lemma ofArguments_generate {source name : String} (hsource : source.toList.head? ≠ some '-')
    (hname : name.toList.head? ≠ some '-') (listOnly : Bool) :
    Invocation.ofArguments (generateArguments source name listOnly) =
      .ok ⟨false, false, .generate source name none listOnly⟩ := by
  obtain ⟨sig, hsig⟩ : ∃ sig, sig = Signature.mk (common ++ [⟨some 'n', "name", .value .text⟩,
      ⟨some 'o', "out", .value .path⟩, ⟨none, "list", .flag⟩]) (some .text) := ⟨_, rfl⟩
  have hsignature : signature? "generate" = some sig := hsig ▸ rfl
  have hplain : sig.add [] (.plain source) = .ok [.plain source] := by
    simp [Signature.add, Kind.accepts, hsig]
  have hvalue : sig.add [.plain source] (.value "name" .text name) =
      .ok [.plain source, .value "name" .text name] := by
    simp [Signature.add, Kind.accepts, Given.option?]
  have hread : sig.read [] (source :: "--name" :: name :: if listOnly then ["--list"] else []) =
      .ok ([.plain source, .value "name" .text name] ++
        if listOnly then [.flag "list"] else []) := by
    rw [read_plain hsource, hplain]
    change sig.read _ _ = _
    rw [read_option (by decide) (by decide) (by rw [hsig]; rfl) hname, hvalue]
    change sig.read _ _ = _
    cases listOnly with
    | false => rfl
    | true =>
      rw [if_pos rfl, if_pos rfl, read_flag (by decide) (by decide) (by rw [hsig]; rfl)]
      rfl
  rw [generateArguments, Invocation.ofArguments, List.cons_append, readLeading]
  simp only [List.cons_append, List.nil_append]
  simp [isOption, hsignature, bind, Except.bind, hread]
  cases listOnly <;> rfl

/-! ### Runs -/

/-- Two runs are the same if their commands come to the same. -/
lemma run_congr {s s' : Surroundings} {arguments arguments' : List String} {i i' : Invocation}
    (h : Invocation.ofArguments arguments = .ok i) (h' : Invocation.ofArguments arguments' = .ok i')
    (henvironment : s'.environment = s.environment)
    (hflags : i'.quiet = i.quiet ∧ i'.verbose = i.verbose)
    (hrun : i'.command.run s' = i.command.run s) : run s' arguments' = run s arguments := by
  rw [run, run, h, h']
  dsimp only
  rw [henvironment, hflags.1, hflags.2, hrun]

/-- The steps of a run are those of its command. -/
lemma actions_run {s : Surroundings} {arguments : List String} {i : Invocation}
    (h : Invocation.ofArguments arguments = .ok i) :
    (run s arguments).actions = (i.command.run s).actions := by
  rw [run, h]

/-- Steps that succeed come to what was to be said then. -/
lemma perform_eq {s : Surroundings} {actions : List Action} (fail : FileError → Failure)
    (done : Result) (h : (Action.runAll s.files actions).2 = none) :
    perform s actions fail done = { done with actions } := by
  rw [perform]
  generalize Action.runAll s.files actions = outcome at h
  obtain ⟨fs, e⟩ := outcome
  obtain rfl : e = none := h
  rfl

/-- Whether or not they succeed, the steps are those that were to be taken. -/
lemma actions_perform (s : Surroundings) (actions : List Action) (fail : FileError → Failure)
    (done : Result) : (perform s actions fail done).actions = actions := by
  rw [perform]
  split <;> rfl

variable {s s' : Surroundings} {file name source source' project : String} {snapshot : Snapshot}
  {out : Option String} {listOnly : Bool}

/-- What delivering an archive into a directory comes to. -/
def delivered (s : Surroundings) (dir : String) (a : Archive) : Result :=
  perform s (a.deliverActions dir) (.delivery dir)
    { notes := [.event (.archiveDelivered (a.path dir) a.bytes.length)], output := [a.path dir] }

/-- What generating from a diagram comes to if archives are delivered in some way. -/
def generated (compress : Bytes → Bytes) (snapshot : Snapshot) (config : Config) (name : String)
    (listOnly : Bool) (deliver : Archive → Result) : Result :=
  let notes := (report .idle snapshot config name).map .event
  match generate snapshot config name with
  | .error e => { notes, failure := some (.archive (.generate e)) }
  | .ok tree =>
    if listOnly then { notes, output := tree.paths }
    else match generateArchive compress snapshot config name with
      | .error e => { notes, failure := some (.archive e) }
      | .ok a =>
        let packed := notes ++ [.event (.archivePacked tree.size a.bytes.length a.name)]
        { deliver a with notes := packed ++ (deliver a).notes }

/-- Without settings nothing is generated. -/
lemma generateCommand_of_error {e : Config.LoadError}
    (hload : Config.load s.sources = .error e) (source name : String)
    (out : Option String) (listOnly : Bool) :
    generateCommand s source name out listOnly = { failure := some (.configuration e) } := by
  unfold generateCommand
  rw [hload]

/-- With settings and a diagram, what is generated depends on the files in its delivery alone. -/
lemma generateCommand_of_ok {config : Config}
    (hload : Config.load s.sources = .ok config)
    (hdiagram : s.diagram source = .ok snapshot) (name : String) (out : Option String)
    (listOnly : Bool) :
    generateCommand s source name out listOnly =
      generated s.compress snapshot config name listOnly
        (delivered s (out.getD config.output.dir)) := by
  unfold generateCommand
  rw [hload]
  dsimp only
  rw [hdiagram]
  rfl

/-- What is generated takes the steps that deliver the archive, if it is not only listed. -/
lemma actions_generated {compress : Bytes → Bytes} {config : Config} {a : Archive}
    {deliver : Archive → Result}
    (harchive : generateArchive compress snapshot config name = .ok a) :
    (generated compress snapshot config name false deliver).actions = (deliver a).actions := by
  cases hgenerate : generate snapshot config name with
  | error e =>
    rw [generateArchive, hgenerate] at harchive
    cases harchive
  | ok tree =>
    unfold generated
    rw [hgenerate]
    dsimp only
    rw [harchive]
    rfl

/-- What is generated is the same if the archive is delivered in the same way. -/
lemma generated_congr {compress : Bytes → Bytes} {config : Config} {listOnly : Bool}
    {deliver deliver' : Archive → Result}
    (h : ∀ a, generateArchive compress snapshot config name = .ok a → listOnly = false →
      deliver a = deliver' a) :
    generated compress snapshot config name listOnly deliver =
      generated compress snapshot config name listOnly deliver' := by
  unfold generated
  dsimp only
  cases hgenerate : generate snapshot config name with
  | error e => rfl
  | ok tree =>
    cases listOnly with
    | true => rfl
    | false =>
      cases harchive : generateArchive compress snapshot config name with
      | error e => rfl
      | ok a => simp only [h a harchive rfl]

/-- Generating comes to the same wherever the same diagram is found, with the same settings, as long
as no step fails. -/
lemma generateCommand_congr (hcompress : s'.compress = s.compress)
    (hload : Config.load s'.sources =
      Config.load s.sources)
    (hdiagram : s.diagram source = .ok snapshot) (hdiagram' : s'.diagram source' = .ok snapshot)
    (hsteps : (Action.runAll s.files (generateCommand s source name out listOnly).actions).2 = none)
    (hsteps' :
      (Action.runAll s'.files (generateCommand s' source' name out listOnly).actions).2 = none) :
    generateCommand s' source' name out listOnly = generateCommand s source name out listOnly := by
  cases hconfig : Config.load s.sources with
  | error e =>
    rw [hconfig] at hload
    rw [generateCommand_of_error hload, generateCommand_of_error hconfig]
  | ok config =>
    rw [hconfig] at hload
    rw [generateCommand_of_ok hconfig hdiagram] at hsteps ⊢
    rw [generateCommand_of_ok hload hdiagram', hcompress] at hsteps' ⊢
    refine generated_congr fun a ha hlist => ?_
    subst hlist
    rw [actions_generated ha, delivered, actions_perform] at hsteps hsteps'
    rw [delivered, delivered, perform_eq _ _ hsteps, perform_eq _ _ hsteps']

/-- A diagram in a file is the one that the file refers to. -/
lemma diagram_of_ofFile (hfile : Snapshot.ofFile s.files file = .ok snapshot) :
    file ≠ "" ∧ s.diagram file = .ok snapshot := by
  have hread : ∃ content, s.files.read file = .ok content := by
    cases hread : s.files.read file with
    | ok content => exact ⟨content, rfl⟩
    | error e =>
      simp [Snapshot.ofFile, readText, hread, bind, Except.bind, Except.mapError] at hfile
  have hhas : s.files.hasFile file := hasFile_iff.mpr hread
  refine ⟨?_, ?_⟩
  · rintro rfl
    cases hhas
  · rw [Surroundings.diagram, if_pos hhas, hfile]
    rfl

/-- Storing takes the steps that publish the diagram. -/
lemma storeCommand_eq (hfile : Snapshot.ofFile s.files file = .ok snapshot)
    (hname : Store.isValidName name) :
    storeCommand s file (some name) = perform s (Action.publish s.store.dir (Store.draftName name)
        (Store.fileName name) (Text.bytes snapshot.toJson)) (fun e => .store (.file e))
      { notes := [.event (.snapshotWritten (s.store.path name)),
          .line ("Stored '" ++ name ++ "' (" ++ toString snapshot.classes.length ++ " classes, " ++
            toString snapshot.relations.length ++ " relations" ++ ")")] } := by
  have hwrite : s.store.writeActions name snapshot = .ok (Action.publish s.store.dir
      (Store.draftName name) (Store.fileName name) (Text.bytes snapshot.toJson)) := by
    rw [Store.writeActions, Store.checkName, if_pos hname]
    rfl
  unfold storeCommand
  rw [hfile]
  dsimp only
  rw [Option.getD_some, hwrite]
  simp only [String.append_assoc]

/-- No step of a run fails. -/
def StepsSucceed (s : Surroundings) (arguments : List String) : Prop :=
  (Action.runAll s.files (run s arguments).actions).2 = none

/-- What a run leaves to the next one. -/
def Surroundings.after (s : Surroundings) (arguments : List String) : Surroundings :=
  { s with files := (run s arguments).files s }

/-- A run that stores a diagram takes the steps that publish it. -/
lemma actions_store (hfile : Snapshot.ofFile s.files file = .ok snapshot)
    (hname : Store.isValidName name) (hfiledash : file.toList.head? ≠ some '-')
    (hnamedash : name.toList.head? ≠ some '-') :
    (run s (storeArguments file name)).actions = Action.publish s.store.dir
      (Store.draftName name) (Store.fileName name) (Text.bytes snapshot.toJson) := by
  rw [actions_run (ofArguments_store hfiledash (diagram_of_ofFile hfile).1 hnamedash), Command.run,
    storeCommand_eq hfile hname, actions_perform]

/-- A run that generates from a diagram takes the steps that deliver the archive. -/
lemma actions_generate {config : Config} {archive : Archive}
    (hload : Config.load s.sources = .ok config)
    (hdiagram : s.diagram source = .ok snapshot)
    (harchive : generateArchive s.compress snapshot config project = .ok archive)
    (hsource : source.toList.head? ≠ some '-') (hproject : project.toList.head? ≠ some '-') :
    (run s (generateArguments source project false)).actions =
      archive.deliverActions config.output.dir := by
  rw [actions_run (ofArguments_generate hsource hproject false), Command.run,
    generateCommand_of_ok hload hdiagram, actions_generated harchive, delivered, actions_perform]
  rfl

/-- After a diagram has been stored, its name refers to it, and the settings are those that they
were if their paths are spared. -/
lemma after_store (hfs : s.files.Sound) (hfile : Snapshot.ofFile s.files file = .ok snapshot)
    (hname : Store.isValidName name) (hfree : s.files.hasFile name = false)
    (hfiledash : file.toList.head? ≠ some '-') (hnamedash : name.toList.head? ≠ some '-')
    (hsteps : StepsSucceed s (storeArguments file name))
    (hspares : ∀ path ∈ Config.settingsFiles s.account s.environment,
      Config.Spares s.files (s.after (storeArguments file name)).files path) :
    (run s (storeArguments file name)).code = 0 ∧
      (s.after (storeArguments file name)).files.Sound ∧
      (s.after (storeArguments file name)).diagram name = .ok snapshot ∧
      (s.after (storeArguments file name)).sources = s.sources := by
  have hactions := actions_store hfile hname hfiledash hnamedash
  rw [StepsSucceed, hactions] at hsteps
  have hrun : Action.runAll s.files (Action.publish s.store.dir (Store.draftName name)
      (Store.fileName name) (Text.bytes snapshot.toJson)) =
        ((s.after (storeArguments file name)).files, none) := by
    refine Prod.ext ?_ hsteps
    rw [Surroundings.after, Run.files, hactions]
  have hcode : (run s (storeArguments file name)).code = 0 := by
    rw [run, ofArguments_store hfiledash (diagram_of_ofFile hfile).1 hnamedash]
    dsimp only
    rw [Command.run, storeCommand_eq hfile hname, perform_eq _ _ hsteps]
    rfl
  obtain ⟨hsound, hconfined, hread⟩ := Store.of_runAll_publish hfs hname hrun
  refine ⟨hcode, hsound, ?_, ?_⟩
  · have hnone : (s.after (storeArguments file name)).files.hasFile name = false := by
      rw [Bool.eq_false_iff] at hfree ⊢
      intro hhas
      obtain ⟨content, hcontent⟩ := hasFile_iff.mp hhas
      rw [hconfined.read_name_eq_ok_iff hfs (Store.isFileName_of_isValidName hname)
        (Store.self_notMem_files name)] at hcontent
      exact hfree (hasFile_iff.mpr ⟨content, hcontent⟩)
    have hstored : (s.after (storeArguments file name)).store.read
        (s.after (storeArguments file name)).files name = .ok snapshot := hread
    rw [Surroundings.diagram, hnone, if_neg Bool.false_ne_true, hstored]
    rfl
  · exact Config.Sources.ofFiles_congr hconfined hfs
      ⟨Store.notMem_files rfl, Store.notMem_files rfl⟩ hspares

/-- After the steps that deliver an archive, the archive is read under its name. -/
lemma read_after {arguments : List String} {config : Config} {archive : Archive} {dir : String}
    (hfs : s.files.Sound)
    (harchive : generateArchive s.compress snapshot config project = .ok archive)
    (hactions : (run s arguments).actions = archive.deliverActions dir)
    (hsteps : StepsSucceed s arguments) :
    (s.after arguments).files.read (archive.path dir) = .ok archive.bytes := by
  obtain ⟨hname, hdraft⟩ := Archive.isFileName_of_generateArchive harchive
  rw [StepsSucceed, hactions] at hsteps
  have hrun : Action.runAll s.files (Action.publish dir archive.draftName archive.name
      archive.bytes) = ((s.after arguments).files, none) := by
    refine Prod.ext ?_ hsteps
    rw [Surroundings.after, Run.files, hactions]
    rfl
  obtain ⟨-, hread, -⟩ := Action.confined_of_runAll_publish_eq_none hdraft hname
    (Archive.name_ne_draftName harchive) hfs hrun
  exact hread

/-- **Generating from a stored diagram.** A diagram that can be read from a file is stored under a
valid name that is not the path of a file. As long as no step on files fails, storing succeeds, and
generating by the name afterwards is the same run as generating from the file instead: it has the
same exit code, output and report, and takes the same steps, by which the same archive is delivered.
This needs that storing spares the paths of settings: two dots leave no new directory on them, and
none of them leads to something new while there is such a file further out. -/
theorem run_generate_stored (hfs : s.files.Sound)
    (hfile : Snapshot.ofFile s.files file = .ok snapshot) (hname : Store.isValidName name)
    (hfree : s.files.hasFile name = false)
    (hdashes : ∀ x ∈ [file, name, project], x.toList.head? ≠ some '-')
    (hstore : StepsSucceed s (storeArguments file name))
    (hdirect : StepsSucceed s (generateArguments file project listOnly))
    (hlater : StepsSucceed (s.after (storeArguments file name))
      (generateArguments name project listOnly))
    (hspares : ∀ path ∈ Config.settingsFiles s.account s.environment,
      Config.Spares s.files (s.after (storeArguments file name)).files path) :
    (run s (storeArguments file name)).code = 0 ∧
    run (s.after (storeArguments file name)) (generateArguments name project listOnly) =
      run s (generateArguments file project listOnly) ∧
    ∀ config archive, Config.load s.sources = .ok config →
      generateArchive s.compress snapshot config project = .ok archive → listOnly = false →
        (s.after (generateArguments file project listOnly)).files.read
          (archive.path config.output.dir) = .ok archive.bytes ∧
        ((s.after (storeArguments file name)).after
          (generateArguments name project listOnly)).files.read
            (archive.path config.output.dir) = .ok archive.bytes := by
  have hfiledash := hdashes file (by simp)
  have hnamedash := hdashes name (by simp)
  have hprojectdash := hdashes project (by simp)
  obtain ⟨hcode, hsound, hdiagram', hsources⟩ :=
    after_store hfs hfile hname hfree hfiledash hnamedash hstore hspares
  have hdiagram := (diagram_of_ofFile hfile).2
  have harguments := ofArguments_generate hfiledash hprojectdash listOnly
  have harguments' := ofArguments_generate hnamedash hprojectdash listOnly
  have hsame : run (s.after (storeArguments file name)) (generateArguments name project listOnly) =
      run s (generateArguments file project listOnly) := by
    rw [StepsSucceed, actions_run harguments, Command.run] at hdirect
    rw [StepsSucceed, actions_run harguments', Command.run] at hlater
    have hcompress : (s.after (storeArguments file name)).compress = s.compress := rfl
    have hcommand := generateCommand_congr hcompress (congrArg Config.load hsources) hdiagram
      hdiagram' hdirect hlater
    exact run_congr harguments harguments' rfl ⟨rfl, rfl⟩ hcommand
  refine ⟨hcode, hsame, fun config archive hload harchive hlist => ?_⟩
  subst hlist
  have hactions := actions_generate hload hdiagram harchive hfiledash hprojectdash
  exact ⟨read_after hfs harchive hactions hdirect,
    read_after hsound harchive (hsame ▸ hactions) hlater⟩

/-! ### Home directories -/

/-- A diagram of a shop. -/
def shop : Snapshot := { classes := [{ id := "i", name := "Item" }] }

/-- Settings with a port that no one can listen on. -/
def zeroPort : String := "[server]\nport = 0\n"

/-- The diagram of a shop in a file of the root, where the user is at home. -/
def shopAtHome : Surroundings where
  files := { nodes := [(["shop.json"], .file (Text.bytes shop.toJson))] }
  environment := [("HOME", "/")]

/-- The diagram of a shop in a file, settings of the user that are refused, and a home directory
with two dots behind a name that nothing has. -/
def shopAtWindingHome : Surroundings where
  files := { nodes := [(["shop.json"], .file (Text.bytes shop.toJson)), ([".config"], .directory),
    ([".config", "blueprint"], .directory),
    ([".config", "blueprint", "config.toml"], .file (Text.bytes zeroPort))] }
  environment := [("HOME", "a/..")]

/-- The diagram of a shop in the working directory, settings that are refused in the directory
above, and a missing home directory with the name of such settings. -/
def shopAtCoveredHome : Surroundings where
  files := { nodes := [(["w"], .directory), (["w", "c"], .directory),
      (["w", "c", "shop.json"], .file (Text.bytes shop.toJson)),
      (["w", "blueprint.toml"], .file (Text.bytes zeroPort))]
             here := ["w", "c"] }
  environment := [("HOME", "/w/c/blueprint.toml")]

/-- A variable for the home directory sets nothing. -/
lemma isForeign_home (dir : String) : ∀ v ∈ [("HOME", dir)], Environment.IsForeign v.1 := by
  have hhome : Environment.IsForeign "HOME" := by
    unfold Environment.IsForeign
    decide
  intro v hv
  rw [List.mem_singleton.mp hv]
  exact hhome

/-- The exit code tells whether generating fails. -/
lemma code_generate (hsource : source.toList.head? ≠ some '-')
    (hname : project.toList.head? ≠ some '-') :
    (run s (generateArguments source project listOnly)).code =
      if (generateCommand s source project none listOnly).failure.isSome then 1 else 0 := by
  rw [run, ofArguments_generate hsource hname]
  rfl

/-- Without files of settings the defaults are loaded. -/
lemma load_home (dir : String) : Config.load { environment := [("HOME", dir)] } = .ok {} := by
  have hnone : Config.document? none = some {} := rfl
  have hload := Config.load_of_isForeign (s := { environment := [("HOME", dir)] }) hnone hnone
    ⟨Config.hasSections_empty, Config.hasSections_empty⟩ (isForeign_home dir)
    (Config.at?_toSetting_of_mem {})
  rw [hload]
  rfl

/-- With a port of zero in the file of the user or in that of the project, nothing is loaded. -/
lemma load_zeroPort (dir : String) :
    Config.load ⟨some (Text.bytes zeroPort), none, [("HOME", dir)]⟩ =
        .error (.invalid .zeroPort) ∧
      Config.load ⟨none, some (Text.bytes zeroPort), [("HOME", dir)]⟩ =
        .error (.invalid .zeroPort) := by
  have hparse : (Toml.Document.parse? zeroPort).map Toml.Document.values =
      some [("server", .table [("port", .integer 0)])] := by
    rw [zeroPort]
    cbv
  obtain ⟨d, hd, hvalues⟩ := Option.map_eq_some_iff.mp hparse
  have hnone : Config.document? none = some {} := rfl
  have hdocument := (Config.document?_bytes zeroPort).trans hd
  have hsections : Config.HasSections d := Config.hasSections_of_values hvalues rfl
  have hsettings : ∀ block ∈ ({ server := { port := 0 } } : Config).settings,
      ∀ e ∈ block.2, ((d.value? block.1 e.1).map Setting.ofValue).or
        (({} : Config).toSetting.at? block.1 e.1) = some e.2 := by
    simp only [Toml.Document.value?_of_values hvalues, Config.settings, List.forall_mem_cons,
      List.not_mem_nil, false_implies, implies_true, and_true]
    exact ⟨⟨rfl, rfl, rfl, rfl⟩, rfl, ⟨rfl, rfl, rfl⟩, rfl⟩
  have huser := Config.load_of_isForeign (s := ⟨some (Text.bytes zeroPort), none, [("HOME", dir)]⟩)
    hdocument hnone ⟨Config.hasSections_empty, hsections⟩ (isForeign_home dir) hsettings
  have hproject := Config.load_of_isForeign
    (s := ⟨none, some (Text.bytes zeroPort), [("HOME", dir)]⟩)
    hnone hdocument ⟨hsections, Config.hasSections_empty⟩ (isForeign_home dir) hsettings
  exact ⟨huser.trans rfl, hproject.trans rfl⟩

/-- A diagram that has been written as text is read from the file. -/
lemma ofFile_of_readText (h : s.files.readText file = .ok snapshot.toJson) :
    Snapshot.ofFile s.files file = .ok snapshot := by
  have hjson : Snapshot.ofJson snapshot.toJson = .ok snapshot :=
    Json.Record.ofText_pretty snapshot.read_toValue
  simp [Snapshot.ofFile, h, hjson, bind, Except.bind, Except.mapError]

/-- At home the diagram of the shop is found, and the defaults are loaded. -/
lemma shopAtHome_spec : shopAtHome.files.Sound ∧
    Snapshot.ofFile shopAtHome.files "shop.json" = .ok shop ∧
    Config.load shopAtHome.sources = .ok {} := by
  refine ⟨?_, ?_, ?_⟩
  · refine sound_of_forall_mem (by decide) ?_ ?_ rfl
    · simp [shopAtHome]
    · simp [shopAtHome, longestName]
      decide
  · exact ofFile_of_readText (@readText_of_locate _ ["shop.json"] _ _ rfl rfl)
  · exact load_home "/"

/-- At home the diagram of the shop can be stored and generated from in either way. -/
theorem run_generate_stored_shopAtHome :
    (run shopAtHome (storeArguments "shop.json" "shop")).code = 0 ∧
    run (shopAtHome.after (storeArguments "shop.json" "shop"))
        (generateArguments "shop" "Shop" false) =
      run shopAtHome (generateArguments "shop.json" "Shop" false) := by
  obtain ⟨hfs, hfile, hload⟩ := shopAtHome_spec
  obtain ⟨archive, harchive⟩ := Snapshot.exists_generateArchive Gzip.store {} "Shop" (s := shop) rfl
  have hname : archive.name = "shop.tar.gz" :=
    (Archive.name_of_generateArchive harchive).trans (by decide +kernel)
  have hdeliver : archive.deliverActions "." =
      Action.publish "." ".shop.tar.gz.tmp" "shop.tar.gz" archive.bytes := by
    rw [Archive.deliverActions, Archive.draftName, hname]
    rfl
  have hactions : (run shopAtHome (storeArguments "shop.json" "shop")).actions = _ :=
    actions_store hfile (by decide) (by decide) (by decide)
  have hstore : StepsSucceed shopAtHome (storeArguments "shop.json" "shop") := by
    rw [StepsSucceed, hactions]
    decide +kernel
  have hpaths : ∀ path ∈ Config.settingsFiles shopAtHome.account shopAtHome.environment,
      ".." ∉ Path.names path ∧
        (shopAtHome.after (storeArguments "shop.json" "shop")).files.has path = false := by
    rw [Surroundings.after, Run.files, hactions]
    decide +kernel
  have hspares : ∀ path ∈ Config.settingsFiles shopAtHome.account shopAtHome.environment,
      Config.Spares shopAtHome.files
        (shopAtHome.after (storeArguments "shop.json" "shop")).files path := by
    intro path hpath
    obtain ⟨hdots, hfree⟩ := hpaths path hpath
    exact ⟨fun _ _ => oldDetours_of_notMem hdots, fun hhas => by rw [hfree] at hhas; cases hhas⟩
  obtain ⟨-, -, hdiagram, hsources⟩ :=
    after_store hfs hfile (by decide) rfl (by decide) (by decide) hstore hspares
  have hdirect : StepsSucceed shopAtHome (generateArguments "shop.json" "Shop" false) := by
    rw [StepsSucceed, actions_generate hload (diagram_of_ofFile hfile).2 harchive (by decide)
      (by decide), hdeliver]
    rfl
  have hlater : StepsSucceed (shopAtHome.after (storeArguments "shop.json" "shop"))
      (generateArguments "shop" "Shop" false) := by
    rw [StepsSucceed, actions_generate ((congrArg Config.load hsources).trans hload) hdiagram
      harchive (by decide) (by decide), hdeliver, Surroundings.after, Run.files, hactions]
    rfl
  obtain ⟨hcode, hsame, -⟩ := run_generate_stored hfs hfile (by decide) rfl (by decide) hstore
    hdirect hlater hspares
  exact ⟨hcode, hsame⟩

/-- Listing the files of a diagram with classes succeeds. -/
lemma code_generate_list {config : Config} (hload : Config.load s.sources = .ok config)
    (hdiagram : s.diagram source = .ok snapshot) (hclasses : snapshot.isEmpty = false)
    (hsource : source.toList.head? ≠ some '-') (hproject : project.toList.head? ≠ some '-') :
    (run s (generateArguments source project true)).code = 0 ∧
      StepsSucceed s (generateArguments source project true) := by
  have hgenerated : ∃ result : Result, generateCommand s source project none true = result ∧
      result.failure = none ∧ result.actions = [] := by
    refine ⟨_, generateCommand_of_ok hload hdiagram project none true, ?_⟩
    unfold generated
    rw [Snapshot.generate_eq config project hclasses]
    exact ⟨rfl, rfl⟩
  obtain ⟨result, hresult, hfailure, hactions⟩ := hgenerated
  rw [code_generate hsource hproject, StepsSucceed,
    actions_run (ofArguments_generate hsource hproject true), Command.run, hresult, hfailure,
    hactions]
  exact ⟨rfl, rfl⟩

/-- Where the settings are refused after storing and not before, listing succeeds before alone. -/
lemma code_generate_list_after {config : Config} {e : Config.LoadError}
    (hload : Config.load s.sources = .ok config)
    (hfile : Snapshot.ofFile s.files file = .ok snapshot)
    (hrefused : Config.load (s.after (storeArguments file name)).sources = .error e)
    (hclasses : snapshot.isEmpty = false)
    (hdashes : ∀ x ∈ [file, name, project], x.toList.head? ≠ some '-') :
    StepsSucceed s (generateArguments file project true) ∧
    StepsSucceed (s.after (storeArguments file name)) (generateArguments name project true) ∧
    (run s (generateArguments file project true)).code = 0 ∧
    (run (s.after (storeArguments file name)) (generateArguments name project true)).code = 1 := by
  have hnamedash := hdashes name (by simp)
  have hprojectdash := hdashes project (by simp)
  obtain ⟨hcode, hdirect⟩ := code_generate_list hload (diagram_of_ofFile hfile).2 hclasses
    (hdashes file (by simp)) hprojectdash
  have hlater := generateCommand_of_error hrefused name project none true
  refine ⟨hdirect, ?_, hcode, ?_⟩
  · rw [StepsSucceed, actions_run (ofArguments_generate hnamedash hprojectdash true), Command.run,
      hlater]
    rfl
  · rw [code_generate hnamedash hprojectdash, hlater]
    rfl

/-- With the winding home the diagram of the shop is found, and the defaults are loaded. -/
lemma shopAtWindingHome_spec : shopAtWindingHome.files.Sound ∧
    Snapshot.ofFile shopAtWindingHome.files "shop.json" = .ok shop ∧
    Config.load shopAtWindingHome.sources = .ok {} := by
  refine ⟨?_, ?_, ?_⟩
  · refine sound_of_forall_mem (by decide) ?_ ?_ rfl
    · simp [shopAtWindingHome, get?, List.lookup]
    · simp [shopAtWindingHome, longestName]
      decide
  · exact ofFile_of_readText (@readText_of_locate _ ["shop.json"] _ _ rfl rfl)
  · exact load_home "a/.."

/-- With the winding home the diagram of the shop can be stored, and its files can be listed before,
but not afterwards: storing makes the directory that was missing on the way to the settings of the
user, and these are refused. -/
theorem run_generate_shopAtWindingHome : shopAtWindingHome.files.Sound ∧
    Snapshot.ofFile shopAtWindingHome.files "shop.json" = .ok shop ∧
    Store.isValidName "shop" ∧ shopAtWindingHome.files.hasFile "shop" = false ∧
    StepsSucceed shopAtWindingHome (storeArguments "shop.json" "shop") ∧
    StepsSucceed shopAtWindingHome (generateArguments "shop.json" "Shop" true) ∧
    StepsSucceed (shopAtWindingHome.after (storeArguments "shop.json" "shop"))
      (generateArguments "shop" "Shop" true) ∧
    (run shopAtWindingHome (generateArguments "shop.json" "Shop" true)).code = 0 ∧
    (run (shopAtWindingHome.after (storeArguments "shop.json" "shop"))
      (generateArguments "shop" "Shop" true)).code = 1 := by
  obtain ⟨hfs, hfile, hload⟩ := shopAtWindingHome_spec
  have hactions : (run shopAtWindingHome (storeArguments "shop.json" "shop")).actions = _ :=
    actions_store hfile (by decide) (by decide) (by decide)
  have hstore : StepsSucceed shopAtWindingHome (storeArguments "shop.json" "shop") := by
    rw [StepsSucceed, hactions]
    decide
  have hrefused :
      Config.load (shopAtWindingHome.after (storeArguments "shop.json" "shop")).sources =
      .error (.invalid .zeroPort) := by
    rw [Surroundings.after, Run.files, hactions]
    refine (congrArg Config.load ?_).trans (load_zeroPort "a/..").1
    rw [Surroundings.sources, Config.Sources.ofFiles]
    exact congrArg₂ (Config.Sources.mk · · [("HOME", "a/..")]) (by decide +kernel)
      (by decide +kernel)
  exact ⟨hfs, hfile, by decide, by decide, hstore,
    code_generate_list_after hload hfile hrefused rfl (by decide)⟩

/-- With the covered home the diagram of the shop is found, and the defaults are loaded. -/
lemma shopAtCoveredHome_spec : shopAtCoveredHome.files.Sound ∧
    Snapshot.ofFile shopAtCoveredHome.files "shop.json" = .ok shop ∧
    Config.load shopAtCoveredHome.sources = .ok {} := by
  refine ⟨?_, ?_, ?_⟩
  · refine sound_of_forall_mem (by decide) ?_ ?_ rfl
    · simp [shopAtCoveredHome, get?, List.lookup]
    · simp [shopAtCoveredHome, longestName]
      decide
  · exact ofFile_of_readText (@readText_of_locate _ ["w", "c", "shop.json"] _ _ rfl rfl)
  · exact load_home "/w/c/blueprint.toml"

/-- Without two dots in any path of settings, generating can fail after storing still: with the
covered home, storing makes a directory with the name of the settings of the project, and then such
settings are looked for outward, where they are refused. -/
theorem run_generate_shopAtCoveredHome : shopAtCoveredHome.files.Sound ∧
    Snapshot.ofFile shopAtCoveredHome.files "shop.json" = .ok shop ∧
    Store.isValidName "shop" ∧ shopAtCoveredHome.files.hasFile "shop" = false ∧
    (∀ path ∈ Config.settingsFiles shopAtCoveredHome.account shopAtCoveredHome.environment,
      ".." ∉ Path.names path) ∧
    StepsSucceed shopAtCoveredHome (storeArguments "shop.json" "shop") ∧
    StepsSucceed shopAtCoveredHome (generateArguments "shop.json" "Shop" true) ∧
    StepsSucceed (shopAtCoveredHome.after (storeArguments "shop.json" "shop"))
      (generateArguments "shop" "Shop" true) ∧
    (run shopAtCoveredHome (generateArguments "shop.json" "Shop" true)).code = 0 ∧
    (run (shopAtCoveredHome.after (storeArguments "shop.json" "shop"))
      (generateArguments "shop" "Shop" true)).code = 1 := by
  obtain ⟨hfs, hfile, hload⟩ := shopAtCoveredHome_spec
  have hactions : (run shopAtCoveredHome (storeArguments "shop.json" "shop")).actions = _ :=
    actions_store hfile (by decide) (by decide) (by decide)
  have hstore : StepsSucceed shopAtCoveredHome (storeArguments "shop.json" "shop") := by
    rw [StepsSucceed, hactions]
    decide
  have hrefused :
      Config.load (shopAtCoveredHome.after (storeArguments "shop.json" "shop")).sources =
      .error (.invalid .zeroPort) := by
    rw [Surroundings.after, Run.files, hactions]
    refine (congrArg Config.load ?_).trans (load_zeroPort "/w/c/blueprint.toml").2
    rw [Surroundings.sources, Config.Sources.ofFiles]
    exact congrArg₂ (Config.Sources.mk · · [("HOME", "/w/c/blueprint.toml")]) (by decide +kernel)
      (by decide +kernel)
  exact ⟨hfs, hfile, by decide, by decide, by decide, hstore,
    code_generate_list_after hload hfile hrefused rfl (by decide)⟩

end CommandLine

end CrudScaffold

import CrudScaffold.Proofs.Archive.Delivery

/-!
# Projects stay in their directory

The names of a project and of its classes are free text, and the paths of its files are made from
them. Still every path is a row of plain names of ASCII letters, digits, dots and hyphens that
begins with the artifact id, so that wherever a project is unpacked or delivered, it stays in one
directory.

The text of a path is known character by character (`IsPathText`); that no name leads back is known
from portable paths.
-/

namespace CrudScaffold

open Naming

/-! ### Characters of paths -/

/-- A character of a name in a path: an ASCII letter or digit, a dot or a hyphen. -/
def IsPathChar (c : Char) : Prop := c.isAlphanum ∨ c = '.' ∨ c = '-'

/-- Whether a character may stand in a name of a path can be decided. -/
instance : DecidablePred IsPathChar := fun c =>
  inferInstanceAs (Decidable (c.isAlphanum = true ∨ c = '.' ∨ c = '-'))

/-- A text of names with slashes between them. -/
def IsPathText (s : String) : Prop := ∀ c ∈ s.toList, IsPathChar c ∨ c = '/'

/-- Whether a text consists of names and slashes can be decided. -/
instance : DecidablePred IsPathText := fun s =>
  List.decidableBAll (fun c => IsPathChar c ∨ c = '/') s.toList

/-- Names in paths are ASCII. -/
lemma IsPathChar.toNat_lt {c : Char} (h : IsPathChar c) : c.toNat < 128 := by
  rcases h with h | rfl | rfl
  · have hcode := isWordChar_iff.mp h
    omega
  · decide
  · decide

/-- Paths can be put together. -/
lemma IsPathText.append {a b : String} (ha : IsPathText a) (hb : IsPathText b) :
    IsPathText (a ++ b) := by
  intro c hc
  rw [String.toList_append] at hc
  exact (List.mem_append.mp hc).elim (ha c) (hb c)

/-- A name of a type may stand in a path. -/
lemma Naming.IsName.isPathText {n : String} (h : IsName n) : IsPathText n :=
  fun c hc => .inl (.inl (h.chars c hc))

/-- Words with separators that may stand in a path may do so. -/
lemma isPathText_of_words {s : String} {ws : List (List Char)} {sep : Char}
    (hws : ∀ w ∈ ws, IsSmallWord w) (hs : s.toList = List.intercalate [sep] ws)
    (hsep : IsPathChar sep ∨ sep = '/') : IsPathText s := by
  intro c hc
  rcases mem_intercalate (hs ▸ hc) with rfl | ⟨w, hw, hcw⟩
  · exact hsep
  · exact .inl (.inl ((hws w hw).isWord.chars c hcw))

/-! ### Names of paths -/

/-- A name of its own in a path, which leads neither back nor nowhere. -/
structure IsPathName (x : String) : Prop where
  ne_empty : x ≠ ""
  ne_dot : x ≠ "."
  ne_dots : x ≠ ".."
  chars : ∀ c ∈ x.toList, IsPathChar c

/-- The names of a portable path are names of their own. -/
lemma IsPortable.isPathName {path : String} (h : IsPortable path) (htext : IsPathText path) :
    ∀ x ∈ Path.names path, IsPathName x := by
  intro x hx
  have hmem := hx
  rw [Path.names_eq] at hx
  obtain ⟨part, hpart, rfl⟩ := List.mem_map.mp hx
  obtain ⟨hempty, hdot, hdots⟩ := h.components part hpart
  have hlist : ∀ y : String, String.ofList part = y → part = y.toList := by
    rintro y rfl
    rw [String.toList_ofList]
  refine ⟨fun he => hempty (hlist _ he), fun he => hdot (hlist _ he), fun he => hdots ?_, ?_⟩
  · rw [hlist _ he]
    exact List.prefix_rfl
  · intro c hc
    obtain ⟨hpath, hslash⟩ := Path.of_mem_names hmem hc
    exact (htext c hpath).resolve_right hslash

/-- What is located by the name of a file in a directory stands in that directory. -/
lemma FileSystem.exists_opens_of_locate {fs : FileSystem} {dir x : String} {p : Place}
    (hx : Path.IsFileName x) (h : fs.locate (Path.join dir x) = .ok p) :
    ∃ d, fs.Opens dir d ∧ p = d ++ [x] := by
  obtain ⟨d, hd, -, rfl⟩ := (locate_join_eq_ok_iff hx).mp h
  exact ⟨d, hd, rfl⟩

/-- Names of their own lead down, one after the other. -/
lemma FileSystem.Leads.eq_append {fs : FileSystem} {p q : Place} {names : List String}
    (h : fs.Leads p names q) (hnames : ∀ x ∈ names, IsPathName x) : q = p ++ names := by
  have hdescent : Path.descent names = names := by
    refine List.filter_eq_self.mpr fun x hx => ?_
    simpa using (hnames x hx).ne_dot
  have hq := h.eq_descent (fun hm => (hnames _ hm).ne_empty rfl) fun hm => (hnames _ hm).ne_dots rfl
  rw [hq, hdescent]

namespace Layout

/-! ### Paths of a project -/

variable (name : String)

/-- An artifact id may stand in a path. -/
lemma isPathText_artifactId : IsPathText (ofName name).artifactId := by
  obtain ⟨ws, -, hws, -, -, hlist⟩ := exists_words name
  exact isPathText_of_words hws hlist (.inl (by decide))

/-- The names of a path of a project begin with the artifact id. -/
lemma names_projectFile (relative : String) : Path.names ((ofName name).projectFile relative) =
    (ofName name).artifactId :: Path.names relative := by
  rw [projectFile_eq, Path.names_append_slash, Path.names_of_notMem (notMem_artifactId name).1]
  rfl

/-- The paths of a project are relative. -/
lemma isAbsolute_projectFile (relative : String) :
    Path.isAbsolute ((ofName name).projectFile relative) = false := by
  have hid : Path.IsSegment (ofName name).artifactId :=
    ⟨artifactId_ne_empty name, (notMem_artifactId name).1⟩
  rw [projectFile_eq, String.append_assoc, Path.isAbsolute_append hid.ne_empty,
    hid.isAbsolute_eq_false]

/-- The path of a source file is one if the rest of it may stand in a path. -/
lemma exists_projectFile_of_sourceFile {relative : String} (h : IsPathText relative) :
    ∃ rest, (ofName name).sourceFile relative = (ofName name).projectFile rest ∧
      IsPathText rest := by
  obtain ⟨ws, -, hws, -, hlist, -⟩ := exists_words name
  have hdir : IsPathText (ofName name).packageDir := isPathText_of_words hws hlist (.inr rfl)
  have hsources : IsPathText "src/main/java/" := by decide
  have hslash : IsPathText "/" := by decide
  exact ⟨_, sourceFile_eq _ _, ((hsources.append hdir).append hslash).append h⟩

/-- The files of a type are in the directory of the project. -/
lemma exists_projectFile_of_artifactPath (kind : ArtifactKind) {n : String} (hn : IsName n) :
    ∃ rest, (ofName name).artifactPath kind n = (ofName name).projectFile rest ∧
      IsPathText rest := by
  have hlayer : IsPathText (kind.layer ++ "/") := by cases kind <;> decide
  have hending : IsPathText kind.ending := by cases kind <;> decide
  have hjava : IsPathText ".java" := by decide
  exact exists_projectFile_of_sourceFile name
    ((hlayer.append (hn.isPathText.append hending)).append hjava)

/-- The files of the project itself are in its directory. -/
lemma exists_projectFile_of_mem_ownPaths {path : String} (h : path ∈ (ofName name).ownPaths) :
    ∃ rest, path = (ofName name).projectFile rest ∧ IsPathText rest := by
  simp only [ownPaths, List.mem_cons, List.not_mem_nil, or_false] at h
  rcases h with rfl | rfl | rfl | rfl
  · exact ⟨_, rfl, by decide⟩
  · exact ⟨_, rfl, by decide⟩
  · exact ⟨_, rfl, by decide⟩
  · have hending : IsPathText ".java" := by decide
    exact exists_projectFile_of_sourceFile name
      ((isName_applicationType name).isPathText.append hending)

end Layout

/-- All files of a run are in the directory of the project. -/
lemma Snapshot.exists_projectFile_of_mem_paths {s : Snapshot} {config : Config} {name path : String}
    (h : path ∈ (FileTree.ofList (s.files config name)).paths) :
    ∃ rest, path = (Layout.ofName name).projectFile rest ∧ IsPathText rest := by
  rw [paths_ofList_files] at h
  rcases List.mem_append.mp h with h | h
  · exact Layout.exists_projectFile_of_mem_ownPaths name h
  · obtain ⟨n, hn, hpath⟩ := List.mem_flatMap.mp h
    obtain ⟨kind, -, rfl⟩ := List.mem_map.mp hpath
    exact Layout.exists_projectFile_of_artifactPath name kind
      (isName_of_mem_typeNames (List.mem_eraseDups.mp hn))

/-! ### Separators -/

/-- A text with one separator in place of another one. -/
def exchange (sep sep' : Char) (s : String) : String :=
  String.ofList (s.toList.map fun c => if c == sep then sep' else c)

/-- Words keep their place if their separator is exchanged. -/
lemma exchange_of_words {s t : String} {ws : List (List Char)} {sep sep' : Char}
    (hsep : ¬ isWordChar sep) (hws : ∀ w ∈ ws, IsSmallWord w)
    (hs : s.toList = List.intercalate [sep] ws) (ht : t.toList = List.intercalate [sep'] ws) :
    exchange sep sep' s = t := by
  refine String.toList_injective ?_
  rw [exchange, String.toList_ofList, hs, ht]
  exact map_intercalate (fun w hw hmem => hsep ((hws w hw).isWord.chars _ hmem)) sep'

/-- Words of small letters and digits with hyphens between them. -/
def IsArtifactId (s : String) : Prop :=
  ∃ ws : List (List Char), ws ≠ [] ∧ (∀ w ∈ ws, IsSmallWord w) ∧
    s.toList = List.intercalate ['-'] ws

/-- **Projects stay in their directory.** Whatever a project and its classes are called, the project
is generated and packed. All its paths are ASCII and relative; they begin with the artifact id,
which is made of words of small letters and digits, and go on with names of ASCII letters, digits,
dots and hyphens. Wherever they are looked up, they lead into the directory with the artifact id.
The archive has the name of that directory with an ending, and is delivered as one file of the
directory that it is delivered to. Package, directory and artifact id are one another with other
separators. -/
theorem Snapshot.generate_confined (compress : Bytes → Bytes) (s : Snapshot)
    (config : Config) (name : String) (hs : s.isEmpty = false) :
    let layout := Layout.ofName name
    (∃ tree, generate s config name = .ok tree ∧ ∀ path ∈ tree.paths,
      (∀ c ∈ path.toList, c.toNat < 128) ∧ Path.isAbsolute path = false ∧
      (∃ rest, rest ≠ [] ∧ Path.names path = layout.artifactId :: rest) ∧
      (∀ x ∈ Path.names path, IsPathName x) ∧
      ∀ (fs : FileSystem) (p q : Place), fs.Leads p (Path.names path) q →
        p ++ [layout.artifactId] <+: q) ∧
    IsArtifactId layout.artifactId ∧
    (∃ archive, generateArchive compress s config name = .ok archive ∧
      archive.name = layout.artifactId ++ ".tar.gz" ∧
      ∀ (fs : FileSystem) (dir : String) (p : Place),
        (fs.locate (archive.path dir) = .ok p → ∃ d, fs.Opens dir d ∧ p = d ++ [archive.name]) ∧
        (fs.locate (Path.join dir archive.draftName) = .ok p →
          ∃ d, fs.Opens dir d ∧ p = d ++ [archive.draftName])) ∧
    exchange '.' '/' layout.package = layout.packageDir ∧
    exchange '.' '-' layout.package = layout.artifactId ∧
    exchange '/' '.' layout.packageDir = layout.package ∧
    exchange '/' '-' layout.packageDir = layout.artifactId ∧
    exchange '-' '.' layout.artifactId = layout.package ∧
    exchange '-' '/' layout.artifactId = layout.packageDir := by
  intro layout
  obtain ⟨ws, hne, hws, hpackage, hdir, hid⟩ := Layout.exists_words name
  refine ⟨⟨_, generate_eq config name hs, fun path hpath => ?_⟩, ⟨ws, hne, hws, hid⟩, ?_,
    exchange_of_words (by decide) hws hpackage hdir,
    exchange_of_words (by decide) hws hpackage hid,
    exchange_of_words (by decide) hws hdir hpackage,
    exchange_of_words (by decide) hws hdir hid,
    exchange_of_words (by decide) hws hid hpackage,
    exchange_of_words (by decide) hws hid hdir⟩
  · obtain ⟨relative, rfl, hrelative⟩ := exists_projectFile_of_mem_paths hpath
    have hportable := isPortable_of_mem_paths hpath
    have htext : IsPathText (layout.projectFile relative) :=
      ((Layout.isPathText_artifactId name).append (by decide)).append hrelative
    have hnames : Path.names (layout.projectFile relative) =
        layout.artifactId :: Path.names relative := Layout.names_projectFile name relative
    have hplain := hportable.isPathName htext
    refine ⟨fun c hc => ?_, Layout.isAbsolute_projectFile name relative, ⟨_, ?_, hnames⟩, hplain,
      fun fs p q hq => ?_⟩
    · rcases htext c hc with h | rfl
      · exact h.toNat_lt
      · decide
    · rw [Path.names_eq]
      exact fun hnil => List.splitOn_ne_nil _ _ (List.map_eq_nil_iff.mp hnil)
    · rw [hq.eq_append hplain, hnames]
      exact ⟨Path.names relative, by simp⟩
  · obtain ⟨archive, harchive⟩ := exists_generateArchive compress config name hs
    obtain ⟨hname, hdraft⟩ := Archive.isFileName_of_generateArchive harchive
    exact ⟨archive, harchive, Archive.name_of_generateArchive harchive, fun fs dir p =>
      ⟨FileSystem.exists_opens_of_locate hname, FileSystem.exists_opens_of_locate hdraft⟩⟩

/-- A diagram whose classes are called like paths that lead elsewhere. -/
def Snapshot.hostileNames : Snapshot where
  classes := [{ id := "../..", name := "../../etc/passwd" }, { id := "/", name := "\x00..\\" }]

/-- A project with such classes that is itself called like a path stays in its directory. -/
theorem Snapshot.generate_confined_hostileNames :
    hostileNames.isEmpty = false ∧
    ∃ tree archive, generate hostileNames {} "/../Ñandú//x" = .ok tree ∧
      "nandu-x/src/main/java/nandu/x/model/EtcPasswd.java" ∈ tree.paths ∧
      (∀ path ∈ tree.paths, ∃ rest, Path.names path = "nandu-x" :: rest ∧ ".." ∉ rest) ∧
      generateArchive Gzip.store hostileNames {} "/../Ñandú//x" = .ok archive ∧
      archive.name = "nandu-x.tar.gz" := by
  have hs : hostileNames.isEmpty = false := rfl
  have hid : (Layout.ofName "/../Ñandú//x").artifactId = "nandu-x" := by decide +kernel
  have htype : "EtcPasswd" ∈ hostileNames.typeNames.eraseDups := by decide +kernel
  have hpath : (Layout.ofName "/../Ñandú//x").artifactPath .model "EtcPasswd" =
      "nandu-x/src/main/java/nandu/x/model/EtcPasswd.java" := by decide +kernel
  obtain ⟨⟨tree, htree, hpaths⟩, -, ⟨archive, harchive, hname, -⟩, -⟩ :=
    generate_confined Gzip.store hostileNames {} "/../Ñandú//x" hs
  refine ⟨hs, tree, archive, htree, ?_, fun path hmem => ?_, harchive, by rw [hname, hid]; rfl⟩
  · rw [generate_eq {} _ hs] at htree
    obtain rfl := Except.ok.inj htree
    rw [paths_ofList_files, ← hpath]
    refine List.mem_append_right _ (List.mem_flatMap.mpr ⟨_, htype, ?_⟩)
    exact List.mem_map_of_mem (by decide)
  · obtain ⟨-, -, ⟨rest, -, hnames⟩, hplain, -⟩ := hpaths path hmem
    rw [hid] at hnames
    refine ⟨rest, hnames, fun hdots => (hplain ".." ?_).ne_dots rfl⟩
    rw [hnames]
    exact List.mem_cons_of_mem _ hdots

end CrudScaffold

import CrudScaffold.Proofs.Java.Line
import CrudScaffold.Proofs.Project.Confinement
import CrudScaffold.Proofs.Project.FileMap
import CrudScaffold.Proofs.Project.Markup

/-!
# What the manifest says

The manifest of a project is markup with the names, the title and the versions of the project in it.
The names are made of letters and digits, and the title is escaped, so both are read as what they
are. The versions stand in the manifest as they are written in the settings. So the manifest is read
as what it is meant to say if the versions are plain, and only then (`generate_manifest_iff`).
-/

namespace CrudScaffold

open Markup Naming

/-! ### Code that is markup -/

namespace Code

open Reader

variable {code : List Code} {fields more : List Markup.Field} {P Q : Prop} {text name t : String}

/-- Code adds fields to the element it is in, at any level, if a condition holds, and only then. -/
def ReadsIff (code : List Code) (fields : List Markup.Field) (condition : Prop) : Prop :=
  ∀ level, Reader.ReadsIff (textOf (linesOf level code)).toList fields condition

/-- A line at a level is the line behind some space. -/
lemma exists_toList_indented (level : Nat) (text : String) :
    ∃ space, space.all isSpace ∧ (indented level text).toList = space ++ text.toList := by
  rw [indented]
  split_ifs with hempty
  · exact ⟨[], rfl, by rw [String.isEmpty_iff.mp hempty]; rfl⟩
  · refine ⟨List.replicate (4 * level) ' ', ?_, by rw [String.toList_append, String.toList_ofList]⟩
    exact List.all_eq_true.mpr fun c hc => List.eq_of_mem_replicate hc ▸ rfl

@[simp] lemma readsIff_nil : ReadsIff [] [] True := fun _ => (reads_space rfl).readsIff

/-- Code is read piece by piece. -/
lemma ReadsIff.append {code' : List Code} (h : ReadsIff code fields P)
    (h' : ReadsIff code' more Q) : ReadsIff (code ++ code') (fields ++ more) (P ∧ Q) := by
  intro level
  rw [linesOf_append, toList_textOf_append]
  exact (h level).append (h' level)

/-- A line adds what is written on it. -/
lemma readsIff_line (h : Reader.ReadsIff text.toList fields P) :
    ReadsIff [.line text] fields P := by
  intro level
  obtain ⟨space, hspace, hlist⟩ := exists_toList_indented level text
  have hline : (textOf (linesOf level [.line text])).toList = space ++ (text.toList ++ ['\n']) := by
    rw [linesOf, linesOf, lines, List.append_nil, toList_textOf_cons, hlist, List.append_assoc]
    rfl
  have hend : Reads ['\n'] [] := reads_space rfl
  have hread := (reads_space hspace).readsIff.append (h.append hend.readsIff)
  rw [hline]
  simpa using hread

@[simp] lemma readsIff_blank : ReadsIff [.blank] [] True := readsIff_line (reads_space rfl).readsIff

/-- A line with an element that holds a text. -/
def leaf (name raw : String) : Code := line ("<" ++ name ++ ">" ++ raw ++ ("</" ++ name ++ ">"))

/-- Such a line is a text between two tags. -/
lemma toList_leaf (name raw : String) :
    ("<" ++ name ++ ">" ++ raw ++ ("</" ++ name ++ ">")).toList =
      Reader.tag name.toList ++ raw.toList ++ Reader.tag ('/' :: name.toList) := by
  simp [Reader.tag]

/-- An element that holds a text is read as its text is. -/
lemma readsIff_leaf (name : String) {raw : String} (hname : isName name.toList)
    (h : Spells raw.toList t P) : ReadsIff [leaf name raw] [([name], t)] P := by
  have hline := Reader.readsIff_leaf hname h
  rw [String.ofList_toList, ← toList_leaf] at hline
  exact readsIff_line hline

/-- An element that holds a text which is plain. -/
lemma readsIff_plain (name raw : String) (hname : isName name.toList) (hraw : Markup.IsPlain raw) :
    ReadsIff [leaf name raw] [([name], raw)] True :=
  fun level => (readsIff_leaf name hname (spells_self raw) level).congr (iff_true_intro hraw)

/-- An element adds what is in it. -/
lemma ReadsIff.element (name : String) (hname : isName name.toList) (hne : fields ≠ [])
    (h : ReadsIff code fields P) :
    ReadsIff [.element name code] (fields.map (under [name])) P := by
  intro level
  obtain ⟨space, hspace, hopening⟩ := exists_toList_indented level ("<" ++ name ++ "" ++ ">")
  obtain ⟨space', hspace', hclosing⟩ := exists_toList_indented level ("</" ++ name ++ ">")
  have hlist : (textOf (linesOf level [.element name code])).toList =
      space ++ (Reader.tag name.toList ++
        (['\n'] ++ ((textOf (linesOf (level + 1) code)).toList ++ space')) ++
          Reader.tag ('/' :: name.toList) ++ ['\n']) := by
    rw [linesOf, linesOf, Code.element, lines, List.append_nil, List.cons_append,
      toList_textOf_cons, toList_textOf_append, toList_textOf_cons, hopening, hclosing]
    simp [Reader.tag, textOf]
  have hend : Reads ['\n'] [] := reads_space rfl
  have hbody := hend.readsIff.append ((h (level + 1)).append (reads_space hspace').readsIff)
  rw [List.nil_append, List.append_nil] at hbody
  have hread := (reads_space hspace).readsIff.append ((hbody.branch hname hne).append hend.readsIff)
  rw [hlist]
  simpa using hread

/-- Code that cannot be read, at any level. -/
def Refused (code : List Code) : Prop :=
  ∀ level, Reader.Refused (textOf (linesOf level code)).toList

/-- Code cannot be read if a part of it cannot, behind one that can. -/
lemma ReadsIff.append_refused {code' : List Code} (h : ReadsIff code fields P) (hP : P)
    (h' : Refused code') : Refused (code ++ code') := by
  intro level
  rw [linesOf_append, toList_textOf_append]
  exact ((h level).reads hP).append_refused (h' level)

/-- A text that begins a tag and does not end it. -/
lemma refused_leaf (name : String) (hname : isName name.toList) {before after : String}
    (hbefore : Markup.IsPlain before) (hafter : '>' ∉ after.toList) (code : List Code) :
    Refused (leaf name (before ++ "<" ++ after) :: code) := by
  intro level
  obtain ⟨space, hspace, hlist⟩ := exists_toList_indented level
    ("<" ++ name ++ ">" ++ (before ++ "<" ++ after) ++ ("</" ++ name ++ ">"))
  rw [linesOf, leaf, lines, List.singleton_append, toList_textOf_cons, hlist, toList_leaf]
  exact ((reads_space hspace).append_refused (Reader.refused_leaf hname hbefore hafter)).append _

end Code

/-! ### The fields of a manifest -/

/-- The fields of a library. -/
def Dependency.fields (d : Dependency) : List Markup.Field :=
  [(["dependency", "groupId"], d.group), (["dependency", "artifactId"], d.artifact)] ++
    d.scope.toList.map fun scope => (["dependency", "scope"], scope)

namespace Project

/-- What a manifest is meant to say. -/
def fields (p : Project) : List Markup.Field :=
  ([(["modelVersion"], "4.0.0"),
    (["parent", "groupId"], "org.springframework.boot"),
    (["parent", "artifactId"], "spring-boot-starter-parent"),
    (["parent", "version"], p.config.project.springBootVersion),
    (["parent", "relativePath"], ""),
    (["groupId"], p.layout.package),
    (["artifactId"], p.layout.artifactId),
    (["version"], p.config.project.version),
    (["name"], p.title),
    (["description"], "CRUD backend generated for " ++ p.title),
    (["properties", "java.version"], p.config.project.javaVersion)] ++
  (Dependency.all.flatMap Dependency.fields).map (under ["dependencies"]) ++
  [(["build", "plugins", "plugin", "groupId"], "org.springframework.boot"),
    (["build", "plugins", "plugin", "artifactId"], "spring-boot-maven-plugin")]).map
      (under ["project"])

/-- The title of a project may stand in markup, and the versions are plain. -/
def IsShowable (p : Project) : Prop :=
  (∀ c ∈ p.title.toList, isChar c) ∧
    ∀ v ∈ [p.config.project.springBootVersion, p.config.project.version,
      p.config.project.javaVersion], Markup.IsPlain v

end Project

/-- A text of names with slashes between them is read as it is. -/
lemma IsPathText.isPlain {s : String} (h : IsPathText s) : Markup.IsPlain s := by
  have hmarks : ∀ c ∈ ['<', '&', '>'], ¬ (IsPathChar c ∨ c = '/') :=
    List.all_iff_forall_prop.mp (by decide)
  have hne : ∀ c ∈ s.toList, ∀ d ∈ ['<', '&', '>'], c ≠ d := by
    rintro c hc d hd rfl
    exact hmarks c hd (h c hc)
  constructor
  · intro c hc
    refine ⟨?_, hne c hc _ (by decide), hne c hc _ (by decide)⟩
    have hlow : 32 ≤ c.toNat ∧ c.toNat < 128 := by
      rcases h c hc with (hword | rfl | rfl) | rfl
      · have := isWordChar_iff.mp hword
        omega
      all_goals decide
    simp only [isChar, Bool.or_eq_true, Bool.and_eq_true, decide_eq_true_eq, bne_iff_ne]
    omega
  · intro hend
    exact hne _ (hend.subset (by decide : '>' ∈ [']', ']', '>'])) '>' (by decide) rfl

open Code Reader

/-- The entry of a library is made of elements with texts. -/
lemma Dependency.code_eq (d : Dependency) :
    d.code = .element "dependency" (leaf "groupId" d.group :: leaf "artifactId" d.artifact ::
      d.scope.toList.map (leaf "scope")) := by
  obtain ⟨group, artifact, scope⟩ := d
  cases scope <;> simp [code, leaf, toString_text]

/-- The entry of a library says what the library is. -/
lemma Dependency.readsIff_code {d : Dependency} (hgroup : Markup.IsPlain d.group)
    (hartifact : Markup.IsPlain d.artifact) (hscope : ∀ scope ∈ d.scope, Markup.IsPlain scope) :
    Code.ReadsIff [d.code] d.fields True := by
  have hrest : Code.ReadsIff (d.scope.toList.map (leaf "scope"))
      (d.scope.toList.map fun scope => (["scope"], scope)) True := by
    cases hd : d.scope with
    | none => exact readsIff_nil
    | some scope => exact readsIff_plain "scope" scope rfl (hscope scope hd)
  have hnames := ((readsIff_plain "groupId" d.group rfl hgroup).append
    ((readsIff_plain "artifactId" d.artifact rfl hartifact).append hrest)).element "dependency" rfl
      (List.cons_ne_nil _ _)
  rw [code_eq]
  simpa [fields, under, Function.comp_def] using hnames

/-- The entries of libraries say what the libraries are. -/
lemma readsIff_dependencies {libraries : List Dependency}
    (h : ∀ d ∈ libraries, Code.ReadsIff [d.code] d.fields True) :
    Code.ReadsIff (libraries.map Dependency.code) (libraries.flatMap Dependency.fields) True := by
  induction libraries with
  | nil => exact readsIff_nil
  | cons d libraries ih =>
    obtain ⟨hd, hlibraries⟩ := List.forall_mem_cons.mp h
    simpa using hd.append (ih hlibraries)

namespace Project

/-- The beginning of the body of a manifest, up to the version of the project. -/
def manifestFront (p : Project) : List Code :=
  [leaf "modelVersion" "4.0.0",
    .blank,
    .element "parent"
      [leaf "groupId" "org.springframework.boot",
        leaf "artifactId" "spring-boot-starter-parent",
        leaf "version" p.config.project.springBootVersion,
        .line "<relativePath/>"],
    .blank,
    leaf "groupId" p.layout.package,
    leaf "artifactId" p.layout.artifactId]

/-- The body of a manifest is made of elements. -/
lemma manifestBody_eq (p : Project) : p.manifestBody = p.manifestFront ++
    [leaf "version" p.config.project.version,
      leaf "name" (xmlEscape p.title),
      leaf "description" ("CRUD backend generated for " ++ xmlEscape p.title),
      .blank,
      .element "properties" [leaf "java.version" p.config.project.javaVersion],
      .blank,
      .element "dependencies" (Dependency.all.map Dependency.code),
      .blank,
      .element "build"
        [.element "plugins"
          [.element "plugin"
            [leaf "groupId" "org.springframework.boot",
              leaf "artifactId" "spring-boot-maven-plugin"]]]] := by
  simp [manifestBody, manifestFront, leaf, toString_text, ← String.append_assoc]

/-- An element of a manifest with a text that is the same for every project. -/
lemma readsIff_constant (name t : String) (hname : isName name.toList)
    (ht : plainFrom 0 t.toList) : Code.ReadsIff [leaf name t] [([name], t)] True :=
  readsIff_plain name t hname ((isPlain_iff t).mpr ht)

/-- What the beginning of a manifest says. -/
lemma readsIff_manifestFront (p : Project) (hpackage : Markup.IsPlain p.layout.package)
    (hartifact : Markup.IsPlain p.layout.artifactId) :
    Code.ReadsIff p.manifestFront
      [(["modelVersion"], "4.0.0"),
        (["parent", "groupId"], "org.springframework.boot"),
        (["parent", "artifactId"], "spring-boot-starter-parent"),
        (["parent", "version"], p.config.project.springBootVersion),
        (["parent", "relativePath"], ""),
        (["groupId"], p.layout.package),
        (["artifactId"], p.layout.artifactId)]
      (Markup.IsPlain p.config.project.springBootVersion) := by
  have hempty : Code.ReadsIff [.line "<relativePath/>"] [(["relativePath"], "")] True := by
    have hread : Reads "<relativePath/>".toList [(["relativePath"], "")] :=
      reads_empty (show isName "relativePath".toList from rfl)
    exact readsIff_line hread.readsIff
  have hparent := ((readsIff_constant "groupId" "org.springframework.boot" rfl rfl).append
    ((readsIff_constant "artifactId" "spring-boot-starter-parent" rfl rfl).append
      ((Code.readsIff_leaf "version" rfl (spells_self p.config.project.springBootVersion)).append
        hempty))).element "parent" rfl (List.cons_ne_nil _ _)
  have hfront := (readsIff_constant "modelVersion" "4.0.0" rfl rfl).append <|
    readsIff_blank.append <| hparent.append <| readsIff_blank.append <|
    (readsIff_plain "groupId" _ rfl hpackage).append (readsIff_plain "artifactId" _ rfl hartifact)
  exact fun level => (hfront level).congr (by simp only [true_and, and_true])

/-- What the body of a manifest says. -/
lemma readsIff_manifestBody (p : Project) (hpackage : Markup.IsPlain p.layout.package)
    (hartifact : Markup.IsPlain p.layout.artifactId) :
    ∃ fields, p.fields = fields.map (under ["project"]) ∧
      Code.ReadsIff p.manifestBody fields p.IsShowable := by
  have htitle : Spells (xmlEscape p.title).toList p.title (∀ c ∈ p.title.toList, isChar c) := by
    have hspells := spells_escape ((isPlain_iff "").mpr rfl) p.title
    rwa [String.empty_append, String.empty_append] at hspells
  have hfront : Markup.IsPlain "CRUD backend generated for " := (isPlain_iff _).mpr rfl
  have hlibraries : ∀ d ∈ Dependency.all, Code.ReadsIff [d.code] d.fields True := by
    have hall : ∀ d ∈ Dependency.all, plainFrom 0 d.group.toList ∧ plainFrom 0 d.artifact.toList ∧
        ∀ scope ∈ d.scope, plainFrom 0 scope.toList := by decide
    intro d hd
    obtain ⟨hgroup, hartifact, hscope⟩ := hall d hd
    exact Dependency.readsIff_code ((isPlain_iff _).mpr hgroup) ((isPlain_iff _).mpr hartifact)
      fun scope h => (isPlain_iff _).mpr (hscope scope h)
  have htitles := (Code.readsIff_leaf "name" rfl htitle).append
    (Code.readsIff_leaf "description" rfl (spells_escape hfront p.title))
  have hproperties := (Code.readsIff_leaf "java.version" rfl
    (spells_self p.config.project.javaVersion)).element "properties" rfl (List.cons_ne_nil _ _)
  have hdependencies := (readsIff_dependencies hlibraries).element "dependencies" rfl (by decide)
  have hbuild := ((((readsIff_constant "groupId" "org.springframework.boot" rfl rfl).append
    (readsIff_constant "artifactId" "spring-boot-maven-plugin" rfl rfl)).element "plugin" rfl
      (List.cons_ne_nil _ _)).element "plugins" rfl (List.cons_ne_nil _ _)).element "build" rfl
        (List.cons_ne_nil _ _)
  have hbody := (p.readsIff_manifestFront hpackage hartifact).append <|
    (Code.readsIff_leaf "version" rfl (spells_self p.config.project.version)).append <|
    htitles.append <| readsIff_blank.append <| hproperties.append <| readsIff_blank.append <|
    hdependencies.append <| readsIff_blank.append hbuild
  rw [manifestBody_eq]
  refine ⟨_, ?_, fun level => (hbody level).congr ?_⟩
  · rfl
  · simp only [IsShowable, List.forall_mem_cons, List.not_mem_nil, true_and, and_true, and_self]
    tauto

/-- The tag that opens a manifest. -/
def manifestOpening : String := "<" ++ "project" ++ manifestAttributes ++ ">"

/-- Two lines in front of others and one behind them. -/
lemma toList_textOf_around (first second last : String) (lines : List String) :
    (textOf ([first, second] ++ lines ++ [last])).toList =
      first.toList ++ '\n' :: (second.toList ++ '\n' ::
        ((textOf lines).toList ++ (last.toList ++ ['\n']))) := by
  have hnone : (textOf []).toList = [] := rfl
  rw [toList_textOf_append, toList_textOf_append, toList_textOf_cons, toList_textOf_cons,
    toList_textOf_cons, hnone]
  simp only [List.append_assoc, List.cons_append, List.nil_append]

/-- The text of a manifest is a declaration and one element. -/
lemma toList_render_manifest (p : Project) : (Code.render p.manifest).toList =
    declaration ++ ('\n' :: (manifestOpening.toList ++ '\n' ::
      ((textOf (linesOf 1 p.manifestBody)).toList ++
        (Reader.tag ('/' :: "project".toList) ++ ['\n'])))) := by
  have hlines : linesOf 0 p.manifest =
      ["<?xml version=\"1.0\" encoding=\"UTF-8\"?>", manifestOpening] ++
        linesOf 1 p.manifestBody ++ ["</" ++ "project" ++ ">"] := by
    rw [manifest, linesOf, linesOf, linesOf, lines, Code.element, lines, indented_zero,
      indented_zero, indented_zero, List.append_nil]
    rfl
  have hclosing : ("</" ++ "project" ++ ">").toList = Reader.tag ('/' :: "project".toList) := rfl
  rw [render_eq, hlines]
  exact hclosing ▸ toList_textOf_around _ _ _ _

set_option maxRecDepth 2000 in
/-- The tag that opens a manifest is read. -/
lemma run_manifestOpening : Reader.run {} ('\n' :: manifestOpening.toList ++ ['\n']) =
    some ⟨.text 0, [{ name := "project".toList, text := ['\n'] }], []⟩ := by
  unfold manifestOpening manifestAttributes
  simp only [String.toList_append, String.reduceToList]
  decide +kernel

/-- The body of a manifest is read in the element that the manifest opens. -/
lemma run_manifest (rest : List Char) :
    Reader.run {} ('\n' :: (manifestOpening.toList ++ '\n' :: rest)) =
      Reader.run ⟨.text 0, [{ name := "project".toList, text := ['\n'] }], []⟩ rest := by
  rw [← run_append run_manifestOpening]
  generalize manifestOpening.toList = opening
  rw [List.cons_append, List.cons_append, List.append_assoc, List.singleton_append]

/-- **Reading a manifest.** What is read of a manifest is what it is meant to say exactly if the
texts in it can be shown. -/
lemma read?_manifest_iff (p : Project) (hpackage : Markup.IsPlain p.layout.package)
    (hartifact : Markup.IsPlain p.layout.artifactId) :
    read? (Code.render p.manifest) = some p.fields ↔ p.IsShowable := by
  obtain ⟨fields, hfields, hbody⟩ := p.readsIff_manifestBody hpackage hartifact
  have hlist := p.toList_render_manifest
  have hbody' : Reader.ReadsIff (textOf (linesOf 1 p.manifestBody)).toList fields p.IsShowable :=
    hbody 1
  generalize (textOf (linesOf 1 p.manifestBody)).toList = cs at hbody' hlist
  rw [read?_eq_some_iff hlist, run_manifest, hfields]
  constructor
  · rintro ⟨-, n, hend⟩
    refine hbody'.necessary 0 _ [] [] _ _ ?_ hend ?_
    · rfl
    · exact List.prefix_rfl
  · intro hshow
    obtain ⟨n, text, htext, hcs⟩ := hbody'.reads hshow 0
      { name := "project".toList, text := ['\n'] } [] [] rfl
    have hne : fields.map (under ["project"]) ≠ [] := hfields ▸ List.cons_ne_nil _ _
    refine ⟨hne, 0, ?_⟩
    have hbranch : (!fields.isEmpty) = true := by
      simpa using mt (fun h => List.map_eq_nil_iff.mpr h) hne
    have hclose : Reader.run ⟨.text n, [⟨"project".toList, text, true⟩],
        fields.map (under ["project"])⟩ (Reader.tag ('/' :: "project".toList)) =
        some ⟨.text 0, [], fields.map (under ["project"])⟩ := by
      rw [run_closing rfl]
      simp [close?, htext]
    rw [run_append hcs, Bool.false_or, hbranch]
    exact (run_append hclose _).trans rfl

/-- A manifest cannot be read if its body cannot. -/
lemma read?_manifest_eq_none (p : Project) (h : Code.Refused p.manifestBody) :
    read? (Code.render p.manifest) = none := by
  rw [Option.eq_none_iff_forall_ne_some]
  intro fields hread
  obtain ⟨-, n, hrun⟩ := (read?_eq_some_iff p.toList_render_manifest).mp hread
  rw [run_manifest, h 1 _ _ _ _ _ rfl] at hrun
  cases hrun

/-- The body of a manifest cannot be read if the version of the project begins a tag and does not
end it. -/
lemma refused_manifestBody (p : Project) (hpackage : Markup.IsPlain p.layout.package)
    (hartifact : Markup.IsPlain p.layout.artifactId)
    (hspring : Markup.IsPlain p.config.project.springBootVersion) {before after : String}
    (hbefore : Markup.IsPlain before) (hafter : '>' ∉ after.toList)
    (hversion : p.config.project.version = before ++ "<" ++ after) :
    Code.Refused p.manifestBody := by
  rw [manifestBody_eq, hversion]
  exact (p.readsIff_manifestFront hpackage hartifact).append_refused hspring
    (Code.refused_leaf "version" rfl hbefore hafter _)

/-- The manifest is one of the files of a project. -/
lemma manifest_mem_ownFiles (p : Project) :
    ⟨p.layout.projectFile "pom.xml", Code.render p.manifest⟩ ∈ p.ownFiles :=
  List.mem_cons_self

/-- The texts of a manifest at the places that builds look at. -/
lemma textsAt_fields (p : Project) :
    textsAt ["project", "groupId"] p.fields = [p.layout.package] ∧
      textsAt ["project", "artifactId"] p.fields = [p.layout.artifactId] ∧
      textsAt ["project", "version"] p.fields = [p.config.project.version] ∧
      textsAt ["project", "parent", "version"] p.fields = [p.config.project.springBootVersion] ∧
      textsAt ["project", "properties", "java.version"] p.fields =
        [p.config.project.javaVersion] ∧
      textsAt ["project", "name"] p.fields = [p.title] :=
  ⟨rfl, rfl, rfl, rfl, rfl, rfl⟩

end Project

namespace Layout

/-- The names that a layout gives to the manifest are plain. -/
lemma isPlain_package_artifactId (name : String) :
    Markup.IsPlain (ofName name).package ∧ Markup.IsPlain (ofName name).artifactId := by
  obtain ⟨ws, -, hws, hpackage, -, -⟩ := exists_words name
  exact ⟨(isPathText_of_words hws hpackage (.inl (by decide))).isPlain,
    (isPathText_artifactId name).isPlain⟩

end Layout

/-- The manifest is in the tree of a run as it was made. -/
lemma Snapshot.get?_manifest (s : Snapshot) (config : Config) (name : String) :
    (FileTree.ofList (s.files config name)).get? ((Layout.ofName name).projectFile "pom.xml") =
      some (Code.render (s.project config name).manifest) := by
  have hlayout : (s.project config name).layout = .ofName name := rfl
  have hget := s.get?_ofList_files_own config name (s.project config name).manifest_mem_ownFiles
  rwa [hlayout] at hget

/-- **The manifest of a project.** A diagram with classes becomes a project with a manifest. It is
meant to say the package of the project as its group, the artifact id, the title, and the versions
of the settings, each in one place. It is well-formed and read as that exactly if no version has
`<`, `&` or `]]>` in it, and all characters of the title and the versions may stand in markup. -/
theorem Snapshot.generate_manifest_iff (s : Snapshot) (config : Config) (name : String)
    (hs : s.isEmpty = false) :
    ∃ tree pom fields, generate s config name = .ok tree ∧
      tree.get? ((Layout.ofName name).projectFile "pom.xml") = some pom ∧
      fields = (s.project config name).fields ∧
      (read? pom = some fields ↔ (∀ c ∈ (Project.titleOf name).toList, isChar c) ∧
        ∀ v ∈ [config.project.springBootVersion, config.project.version,
          config.project.javaVersion], Markup.IsPlain v) ∧
      textsAt ["project", "groupId"] fields = [(Layout.ofName name).package] ∧
      textsAt ["project", "artifactId"] fields = [(Layout.ofName name).artifactId] ∧
      textsAt ["project", "version"] fields = [config.project.version] ∧
      textsAt ["project", "parent", "version"] fields = [config.project.springBootVersion] ∧
      textsAt ["project", "properties", "java.version"] fields = [config.project.javaVersion] ∧
      textsAt ["project", "name"] fields = [Project.titleOf name] := by
  obtain ⟨hpackage, hartifact⟩ := Layout.isPlain_package_artifactId name
  have hlayout : (s.project config name).layout = .ofName name := rfl
  have htitle : (s.project config name).title = Project.titleOf name := by
    rw [project, Project.ofEntities]
  have hconfig : (s.project config name).config = config := rfl
  rw [← hlayout] at hpackage hartifact
  have hread := Project.read?_manifest_iff _ hpackage hartifact
  have htexts := (s.project config name).textsAt_fields
  rw [hlayout, htitle, hconfig] at htexts
  rw [Project.IsShowable, htitle, hconfig] at hread
  exact ⟨_, _, _, generate_eq config name hs, s.get?_manifest config name, rfl, hread, htexts⟩

/-- A diagram with one class. -/
def Snapshot.oneItem : Snapshot where
  classes := [{ id := "i", name := "Item" }]

/-- A title with marks and a version with a quote: both are read as they are. -/
theorem Snapshot.generate_manifest_fishAndChips :
    oneItem.isEmpty = false ∧
    ∃ tree pom fields,
      generate oneItem { project := { version := "1.0 \"rc\" >= 0.9" } } "Fish & <Chips>" =
        .ok tree ∧
      tree.get? "fish-chips/pom.xml" = some pom ∧
      read? pom = some fields ∧
      textsAt ["project", "name"] fields = ["Fish & <Chips>"] ∧
      textsAt ["project", "version"] fields = ["1.0 \"rc\" >= 0.9"] := by
  have hs : oneItem.isEmpty = false := rfl
  have hlayout : (Layout.ofName "Fish & <Chips>").projectFile "pom.xml" = "fish-chips/pom.xml" := by
    decide +kernel
  have htitle : Project.titleOf "Fish & <Chips>" = "Fish & <Chips>" := by decide +kernel
  obtain ⟨tree, pom, fields, htree, hpom, -, hread, -, -, hversion, -, -, hname⟩ :=
    generate_manifest_iff oneItem { project := { version := "1.0 \"rc\" >= 0.9" } }
      "Fish & <Chips>" hs
  rw [hlayout] at hpom
  rw [htitle] at hname
  refine ⟨hs, tree, pom, fields, htree, hpom, hread.mpr ⟨?_, ?_⟩, hname, hversion⟩
  · rw [htitle]
    exact List.all_iff_forall_prop.mp (by decide)
  · intro v hv
    refine (isPlain_iff v).mpr ?_
    revert v
    decide

/-- Settings with a comparison as the version. -/
def Config.comparedVersion : Config := { project := { version := "1<2" } }

/-- The settings are valid, but the manifest cannot be read. -/
theorem Snapshot.not_read?_comparedVersion :
    Config.comparedVersion.validate = .ok .comparedVersion ∧
    ∃ tree pom, generate oneItem .comparedVersion "Shop" = .ok tree ∧
      tree.get? "shop/pom.xml" = some pom ∧
      read? pom = none := by
  have hvalid : Config.comparedVersion.validate = .ok .comparedVersion := by
    have hfaults : Config.comparedVersion.faults = [] := by decide
    rw [Config.validate, hfaults]
  have hpath : (Layout.ofName "Shop").projectFile "pom.xml" = "shop/pom.xml" := by
    rw [Layout.ofName_shop]
    decide
  have hget := oneItem.get?_manifest .comparedVersion "Shop"
  rw [hpath] at hget
  have hspring : Markup.IsPlain Config.comparedVersion.project.springBootVersion :=
    (isPlain_iff _).mpr (by decide)
  obtain ⟨hpackage, hartifact⟩ := Layout.isPlain_package_artifactId "Shop"
  refine ⟨hvalid, _, _, generate_eq .comparedVersion "Shop" rfl, hget, ?_⟩
  have hbefore : Markup.IsPlain "1" := (isPlain_iff "1").mpr (by decide)
  have hafter : '>' ∉ "2".toList := by decide
  exact Project.read?_manifest_eq_none _
    (Project.refused_manifestBody _ hpackage hartifact hspring hbefore hafter (by decide))

end CrudScaffold

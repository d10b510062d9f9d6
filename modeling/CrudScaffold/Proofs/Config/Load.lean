import Mathlib
import CrudScaffold.Config.Load
import CrudScaffold.Proofs.Config.Environment

/-!
# Every key by itself

A configuration is loaded from four layers: the defaults, the file of the user, the file of the
project and the environment. They are laid over each other before anything is read, so each of the
nine keys has the setting of the uppermost layer that has the key, whatever the others have for it
and whatever layers the other keys come from. Only these nine settings are looked at: a layer with
exactly them is read as the configuration that they spell (`ofSetting_eq`), and what is wrong with
any setting below is never found.
-/

namespace CrudScaffold.Config

/-! ### Reading a layer -/

/-- Sorting gives the permutation that is in order. -/
lemma mergeSort_eq_of_perm {l sorted : List String} (hperm : l.Perm sorted)
    (hsorted : sorted.Pairwise (· ≤ ·)) :
    (l.mergeSort fun a b => decide (a ≤ b)) = sorted := by
  have hpairwise : (l.mergeSort fun a b => decide (a ≤ b)).Pairwise (· ≤ ·) := by
    refine (List.pairwise_mergeSort ?_ ?_ l).imp of_decide_eq_true
    · exact fun a b c hab hbc =>
        decide_eq_true (String.le_trans (of_decide_eq_true hab) (of_decide_eq_true hbc))
    · intro a b
      rw [Bool.or_eq_true]
      exact (String.le_total a b).imp (decide_eq_true ·) (decide_eq_true ·)
  exact List.Perm.eq_of_pairwise (fun a b _ _ => String.le_antisymm) hpairwise hsorted
    ((List.mergeSort_perm l _).trans hperm)

/-- Sets the settings of a section one by one. -/
def setSection (c : Config) (block : String × List (String × Setting)) :
    Except LoadError Config :=
  block.2.foldlM (fun c e => (c.set block.1 e.1 e.2).mapError (Misfit.at [block.1, e.1])) c

/-- A section with a setting for each of its keys is read setting by setting, in the order of the
keys. -/
lemma readSection_eq {layers : Setting} {s : String × List (String × Setting)} (hne : s.2 ≠ [])
    (hkeys : (keys s.1).Perm (s.2.map Prod.fst)) (hsorted : (s.2.map Prod.fst).Pairwise (· ≤ ·))
    (h : ∀ e ∈ s.2, layers.at? s.1 e.1 = some e.2) (c : Config) :
    readSection layers c s.1 = setSection c s := by
  obtain ⟨name, settings⟩ := s
  have htable : ∃ inner, layers.get? name = some (.table inner) := by
    obtain ⟨e, more, rfl⟩ := List.exists_cons_of_ne_nil hne
    obtain ⟨v, hv, hget⟩ := Option.bind_eq_some_iff.mp (h e List.mem_cons_self)
    cases v with
    | table inner => exact ⟨inner, hv⟩
    | _ => cases hget
  obtain ⟨inner, hinner⟩ := htable
  have hmembers : members? name (.table inner) = some (settings.map fun e => (e.1, e.1, e.2)) := by
    rw [members?, mergeSort_eq_of_perm hkeys hsorted, List.filterMap_map]
    congr 1
    rw [← List.filterMap_eq_map]
    refine List.filterMap_congr fun e he => ?_
    have hget := h e he
    rw [Setting.at?, hinner, Option.bind_some] at hget
    rw [Function.comp_apply, hget]
    rfl
  rw [readSection, hinner]
  simp only [hmembers, List.foldlM_map, setSection]

/-- The setting of a port is read as the port. -/
lemma portOf_toNat (port : UInt16) : portOf (.integer port.toNat) = .ok port := by
  have hlt : port.toNat < 0x10000 := port.toNat_lt
  rw [portOf, if_pos (by omega)]
  simp

/-- The sections of a configuration have settings for all of their keys, in the order of the
keys. -/
lemma keys_settings (c : Config) : ∀ s ∈ c.settings, s.2 ≠ [] ∧
    (keys s.1).Perm (s.2.map Prod.fst) ∧ (s.2.map Prod.fst).Pairwise (· ≤ ·) := by
  have hkeys : ∀ s ∈ [("database", ["console", "ddl_auto", "password", "username"]),
      ("output", ["dir"]), ("project", ["java_version", "spring_boot_version", "version"]),
      ("server", ["port"])], s.2 ≠ [] ∧ (keys s.1).Perm s.2 ∧ s.2.Pairwise (· ≤ ·) := by
    decide
  intro s hs
  have hmem : (s.1, s.2.map Prod.fst) ∈ c.settings.map fun s => (s.1, s.2.map Prod.fst) :=
    List.mem_map.mpr ⟨s, hs, rfl⟩
  obtain ⟨hne, hperm, hsorted⟩ := hkeys _ hmem
  exact ⟨fun hnil => hne (List.map_eq_nil_iff.mpr hnil), hperm, hsorted⟩

/-- Setting all settings of a configuration gives the configuration. -/
lemma foldlM_setSection (c : Config) : c.settings.foldlM setSection {} = .ok c := by
  obtain ⟨⟨javaVersion, springBootVersion, version⟩, ⟨port⟩,
    ⟨username, password, ddlAuto, console⟩, ⟨dir⟩⟩ := c
  have hdatabase : ∀ c : Config, setSection c ("database", [("console", .boolean console),
      ("ddl_auto", .text ddlAuto), ("password", .text password), ("username", .text username)]) =
      .ok { c with database := ⟨username, password, ddlAuto, console⟩ } := fun c => rfl
  have houtput : ∀ c : Config, setSection c ("output", [("dir", .text dir)]) =
      .ok { c with output := ⟨dir⟩ } := fun c => rfl
  have hproject : ∀ c : Config, setSection c ("project", [("java_version", .text javaVersion),
      ("spring_boot_version", .text springBootVersion), ("version", .text version)]) =
      .ok { c with project := ⟨javaVersion, springBootVersion, version⟩ } := fun c => rfl
  have hserver : ∀ c : Config, setSection c ("server", [("port", .integer port.toNat)]) =
      .ok { c with server := ⟨port⟩ } := by
    intro c
    simp only [setSection, List.foldlM_cons, set, portOf_toNat]
    rfl
  simp only [settings, List.foldlM_cons, hdatabase, houtput, hproject, hserver]
  rfl

/-- A layer that has exactly the settings of a configuration for its keys is read as the
configuration. -/
lemma ofSetting_eq {layers : Setting} {c : Config}
    (h : ∀ s ∈ c.settings, ∀ e ∈ s.2, layers.at? s.1 e.1 = some e.2) :
    ofSetting layers = .ok c := by
  have hnames : ["database", "output", "project", "server"] = c.settings.map Prod.fst := rfl
  have hread : ∀ sections : List (String × List (String × Setting)), sections ⊆ c.settings →
      ∀ c₀, sections.foldlM (fun c₀ s => readSection layers c₀ s.1) c₀ =
        sections.foldlM setSection c₀ := by
    intro sections hsections
    induction sections with
    | nil => exact fun c₀ => rfl
    | cons s sections ih =>
      intro c₀
      obtain ⟨hs, hsections⟩ := List.cons_subset.mp hsections
      obtain ⟨hne, hperm, hsorted⟩ := keys_settings c s hs
      rw [List.foldlM_cons, List.foldlM_cons, readSection_eq hne hperm hsorted (h s hs)]
      simp only [ih hsections]
  rw [ofSetting, hnames, List.foldlM_map, hread c.settings (List.Subset.refl _), foldlM_setSection]

/-- The settings of a configuration are found under their keys. -/
lemma at?_toSetting_of_mem (c : Config) :
    ∀ s ∈ c.settings, ∀ e ∈ s.2, c.toSetting.at? s.1 e.1 = some e.2 := by
  simp only [settings, List.forall_mem_cons, List.not_mem_nil, false_implies, implies_true,
    and_true]
  exact ⟨⟨rfl, rfl, rfl, rfl⟩, rfl, ⟨rfl, rfl, rfl⟩, rfl⟩

@[simp] lemma ofSetting_toSetting (c : Config) : ofSetting c.toSetting = .ok c :=
  ofSetting_eq (at?_toSetting_of_mem c)

/-! ### The layers of a configuration -/

/-- The document of a file, which is empty if there is no file. -/
def document? : Option Bytes → Option Toml.Document
  | none => some {}
  | some bytes => Text.ofBytes? bytes >>= Toml.Document.parse?

/-- What has been written as text is read as a document. -/
lemma document?_bytes (text : String) :
    document? (some (Text.bytes text)) = Toml.Document.parse? text := by
  rw [document?, Text.ofBytes?_bytes, Option.bind_eq_bind, Option.bind_some]

/-- A document that has the sections of a configuration as tables, or not at all. -/
def HasSections (d : Toml.Document) : Prop :=
  ∀ name, keys name ≠ [] → ∀ v, d.values.lookup name = some v → ∃ inner, v = .table inner

/-- The setting of a key in the uppermost layer that has the key. -/
def winner? (environment : List (String × String)) (project user : Toml.Document)
    (name key : String) : Option Setting :=
  ((Environment.textFor? environment name key).map Environment.value).or
    (((project.value? name key).map Setting.ofValue).or
      (((user.value? name key).map Setting.ofValue).or (({} : Config).toSetting.at? name key)))

/-- A setting of the kind that its key asks for. -/
def HasKind (key : String) (v : Setting) : Prop :=
  if key = "port" then ∃ port : UInt16, v = .integer port.toNat
  else if key = "console" then ∃ b, v = .boolean b
  else ∃ s, v = .text s

/-- A setting of the right kind is no table. -/
lemma HasKind.isPlain {key : String} {v : Setting} (h : HasKind key v) : v.IsPlain := by
  rw [HasKind] at h
  split_ifs at h
  · obtain ⟨port, rfl⟩ := h
    exact trivial
  · obtain ⟨b, rfl⟩ := h
    exact trivial
  · obtain ⟨s, rfl⟩ := h
    exact trivial

/-- The settings of a configuration are of the right kinds. -/
lemma hasKind_of_mem_settings (c : Config) : ∀ s ∈ c.settings, ∀ e ∈ s.2, HasKind e.1 e.2 := by
  simp only [settings, List.forall_mem_cons, List.not_mem_nil, false_implies, implies_true,
    and_true]
  simp [HasKind]

/-- The setting of a key of a configuration is of the right kind. -/
lemma hasKind_of_at?_toSetting {c : Config} {name key : String} {v : Setting}
    (h : c.toSetting.at? name key = some v) : HasKind key v := by
  rw [at?_toSetting] at h
  obtain ⟨entries, hentries, hv⟩ := Option.bind_eq_some_iff.mp h
  obtain ⟨front, back, hsplit, -⟩ := List.lookup_eq_some_iff.mp hentries
  obtain ⟨front', back', hsplit', -⟩ := List.lookup_eq_some_iff.mp hv
  exact hasKind_of_mem_settings c (name, entries) (by rw [hsplit]; simp) (key, v)
    (by rw [hsplit']; simp)

/-- There are four sections with keys. -/
lemma mem_of_mem_keys {name key : String} (h : key ∈ keys name) :
    name ∈ ["project", "server", "database", "output"] := by
  unfold keys at h
  split at h
  · decide
  · decide
  · decide
  · decide
  · cases h

/-- The sections and keys are parts of names of variables, in small. -/
lemma isNamePart_of_mem_keys {name key : String} (h : key ∈ keys name) :
    (Environment.IsNamePart name.toList ∧ Environment.IsNamePart key.toList) ∧
      Environment.lower name.toList = name.toList ∧ Environment.lower key.toList = key.toList := by
  have hparts : ∀ s ∈ ["project", "server", "database", "output"], ∀ key ∈ keys s,
      (Environment.IsNamePart s.toList ∧ Environment.IsNamePart key.toList) ∧
        Environment.lower s.toList = s.toList ∧ Environment.lower key.toList = key.toList := by
    decide
  exact hparts name (mem_of_mem_keys h) key h

/-- Some layer has each key: the lowest one. -/
lemma exists_winner (environment : List (String × String)) (project user : Toml.Document)
    {name key : String} (h : key ∈ keys name) :
    ∃ v, winner? environment project user name key = some v := by
  obtain ⟨v, hv⟩ : ∃ v, ({} : Config).toSetting.at? name key = some v := by
    rw [← Option.isSome_iff_exists]
    have hdefault : ∀ name ∈ ["project", "server", "database", "output"], ∀ key ∈ keys name,
        (({} : Config).toSetting.at? name key).isSome := by
      decide
    exact hdefault name (mem_of_mem_keys h) key h
  rw [winner?, hv, ← Option.isSome_iff_exists, Option.isSome_or, Option.isSome_or, Option.isSome_or]
  simp

/-- The layer of a file is that of its document. -/
lemma fileLayer_eq {bytes : Option Bytes} {d : Toml.Document} (h : document? bytes = some d) :
    fileLayer bytes = .ok (.table (Setting.ofEntries d.values)) ∧
      (Toml.Value.table d.values).Distinct := by
  cases bytes with
  | none =>
    cases h
    exact ⟨rfl, .table List.nodup_nil nofun⟩
  | some bytes =>
    rw [document?] at h
    obtain ⟨s, -, hparse⟩ := Option.bind_eq_some_iff.mp h
    refine ⟨?_, Toml.Document.distinct_values hparse⟩
    rw [fileLayer, h]

section Winners

variable {s : Sources} {project user : Toml.Document}

/-- The layers give each key the setting of the uppermost one that has the key. -/
lemma at?_setting (huser : document? s.user = some user)
    (hproject : document? s.project = some project)
    (hsections : HasSections project ∧ HasSections user)
    (henvironment : Environment.WellNamed s.environment) :
    ∃ layers, s.setting = .ok layers ∧ ∀ name, ∀ key ∈ keys name, ∀ v, v.IsPlain →
      winner? s.environment project user name key = some v → layers.at? name key = some v := by
  obtain ⟨hlayer, hdistinct⟩ := fileLayer_eq huser
  obtain ⟨hlayer', hdistinct'⟩ := fileLayer_eq hproject
  refine ⟨(Environment.setting s.environment).layOver
    ((Setting.table (Setting.ofEntries project.values)).layOver
      ((Setting.table (Setting.ofEntries user.values)).layOver ({} : Config).toSetting)), ?_, ?_⟩
  · rw [Sources.setting, hlayer, hlayer']
    rfl
  · intro name key hkey v hv hwinner
    have hname : keys name ≠ [] := List.ne_nil_of_mem hkey
    obtain ⟨⟨hpart, hpart'⟩, hsmall⟩ := isNamePart_of_mem_keys hkey
    obtain ⟨he, hat⟩ := Environment.at?_setting hpart hpart' hsmall henvironment
    have hdefault : Setting.IsLayer name ({} : Config).toSetting := Config.isLayer_toSetting {} name
    have hu := Setting.isLayer_ofEntries hdistinct (hsections.2 name hname)
    have hp := Setting.isLayer_ofEntries hdistinct' (hsections.1 name hname)
    rw [Setting.at?_layOver he (hp.layOver (hu.layOver hdefault)),
      Setting.at?_layOver hp (hu.layOver hdefault), Setting.at?_layOver hu hdefault, hat,
      Setting.at?_ofEntries (hsections.1 name hname),
      Setting.at?_ofEntries (hsections.2 name hname)]
    exact Setting.overlay_eq_some hv hwinner fun h => Setting.overlay_eq_some hv h fun h =>
      Setting.overlay_eq_some hv h id

/-- Settings of the right kinds are those of a configuration. -/
lemma exists_settings {w : String → String → Option Setting}
    (h : ∀ name, ∀ key ∈ keys name, ∃ v, w name key = some v ∧ HasKind key v) :
    ∃ c : Config, ∀ s ∈ c.settings, ∀ e ∈ s.2, w s.1 e.1 = some e.2 := by
  have htext : ∀ name, ∀ key ∈ keys name, key ≠ "port" → key ≠ "console" →
      ∃ s, w name key = some (.text s) := by
    intro name key hkey hport hconsole
    obtain ⟨v, hv, hkind⟩ := h name key hkey
    rw [HasKind, if_neg hport, if_neg hconsole] at hkind
    obtain ⟨s, rfl⟩ := hkind
    exact ⟨s, hv⟩
  obtain ⟨_, hport, port, rfl⟩ := h "server" "port" (by decide)
  obtain ⟨_, hconsole, console, rfl⟩ := h "database" "console" (by decide)
  obtain ⟨username, husername⟩ := htext "database" "username" (by decide) (by decide) (by decide)
  obtain ⟨password, hpassword⟩ := htext "database" "password" (by decide) (by decide) (by decide)
  obtain ⟨ddlAuto, hddlAuto⟩ := htext "database" "ddl_auto" (by decide) (by decide) (by decide)
  obtain ⟨dir, hdir⟩ := htext "output" "dir" (by decide) (by decide) (by decide)
  obtain ⟨java, hjava⟩ := htext "project" "java_version" (by decide) (by decide) (by decide)
  obtain ⟨spring, hspring⟩ :=
    htext "project" "spring_boot_version" (by decide) (by decide) (by decide)
  obtain ⟨version, hversion⟩ := htext "project" "version" (by decide) (by decide) (by decide)
  refine ⟨⟨⟨java, spring, version⟩, ⟨port⟩, ⟨username, password, ddlAuto, console⟩, ⟨dir⟩⟩, ?_⟩
  simp only [settings, List.forall_mem_cons, List.not_mem_nil, false_implies, implies_true,
    and_true]
  exact ⟨⟨hconsole, hddlAuto, hpassword, husername⟩, hdir, ⟨hjava, hspring, hversion⟩, hport⟩

/-- A configuration with a port and versions has no faults. -/
lemma faults_eq_nil_iff (c : Config) : c.faults = [] ↔ c.server.port ≠ 0 ∧
    ∀ version ∈ [c.project.javaVersion, c.project.springBootVersion, c.project.version],
      Text.isBlankText version = false := by
  rw [faults, List.append_eq_nil_iff, List.append_eq_nil_iff, List.append_eq_nil_iff]
  simp [and_assoc]

/-- A configuration is checked if its settings are those of the uppermost layers. -/
lemma load_eq_validate (huser : document? s.user = some user)
    (hproject : document? s.project = some project)
    (hsections : HasSections project ∧ HasSections user)
    (henvironment : Environment.WellNamed s.environment) {c : Config}
    (hc : ∀ block ∈ c.settings, ∀ e ∈ block.2,
      winner? s.environment project user block.1 e.1 = some e.2) :
    load s = c.validate.mapError .invalid := by
  obtain ⟨layers, hlayers, hwinner⟩ := at?_setting huser hproject hsections henvironment
  have hread : ofSetting layers = .ok c := by
    refine ofSetting_eq fun block hsection e he => ?_
    have hkey : e.1 ∈ keys block.1 :=
      (keys_settings c block hsection).2.1.symm.subset (List.mem_map_of_mem he)
    exact hwinner _ _ hkey _ (hasKind_of_mem_settings c block hsection e he).isPlain
      (hc block hsection e he)
  rw [load, hlayers]
  change (ofSetting layers >>= fun c => c.validate.mapError .invalid) = _
  rw [hread]
  rfl

/-- **Layering per key.** Where the documents of the files have their sections as tables, and the
variables of the environment are named after sections and keys, let each key have the setting of the
uppermost layer that has the key, each by itself. If these nine settings are of the kinds that their
keys ask for, they are the settings of a configuration. It is loaded if its port is not zero and
none of its versions is blank, and refused for one of these faults otherwise. No other setting of
any layer is of account. -/
theorem load_layers (huser : document? s.user = some user)
    (hproject : document? s.project = some project)
    (hsections : HasSections project ∧ HasSections user)
    (henvironment : Environment.WellNamed s.environment)
    (hkinds : ∀ name, ∀ key ∈ keys name, ∀ v,
      winner? s.environment project user name key = some v → HasKind key v) :
    ∃ c : Config,
      (∀ block ∈ c.settings, ∀ e ∈ block.2,
        winner? s.environment project user block.1 e.1 = some e.2) ∧
      ((c.server.port ≠ 0 ∧ ∀ version ∈ [c.project.javaVersion, c.project.springBootVersion,
        c.project.version], Text.isBlankText version = false) → load s = .ok c) ∧
      ((c.server.port = 0 ∨ ∃ version ∈ [c.project.javaVersion, c.project.springBootVersion,
        c.project.version], Text.isBlankText version = true) →
          ∃ fault ∈ c.faults, load s = .error (.invalid fault)) := by
  have hsome : ∀ name, ∀ key ∈ keys name,
      ∃ v, winner? s.environment project user name key = some v ∧ HasKind key v := by
    intro name key hkey
    obtain ⟨v, hv⟩ := exists_winner s.environment project user hkey
    exact ⟨v, hv, hkinds name key hkey v hv⟩
  obtain ⟨c, hc⟩ := exists_settings hsome
  have hload := load_eq_validate huser hproject hsections henvironment hc
  refine ⟨c, hc, fun hfit => ?_, fun hunfit => ?_⟩
  · rw [hload, validate, (faults_eq_nil_iff c).mpr hfit]
    rfl
  · rcases hfaults : c.faults with _ | ⟨fault, more⟩
    · obtain ⟨hport, hversions⟩ := (faults_eq_nil_iff c).mp hfaults
      rcases hunfit with hzero | ⟨version, hversion, hblank⟩
      · exact absurd hzero hport
      · rw [hversions version hversion] at hblank
        cases hblank
    · refine ⟨fault, List.mem_cons_self, ?_⟩
      rw [hload, validate, hfaults]
      rfl

@[simp] lemma hasSections_empty : HasSections {} := by
  intro name _ v hv
  cases hv

/-- Where no variable sets anything, the file of the project is laid over that of the user, and this
over the defaults. -/
lemma load_of_isForeign (huser : document? s.user = some user)
    (hproject : document? s.project = some project)
    (hsections : HasSections project ∧ HasSections user)
    (hforeign : ∀ v ∈ s.environment, Environment.IsForeign v.1) {c : Config}
    (hc : ∀ block ∈ c.settings, ∀ e ∈ block.2,
      ((project.value? block.1 e.1).map Setting.ofValue).or
        (((user.value? block.1 e.1).map Setting.ofValue).or
          (({} : Config).toSetting.at? block.1 e.1)) = some e.2) :
    load s = c.validate.mapError .invalid := by
  refine load_eq_validate huser hproject hsections
    (Environment.wellNamed_of_isForeign hforeign) fun block hsection e he => ?_
  have hkey : e.1 ∈ keys block.1 :=
    (keys_settings c block hsection).2.1.symm.subset (List.mem_map_of_mem he)
  obtain ⟨⟨hname, hkeyname⟩, -⟩ := isNamePart_of_mem_keys hkey
  rw [winner?, Environment.textFor?_eq_none hname hkeyname hforeign]
  exact hc block hsection e he

end Winners

/-! ### A port that is settled in the environment -/

/-- Files without a port that fits, and an environment with one. -/
def mixedSources : Sources where
  user := some (Text.bytes "[server]\nport = \"many\"\n[project]\nversion = \"2.0\"\n")
  project := some (Text.bytes "[server]\nport = 70000\ncolor = 1\n[database]\nconsole = false\n")
  environment := [("PATH", "/bin"), ("BLUEPRINT_Server__PORT", "9000")]

/-- The configuration of the uppermost settings. -/
def mixedConfig : Config where
  project := { version := "2.0" }
  server := { port := 9000 }
  database := { console := false }

/-- The documents of the files and what they hold. -/
lemma exists_mixedDocuments : ∃ project user, document? mixedSources.project = some project ∧
    document? mixedSources.user = some user ∧
    project.values = [("server", .table [("port", .integer 70000), ("color", .integer 1)]),
      ("database", .table [("console", .boolean false)])] ∧
    user.values = [("server", .table [("port", .text "many")]),
      ("project", .table [("version", .text "2.0")])] := by
  have huser : (Toml.Document.parse?
        "[server]\nport = \"many\"\n[project]\nversion = \"2.0\"\n").map Toml.Document.values =
      some [("server", .table [("port", .text "many")]),
        ("project", .table [("version", .text "2.0")])] := by
    cbv
  have hproject : (Toml.Document.parse?
        "[server]\nport = 70000\ncolor = 1\n[database]\nconsole = false\n").map
          Toml.Document.values =
      some [("server", .table [("port", .integer 70000), ("color", .integer 1)]),
        ("database", .table [("console", .boolean false)])] := by
    cbv
  obtain ⟨user, huser, husers⟩ := Option.map_eq_some_iff.mp huser
  obtain ⟨project, hproject, hprojects⟩ := Option.map_eq_some_iff.mp hproject
  refine ⟨project, user, ?_, ?_, hprojects, husers⟩
  · exact (document?_bytes _).trans hproject
  · exact (document?_bytes _).trans huser

/-- Every key has the setting of the configuration. -/
lemma winner?_mixedSources {project user : Toml.Document}
    (hproject : project.values =
      [("server", .table [("port", .integer 70000), ("color", .integer 1)]),
        ("database", .table [("console", .boolean false)])])
    (huser : user.values = [("server", .table [("port", .text "many")]),
      ("project", .table [("version", .text "2.0")])]) {name key : String} (h : key ∈ keys name) :
    winner? mixedSources.environment project user name key =
      mixedConfig.toSetting.at? name key := by
  have htext : ∀ name ∈ ["project", "server", "database", "output"], ∀ key ∈ keys name,
      Environment.textFor? mixedSources.environment name key =
        if key = "port" then some "9000" else none := by
    decide
  have hname := mem_of_mem_keys h
  rw [winner?, htext name hname key h, Toml.Document.value?_of_values hproject,
    Toml.Document.value?_of_values huser]
  simp only [List.mem_cons, List.not_mem_nil, or_false] at hname
  rcases hname with rfl | rfl | rfl | rfl <;>
    simp only [keys, List.mem_cons, List.not_mem_nil, or_false] at h
  · rcases h with rfl | rfl | rfl <;> rfl
  · rcases h with rfl
    rfl
  · rcases h with rfl | rfl | rfl | rfl <;> rfl
  · rcases h with rfl
    rfl

/-- Values that are all tables are sections. -/
lemma hasSections_of_values {d : Toml.Document} {values : List (String × Toml.Value)}
    (h : d.values = values) (htables : values.all fun e => e.2 matches .table _) :
    HasSections d := by
  intro name _ v hv
  rw [h] at hv
  obtain ⟨front, back, hsplit, -⟩ := List.lookup_eq_some_iff.mp hv
  have htable := List.all_eq_true.mp htables (name, v) (by rw [hsplit]; simp)
  cases v with
  | table inner => exact ⟨inner, rfl⟩
  | _ => cases htable

/-- The ports of both files are overridden, though neither could be loaded. -/
theorem load_layers_mixedSources : load mixedSources = .ok mixedConfig := by
  obtain ⟨project, user, hproject, huser, hprojects, husers⟩ := exists_mixedDocuments
  have hwinner : ∀ name, ∀ key ∈ keys name, winner? mixedSources.environment project user name key =
      mixedConfig.toSetting.at? name key :=
    fun name key hkey => winner?_mixedSources hprojects husers hkey
  have hsections : HasSections project ∧ HasSections user :=
    ⟨hasSections_of_values hprojects rfl, hasSections_of_values husers rfl⟩
  have hforeign : Environment.IsForeign "PATH" := by
    unfold Environment.IsForeign
    decide
  have henvironment : Environment.WellNamed mixedSources.environment := by
    refine ⟨?_, ?_⟩
    · intro v hv
      rcases List.mem_pair.mp hv with rfl | rfl
      · exact .inl hforeign
      · exact .inr ⟨"Server", "PORT", by decide⟩
    · exact List.pairwise_pair.mpr fun hnot => absurd hforeign hnot
  obtain ⟨c, hc, hload, -⟩ := load_layers huser hproject hsections henvironment
    fun name key hkey v hv => hasKind_of_at?_toSetting ((hwinner name key hkey).symm.trans hv)
  have hsame : c = mixedConfig := by
    have hread : ofSetting mixedConfig.toSetting = .ok c := by
      refine ofSetting_eq fun s hs e he => ?_
      rw [← hwinner, hc s hs e he]
      exact (keys_settings c s hs).2.1.symm.subset (List.mem_map_of_mem he)
    rw [ofSetting_toSetting] at hread
    exact (Except.ok.inj hread).symm
  subst hsame
  exact hload (by decide)

end CrudScaffold.Config

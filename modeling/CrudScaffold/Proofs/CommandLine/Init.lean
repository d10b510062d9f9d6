import Mathlib
import CrudScaffold.CommandLine.Program
import CrudScaffold.Proofs.Config.Rewriting
import CrudScaffold.Proofs.FileSystem.Action

/-!
# Completing the settings of a project

The command that completes the settings of a project reads a document, completes it and writes it
back. If it fails then no file has changed. If it succeeds, the text that is written is read as a
document with all keys, and completing it again changes nothing
(`CommandLine.init_keeps_settings_iff`). What was set before is read from it again if no section of
the settings is a table between braces with something in it, and lost otherwise
(`CommandLine.init_loses_bracedServer`).

The name of a section that is no table becomes the key of a header, together with what stands in
front of it. A comment there would be part of the header, which cannot be read then.
-/

namespace CrudScaffold.CommandLine

open FileSystem

variable {s : Surroundings} {d d' : Toml.Document} {added : Nat}

/-- The path of the settings of a project. -/
def settingsPath (s : Surroundings) : String := s.fullPath Config.projectFile

/-- What is said after the settings have been completed. -/
def completionLine (path : String) (added : Nat) : String :=
  if added = 0 then path ++ " is already complete"
  else "Wrote " ++ path ++ " (" ++ toString added ++ " default keys added)"

/-- Without a document the settings are not completed. -/
lemma initCommand_of_error {f : Failure}
    (h : settingsDocument s (settingsPath s) = .error f) :
    initCommand s = { failure := some f } := by
  unfold settingsPath at h
  unfold initCommand
  dsimp only
  rw [h]

/-- A document is completed and written. -/
lemma initCommand_of_ok (h : settingsDocument s (settingsPath s) = .ok d)
    (hcomplete : Config.complete {} d = (d', added)) :
    initCommand s = perform s (Action.write (settingsPath s) (Text.bytes d'.write)) .settings
      { notes := [.line (completionLine (settingsPath s) added)] } := by
  unfold settingsPath at h
  unfold initCommand
  dsimp only
  rw [h]
  dsimp only
  rw [hcomplete]
  rfl

/-- A file that holds a document gives that document. -/
lemma settingsDocument_of_readText {path text : String} (hhas : s.files.has path)
    (htext : s.files.readText path = .ok text) (hd : Toml.Document.parse? text = some d) :
    settingsDocument s path = .ok d := by
  simp [settingsDocument, hhas, htext, hd, bind, Except.bind, Except.mapError]

/-- The text of the settings of a project, which is empty if there are none. -/
def settingsText (s : Surroundings) : Except FileError String :=
  if s.files.has (settingsPath s) then s.files.readText (settingsPath s) else .ok ""

/-- The document to complete is what the text of the settings is read as. -/
lemma exists_settingsText (h : settingsDocument s (settingsPath s) = .ok d) :
    ∃ text, settingsText s = .ok text ∧ Toml.Document.parse? text = some d := by
  unfold settingsDocument at h
  unfold settingsText
  split at h
  · rename_i hhas
    rw [if_pos hhas]
    cases htext : s.files.readText (settingsPath s) with
    | error e =>
      rw [htext] at h
      cases h
    | ok text =>
      rw [htext] at h
      cases hd : Toml.Document.parse? text with
      | none => simp [hd, bind, Except.bind, Except.mapError] at h
      | some document =>
        obtain rfl : document = d := by
          simpa [hd, bind, Except.bind, Except.mapError] using h
        exact ⟨text, rfl, hd⟩
  · rename_i hhas
    obtain rfl := Except.ok.inj h
    rw [if_neg hhas]
    exact ⟨"", rfl, rfl⟩

/-- What there is after the settings have been completed. -/
def Surroundings.completed (s : Surroundings) : Surroundings :=
  { s with files := (Action.runAll s.files (initCommand s).actions).1 }

/-- The settings of a project are complete: completing them adds nothing and changes nothing. -/
structure StaysComplete (s : Surroundings) : Prop where
  succeeds : (initCommand s).failure = none
  notes : (initCommand s).notes = [.line (completionLine (settingsPath s) 0)]
  files : ∀ q, s.completed.files.get? q = s.files.get? q

/-- If the settings cannot be completed then no file has changed. -/
lemma files_of_failure (h : (initCommand s).failure.isSome) :
    s.completed.files = s.files := by
  cases hread : settingsDocument s (settingsPath s) with
  | error f =>
    rw [Surroundings.completed, initCommand_of_error hread]
    rfl
  | ok d =>
    have hinit := initCommand_of_ok hread (Prod.eta (Config.complete {} d)).symm
    rw [perform] at hinit
    rcases Action.runAll_write_cases s.files (settingsPath s)
      (Text.bytes (Config.complete {} d).1.write) with ⟨e, hrun⟩ | ⟨p, hp, hfree⟩
    · rw [hrun] at hinit
      rw [Surroundings.completed, hinit, hrun]
    · obtain ⟨fs', hrun, -⟩ :=
        Action.runAll_write hp hfree (Text.bytes (Config.complete {} d).1.write)
      rw [hrun] at hinit
      rw [hinit] at h
      cases h

/-- The completed document is written to the place of the settings, and to no other. -/
lemma exists_written (hnone : (initCommand s).failure = none)
    (hread : settingsDocument s (settingsPath s) = .ok d)
    (hcomplete : Config.complete {} d = (d', added)) :
    (initCommand s).notes = [.line (completionLine (settingsPath s) added)] ∧
    settingsPath s.completed = settingsPath s ∧
    ∃ p, s.files.locate (settingsPath s) = .ok p ∧
      s.completed.files.locate (settingsPath s) = .ok p ∧
      ∀ q, s.completed.files.get? q =
        if q = p then some (.file (Text.bytes d'.write)) else s.files.get? q := by
  have hinit := initCommand_of_ok hread hcomplete
  rw [perform] at hinit
  rcases Action.runAll_write_cases s.files (settingsPath s) (Text.bytes d'.write) with
    ⟨e, hrun⟩ | ⟨p, hp, hfree⟩
  · rw [hrun] at hinit
    rw [hinit] at hnone
    cases hnone
  · obtain ⟨fs', hrun, hhere, hp', hget⟩ := Action.runAll_write hp hfree (Text.bytes d'.write)
    rw [hrun] at hinit
    have hafter : s.completed = { s with files := fs' } := by
      rw [Surroundings.completed, hinit, hrun]
    rw [hafter]
    refine ⟨by rw [hinit], ?_, p, hp, hp', hget⟩
    rw [settingsPath, settingsPath, Surroundings.fullPath, Surroundings.fullPath, hhere]

/-- The text of the settings is that of the completed document. -/
lemma settingsText_after (hnone : (initCommand s).failure = none)
    (hread : settingsDocument s (settingsPath s) = .ok d)
    (hcomplete : Config.complete {} d = (d', added)) :
    settingsText s.completed = .ok d'.write := by
  obtain ⟨-, hpath, p, -, hp, hget⟩ := exists_written hnone hread hcomplete
  have hfile : s.completed.files.get? p = some (.file (Text.bytes d'.write)) := by
    rw [hget, if_pos rfl]
  have hhas : s.completed.files.has (settingsPath s) :=
    has_iff.mpr ⟨p, hp, by rw [hfile]; rfl⟩
  rw [settingsText, hpath, if_pos hhas]
  exact readText_of_locate hp hfile

/-- A file with the text of a complete document stays complete. -/
lemma staysComplete_of_complete {text : String} {p : Place}
    (hp : s.files.locate (settingsPath s) = .ok p)
    (hfile : s.files.get? p = some (.file (Text.bytes text)))
    (hd : Toml.Document.parse? text = some d) (hwrite : d.write = text)
    (hcomplete : Config.complete {} d = (d, 0)) : StaysComplete s := by
  have hread : settingsDocument s (settingsPath s) = .ok d := by
    refine settingsDocument_of_readText (has_iff.mpr ⟨p, hp, ?_⟩) (readText_of_locate hp hfile) hd
    rw [hfile]
    rfl
  have hfree : s.files.get? p ≠ some .directory := by
    rw [hfile]
    nofun
  obtain ⟨fs', hrun, -, -, hget⟩ := Action.runAll_write hp hfree (Text.bytes d.write)
  have hinit := initCommand_of_ok hread hcomplete
  rw [perform, hrun] at hinit
  refine ⟨by rw [hinit], by rw [hinit], fun q => ?_⟩
  rw [Surroundings.completed, hinit]
  dsimp only
  rw [hrun, hget]
  split
  · subst q
    rw [hwrite, hfile]
  · rfl

/-- **Completing the settings of a project.** A failure leaves all files as they were. Otherwise the
other files are as they were, and it is told how many keys were added. If no key with dots goes on
in a table with another header, and the keys that get headers have no comment and no line break in
front, then the text that is written is read as a document with all nine keys, and completing it
again adds and changes nothing. All settings that were read before have their values in that
document, and the number that is told is that of the missing keys, exactly if no section that has
defaults is a table between braces with something in it. -/
theorem init_keeps_settings_iff (s : Surroundings) :
    ((initCommand s).failure.isSome → s.completed.files = s.files) ∧
    ((initCommand s).failure = none → ∃ text text' d added p,
      settingsText s = .ok text ∧ Toml.Document.parse? text = some d ∧
      (initCommand s).notes = [.line (completionLine (settingsPath s) added)] ∧
      s.files.locate (settingsPath s) = .ok p ∧
      (∀ q, q ≠ p → s.completed.files.get? q = s.files.get? q) ∧
      settingsText s.completed = .ok text' ∧
      (Toml.Document.IsFresh text → Config.CanHeadAll {} d → ∃ d',
        Toml.Document.parse? text' = some d' ∧
        (∀ k ∈ Config.keysOf ({} : Config).settings, (d'.value? k.1 k.2).isSome) ∧
        StaysComplete s.completed ∧
        (((∀ name key v, d.value? name key = some v → d'.value? name key = some v) ∧
          added = (Config.missing {} d).length) ↔ Config.SectionsOpen {} d))) := by
  refine ⟨files_of_failure, fun hnone => ?_⟩
  cases hread : settingsDocument s (settingsPath s) with
  | error f =>
    rw [initCommand_of_error hread] at hnone
    cases hnone
  | ok d =>
    generalize hcomplete : Config.complete {} d = result
    obtain ⟨d', added⟩ := result
    obtain ⟨text, htext, hd⟩ := exists_settingsText hread
    obtain ⟨hnotes, hpath, p, hp, hp', hget⟩ := exists_written hnone hread hcomplete
    refine ⟨text, d'.write, d, added, p, htext, hd, hnotes, hp, fun q hq => ?_,
      settingsText_after hnone hread hcomplete, fun hfresh hcan => ?_⟩
    · rw [hget, if_neg hq]
    · obtain ⟨e, he, hwrite, hvalues, hagain⟩ := Config.exists_reread
        (Toml.Document.isRead_of_parse? hd hfresh) hcan Config.writable_default hcomplete
      obtain ⟨hall, -⟩ := Config.complete_spec hcomplete
      refine ⟨e, he, fun k hk => ?_, ?_, ?_⟩
      · rw [hvalues]
        exact hall k hk
      · refine @staysComplete_of_complete _ e d'.write p ?_ ?_ he hwrite hagain
        · rw [hpath]
          exact hp'
        · rw [hget, if_pos rfl]
      · simp only [hvalues]
        exact Config.complete_keeps_iff hcomplete

/-! ### Two ways to write a section -/

/-- A directory with nothing but the settings of a project. -/
def Surroundings.ofSettings (text : String) : Surroundings where
  files := { nodes := [(["blueprint.toml"], .file (Text.bytes text))] }
  environment := []

/-- The settings are in a file in the root. -/
lemma settingsPath_ofSettings (text : String) :
    settingsPath (.ofSettings text) = Path.join "/" "blueprint.toml" := by
  have hhere : (Surroundings.ofSettings text).files.here = [] := rfl
  rw [settingsPath, Surroundings.fullPath, hhere]
  decide

/-- The path of the settings leads to them. -/
lemma locate_ofSettings (text : String) :
    (Surroundings.ofSettings text).files.locate (Path.join "/" "blueprint.toml") =
      .ok ["blueprint.toml"] := by
  have hname : Path.IsFileName "blueprint.toml" :=
    Path.isFileName_of_length (by decide) (by decide) (by decide)
  have hentry : IsEntryName "blueprint.toml" :=
    ⟨by decide, by decide, by decide, by decide⟩
  have hroute : Path.route "/" = [] := by decide
  refine (locate_join_eq_ok_iff hname).mpr ⟨[], ⟨by decide, ?_, rfl⟩, hentry, rfl⟩
  rw [hroute, leads_nil]
  rfl

/-- The text of the settings is the one that is there. -/
lemma settingsText_ofSettings (text : String) : settingsText (.ofSettings text) = .ok text := by
  have hp := locate_ofSettings text
  rw [settingsText, settingsPath_ofSettings, if_pos (has_iff.mpr ⟨_, hp, rfl⟩)]
  exact readText_of_locate hp rfl

section OfSettings

variable {text : String} (hd : Toml.Document.parse? text = some d)

include hd

/-- The settings are read. -/
lemma settingsDocument_ofSettings :
    settingsDocument (.ofSettings text) (settingsPath (.ofSettings text)) = .ok d := by
  rw [settingsPath_ofSettings]
  have hp := locate_ofSettings text
  exact settingsDocument_of_readText (has_iff.mpr ⟨_, hp, rfl⟩) (readText_of_locate hp rfl) hd

/-- The settings can be completed. -/
lemma failure_ofSettings : (initCommand (.ofSettings text)).failure = none := by
  obtain ⟨fs', hrun, -⟩ := Action.runAll_write (locate_ofSettings text) nofun
    (Text.bytes (Config.complete {} d).1.write)
  rw [initCommand_of_ok (settingsDocument_ofSettings hd) (Prod.eta (Config.complete {} d)).symm,
    settingsPath_ofSettings, perform, hrun]

end OfSettings

/-- A port under a header is kept in the text that is written, which stays complete. -/
theorem init_keeps_settings_iff_headedServer : ∃ (text : String) (d : Toml.Document),
    settingsText (Surroundings.ofSettings "[server]\nport = 9000\n").completed = .ok text ∧
    Toml.Document.parse? text = some d ∧
    d.value? "server" "port" = some (.integer 9000) ∧
    StaysComplete (Surroundings.ofSettings "[server]\nport = 9000\n").completed := by
  have hvalues : (Toml.Document.parse? "[server]\nport = 9000\n").map (fun d =>
      (d.value? "server" "port", decide (Config.CanHeadAll {} d),
        ({} : Config).settings.all fun s => d.entries.isClosed s.1 = false)) =
      some (some (.integer 9000), true, true) := by
    cbv
  have hfresh : Toml.Document.IsFresh "[server]\nport = 9000\n" :=
    Toml.Document.isFresh_of_single (by cbv)
  obtain ⟨d, hd, hvalues⟩ := Option.map_eq_some_iff.mp hvalues
  simp only [Prod.mk.injEq] at hvalues
  obtain ⟨hbefore, hcan, hopen⟩ := hvalues
  obtain ⟨text, text', d₁, added, p, htext, hd₁, -, -, -, hafter, hreread⟩ :=
    (init_keeps_settings_iff (.ofSettings "[server]\nport = 9000\n")).2 (failure_ofSettings hd)
  obtain rfl := Except.ok.inj (htext.symm.trans (settingsText_ofSettings _))
  obtain rfl := Option.some.inj (hd.symm.trans hd₁)
  obtain ⟨d', hd', -, hstays, hiff⟩ := hreread hfresh (of_decide_eq_true hcan)
  obtain ⟨hkept, -⟩ := hiff.mpr fun s hs => by simpa using List.all_eq_true.mp hopen s hs
  exact ⟨text', d', hafter, hd', hkept _ _ _ hbefore, hstays⟩

/-- A port between braces is lost, though the command succeeds: in the text that is written the
default takes the place of 9000, and nine keys are said to have been missing, which are only
eight. -/
theorem init_loses_bracedServer : ∃ (d d' : Toml.Document) (text : String),
    Toml.Document.parse? "server = \x7b port = 9000 \x7d\n" = some d ∧
    (initCommand (.ofSettings "server = \x7b port = 9000 \x7d\n")).failure = none ∧
    settingsText (Surroundings.ofSettings "server = \x7b port = 9000 \x7d\n").completed =
      .ok text ∧
    Toml.Document.parse? text = some d' ∧
    d.value? "server" "port" = some (.integer 9000) ∧
    d'.value? "server" "port" = some (.integer 8080) ∧
    (Config.missing {} d).length = 8 ∧
    (initCommand (.ofSettings "server = \x7b port = 9000 \x7d\n")).notes =
      [.line "Wrote /blueprint.toml (9 default keys added)"] := by
  have hvalues : (Toml.Document.parse? "server = \x7b port = 9000 \x7d\n").map (fun d =>
      (d.value? "server" "port", (Config.complete {} d).1.value? "server" "port",
        (Config.missing {} d).length, (Config.complete {} d).2,
        decide (Config.CanHeadAll {} d))) =
      some (some (.integer 9000), some (.integer 8080), 8, 9, true) := by
    cbv
  have hfresh : Toml.Document.IsFresh "server = \x7b port = 9000 \x7d\n" :=
    Toml.Document.isFresh_of_single (by cbv)
  obtain ⟨d, hd, hvalues⟩ := Option.map_eq_some_iff.mp hvalues
  simp only [Prod.mk.injEq] at hvalues
  obtain ⟨hbefore, hafter, hmissing, hadded, hcan⟩ := hvalues
  have hcomplete : Config.complete {} d = ((Config.complete {} d).1, 9) := Prod.ext rfl hadded
  have hnone := failure_ofSettings hd
  have hread := settingsDocument_ofSettings hd
  obtain ⟨hnotes, -⟩ := exists_written hnone hread hcomplete
  obtain ⟨e, he, -, hsame, -⟩ := Config.exists_reread (Toml.Document.isRead_of_parse? hd hfresh)
    (of_decide_eq_true hcan) Config.writable_default hcomplete
  rw [settingsPath_ofSettings] at hnotes
  exact ⟨d, e, _, hd, hnone, settingsText_after hnone hread hcomplete, he, hbefore,
    (hsame _ _).trans hafter, hmissing, hnotes⟩

end CrudScaffold.CommandLine

import CrudScaffold.Proofs.Archive.Delivery
import CrudScaffold.Proofs.Store.Catalog

/-!
# All or nothing

A diagram is stored and an archive is delivered as a whole or not at all. If that fails, for
whatever reason, no file but the draft has other content than before; if it succeeds, the file holds
what it should and nothing besides has changed but directories on the way to it and the draft.
-/

namespace CrudScaffold

open FileSystem

namespace Store

variable {s : Store} {fs fs' : FileSystem} {name : String} {snapshot : Snapshot}

/-- Steps that end in an error of the store have failed with an error of the files. -/
lemma carryOut_ok_eq_error {actions : List Action} {e : StoreError}
    (h : carryOut fs (.ok actions) = (fs', .error e)) :
    ∃ e', e = .file e' ∧ Action.runAll fs actions = (fs', some e') := by
  rw [carryOut] at h
  split at h
  · cases h
  · rename_i fs₁ e' hrun
    cases h
    exact ⟨e', rfl, hrun⟩

/-- Storing that fails for a valid name has made directories at most, and changed the draft. -/
lemma confined_of_write_eq_error (hname : isValidName name) (hfs : fs.Sound) {e : StoreError}
    (h : s.write fs name snapshot = (fs', .error e)) :
    Confined fs fs' s.dir [draftName name] := by
  rw [write_of_isValidName hname] at h
  obtain ⟨e', -, hrun⟩ := carryOut_ok_eq_error h
  exact Action.confined_of_runAll_publish_eq_some (isFileName_draftName hname) hfs hrun

/-- Storing that succeeds has made directories at most, and changed the file of the diagram and the
draft, which is gone. -/
lemma confined_of_write_eq_ok (hfs : fs.Sound) (h : s.write fs name snapshot = (fs', .ok ())) :
    Confined fs fs' s.dir [draftName name, fileName name] ∧
      fs'.read (s.path name) = .ok (Text.bytes snapshot.toJson) ∧
      ∃ d, fs'.Opens s.dir d ∧ fs'.get? (d ++ [draftName name]) = none := by
  have hname : isValidName name := by
    by_contra hname
    rw [write_of_not_isValidName hname] at h
    cases h
  rw [write_of_isValidName hname, carryOut_ok_eq_ok_iff] at h
  exact Action.confined_of_runAll_publish_eq_none (isFileName_draftName hname)
    (isFileName_fileName hname) (fileName_ne_draftName name name) hfs h

end Store

namespace Archive

variable {fs fs' : FileSystem} {a : Archive} {dir : String} {s : Snapshot} {config : Config}
  {project : String} {compress : Bytes → Bytes}
  (ha : generateArchive compress s config project = .ok a)

include ha

/-- Delivery that fails has made directories at most, and changed the draft. -/
lemma confined_of_deliver_eq_error (hfs : fs.Sound) {e : FileError}
    (h : a.deliver fs dir = (fs', .error e)) : Confined fs fs' dir [a.draftName] := by
  rw [deliver] at h
  split at h
  · cases h
  · rename_i fs₁ e' hrun
    cases h
    exact Action.confined_of_runAll_publish_eq_some (isFileName_of_generateArchive ha).2 hfs hrun

/-- Delivery that succeeds has made directories at most, and changed the file of the archive and the
draft, which is gone. -/
lemma confined_of_deliver_eq_ok (hfs : fs.Sound) {path : String}
    (h : a.deliver fs dir = (fs', .ok path)) :
    path = a.path dir ∧ Confined fs fs' dir [a.draftName, a.name] ∧
      fs'.read path = .ok a.bytes ∧ ∃ d, fs'.Opens dir d ∧
        fs'.get? (d ++ [a.draftName]) = none := by
  rw [deliver] at h
  split at h
  · rename_i fs₁ hrun
    cases h
    obtain ⟨hname, hdraft⟩ := isFileName_of_generateArchive ha
    exact ⟨rfl, Action.confined_of_runAll_publish_eq_none hdraft hname (name_ne_draftName ha) hfs
      hrun⟩
  · cases h

end Archive

/-- **All or nothing.** Start with any files. Storing a diagram under a name that is not valid
changes nothing. If it fails under a valid name, directories may have been made on the way to the
store and the draft may have changed, and all files of diagrams are as they were. If it succeeds,
the file of the diagram holds its text, the draft is gone, and everything else is as it was, but for
new directories on the way. Delivering a generated archive does the same to the file of the
archive. -/
theorem FileSystem.write_and_deliver_confined (fs : FileSystem) (hfs : fs.Sound) :
    (∀ (s : Store) (name : String) (snapshot : Snapshot) (fs' : FileSystem)
      (result : Except StoreError Unit), s.write fs name snapshot = (fs', result) →
      (¬ Store.isValidName name → fs' = fs ∧ result = .error (.invalidName name)) ∧
      (Store.isValidName name → ∀ e, result = .error e →
        Confined fs fs' s.dir [Store.draftName name] ∧
        ∀ (p : Place) (n : String) (content : Bytes),
          fs'.get? (p ++ [Store.fileName n]) = some (.file content) ↔
            fs.get? (p ++ [Store.fileName n]) = some (.file content)) ∧
      (result = .ok () →
        Confined fs fs' s.dir [Store.draftName name, Store.fileName name] ∧
        fs'.read (s.path name) = .ok (Text.bytes snapshot.toJson) ∧
        ∃ d, fs'.Opens s.dir d ∧ fs'.get? (d ++ [Store.draftName name]) = none)) ∧
    ∀ (compress : Bytes → Bytes) (s : Snapshot) (config : Config) (project : String) (a : Archive)
      (dir : String) (fs' : FileSystem) (result : Except FileError String),
      generateArchive compress s config project = .ok a → a.deliver fs dir = (fs', result) →
      (∀ e, result = .error e →
        Confined fs fs' dir [a.draftName] ∧
        ∀ (p : Place) (content : Bytes),
          fs'.get? (p ++ [a.name]) = some (.file content) ↔
            fs.get? (p ++ [a.name]) = some (.file content)) ∧
      ∀ path, result = .ok path →
        path = a.path dir ∧ Confined fs fs' dir [a.draftName, a.name] ∧
        fs'.read path = .ok a.bytes ∧
        ∃ d, fs'.Opens dir d ∧ fs'.get? (d ++ [a.draftName]) = none := by
  refine ⟨fun s name snapshot fs' result hwrite => ⟨fun hname => ?_, fun hname e he => ?_,
    fun hok => ?_⟩, fun compress s config project a dir fs' result ha hdeliver =>
    ⟨fun e he => ?_, fun path hok => ?_⟩⟩
  · rw [Store.write_of_not_isValidName hname] at hwrite
    cases hwrite
    exact ⟨rfl, rfl⟩
  · subst he
    have hconfined := Store.confined_of_write_eq_error hname hfs hwrite
    refine ⟨hconfined, fun p n content => hconfined.get?_eq_file_iff ?_ p content⟩
    rw [List.mem_singleton]
    exact Store.fileName_ne_draftName n name
  · subst hok
    exact Store.confined_of_write_eq_ok hfs hwrite
  · subst he
    have hconfined := Archive.confined_of_deliver_eq_error ha hfs hdeliver
    refine ⟨hconfined, fun p content => hconfined.get?_eq_file_iff ?_ p content⟩
    rw [List.mem_singleton]
    exact Archive.name_ne_draftName ha
  · subst hok
    exact Archive.confined_of_deliver_eq_ok ha hfs hdeliver

/-- A store with a diagram, a draft that was left behind and a directory in place of another draft,
and a directory with an archive and with a directory in place of the draft of the archive. -/
def FileSystem.cluttered : FileSystem where
  nodes := [([".blueprint"], .directory), ([".blueprint", "a.json"], .file [1]),
    ([".blueprint", ".a.json.tmp"], .directory), ([".blueprint", ".b.json.tmp"], .file [2]),
    (["out"], .directory), (["out", "shop.tar.gz"], .file [3]),
    (["out", ".shop.tar.gz.tmp"], .directory)]

/-- Whatever is cluttered is in a directory. -/
lemma FileSystem.sound_cluttered : cluttered.Sound :=
  sound_of_forall_mem (by decide) (by decide) (by decide) rfl

/-- No archive is delivered where a directory is in place of its draft. -/
lemma Archive.exists_deliver_cluttered {a : Archive} (ha : a.name = "shop.tar.gz") :
    ∃ fs' e, a.deliver cluttered "out" = (fs', .error e) := by
  have hmade : (Action.makeDirectory "out").run cluttered = (cluttered, none) := by
    refine Action.run_makeDirectory_of_opens (d := ["out"]) ⟨by decide, ?_, rfl⟩
    rw [Leads]
    decide
  have hcreate : ((Action.create (Path.join "out" a.draftName)).run cluttered).2 =
      some .isDirectory := by
    rw [draftName, ha]
    decide +kernel
  rw [deliver, deliverActions, Action.publish, List.singleton_append, List.cons_append,
    Action.runAll, hmade, Action.write, List.cons_append]
  dsimp only
  rw [Action.runAll]
  generalize (Action.create (Path.join "out" a.draftName)).run cluttered = outcome at hcreate
  obtain ⟨fs', e⟩ := outcome
  cases hcreate
  exact ⟨fs', _, rfl⟩

/-- A diagram is kept if a directory is in place of its draft, and so is an archive; a draft that
was left behind is in nobody's way. -/
theorem FileSystem.write_and_deliver_confined_cluttered :
    cluttered.Sound ∧ ¬ Store.isValidName "../a" ∧
    ((Store.mk ".blueprint").write cluttered "../a" {}).1 = cluttered ∧
    Store.isValidName "a" ∧
    (∃ fs' e, (Store.mk ".blueprint").write cluttered "a" {} = (fs', .error e) ∧
      fs'.get? [".blueprint", "a.json"] = some (.file [1])) ∧
    (∃ fs', (Store.mk ".blueprint").write cluttered "b" {} = (fs', .ok ()) ∧
      fs'.read ".blueprint/b.json" = .ok (Text.bytes ({} : Snapshot).toJson)) ∧
    ∃ a fs' e, generateArchive Gzip.store Snapshot.oneClass {} "Shop" = .ok a ∧
      a.deliver cluttered "out" = (fs', .error e) ∧
      fs'.get? ["out", "shop.tar.gz"] = some (.file [3]) := by
  obtain ⟨hwrite, hdeliver⟩ := write_and_deliver_confined cluttered sound_cluttered
  have hinvalid : ¬ Store.isValidName "../a" := by decide
  have hvalid : Store.isValidName "a" := by decide +kernel
  have hwriteA : ((Store.mk ".blueprint").write cluttered "a" {}).2.isOk = false := by
    decide
  have hwriteB : ((Store.mk ".blueprint").write cluttered "b" {}).2.isOk := by decide +kernel
  have hsame := ((hwrite ⟨".blueprint"⟩ "../a" {} _ _ rfl).1 hinvalid).1
  refine ⟨sound_cluttered, hinvalid, hsame, hvalid, ?_, ?_, ?_⟩
  · rcases hresult : (Store.mk ".blueprint").write cluttered "a" {} with ⟨fs', result⟩
    rw [hresult] at hwriteA
    cases result with
    | ok u => cases hwriteA
    | error e =>
      obtain ⟨-, hfiles⟩ := (hwrite _ _ _ _ _ hresult).2.1 hvalid e rfl
      exact ⟨fs', e, rfl, (hfiles [".blueprint"] "a" [1]).mpr rfl⟩
  · rcases hresult : (Store.mk ".blueprint").write cluttered "b" {} with ⟨fs', result⟩
    rw [hresult] at hwriteB
    cases result with
    | error e => cases hwriteB
    | ok u => exact ⟨fs', rfl, ((hwrite _ _ _ _ _ hresult).2.2 rfl).2.1⟩
  · obtain ⟨a, ha⟩ :=
      Snapshot.exists_generateArchive Gzip.store (s := Snapshot.oneClass) {} "Shop" rfl
    have hname : a.name = "shop.tar.gz" := by
      rw [Archive.name_of_generateArchive ha]
      decide +kernel
    obtain ⟨fs', e, hresult⟩ := Archive.exists_deliver_cluttered hname
    obtain ⟨-, hfiles⟩ := (hdeliver _ _ _ _ _ _ _ _ ha hresult).1 e rfl
    refine ⟨a, fs', e, ha, hresult, ?_⟩
    rw [hname] at hfiles
    exact (hfiles ["out"] [3]).mpr rfl

end CrudScaffold

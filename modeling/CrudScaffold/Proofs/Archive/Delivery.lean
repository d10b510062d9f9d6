import CrudScaffold.Archive.Delivery
import CrudScaffold.Proofs.Archive.RoundTrip
import CrudScaffold.Proofs.FileSystem.Publication

/-!
# Names of delivered archives

An archive is called by the artifact id of its project. The artifact id is made of small letters,
digits and hyphens, so an archive and its draft are plain file names, and no archive is taken for a
draft.
-/

namespace CrudScaffold

open Naming

namespace Layout

/-- An artifact id has no slash and no zero. -/
lemma notMem_artifactId (name : String) :
    '/' ∉ (ofName name).artifactId.toList ∧ '\x00' ∉ (ofName name).artifactId.toList :=
  ⟨fun hmem => (of_mem_artifactId hmem).2.1 rfl, fun hmem => (of_mem_artifactId hmem).2.2 rfl⟩

/-- The name of an archive is the name of a file. -/
lemma isFileName_archiveName (name : String) : Path.IsFileName (ofName name).archiveName := by
  obtain ⟨hslash, hzero⟩ := notMem_artifactId name
  refine Path.isFileName_of_length ?_ ?_ ?_ <;> simp [archiveName, hslash, hzero]

end Layout

/-- Generating from a diagram with classes gives an archive. -/
lemma Snapshot.exists_generateArchive (compress : Bytes → Bytes) {s : Snapshot} (config : Config)
    (name : String) (hs : s.isEmpty = false) :
    ∃ archive, generateArchive compress s config name = .ok archive := by
  have hgenerate := generate_eq config name hs
  have hpaths : ∀ f ∈ (FileTree.ofList (s.files config name)).files, IsPortable f.path :=
    fun f hf => isPortable_of_mem_paths (List.mem_map_of_mem hf)
  obtain ⟨blocks, -, hpack, -⟩ := FileTree.exists_pack (FileTree.sound_ofList _) hpaths
  refine ⟨⟨(Layout.ofName name).archiveName, compress blocks⟩, ?_⟩
  simp only [generateArchive, hgenerate, hpack]

namespace Archive

variable {compress : Bytes → Bytes} {s : Snapshot} {config : Config} {name : String} {a : Archive}

/-- A generated archive is called by the name of its project. -/
lemma name_of_generateArchive (h : generateArchive compress s config name = .ok a) :
    a.name = (Layout.ofName name).archiveName := by
  unfold generateArchive at h
  cases hgenerate : generate s config name with
  | error e => simp [hgenerate] at h
  | ok tree =>
    cases hpack : tree.pack compress with
    | error e => simp [hgenerate, hpack] at h
    | ok bytes =>
      simp only [hgenerate, hpack, Except.ok.injEq] at h
      rw [← h]

/-- A generated archive and its draft are names of files. -/
lemma isFileName_of_generateArchive (h : generateArchive compress s config name = .ok a) :
    Path.IsFileName a.name ∧ Path.IsFileName a.draftName := by
  have hname := Layout.isFileName_archiveName name
  rw [← name_of_generateArchive h] at hname
  refine ⟨hname, ?_⟩
  refine Path.isFileName_of_length ?_ ?_ ?_ <;> simp [draftName, hname.slash, hname.zero]

/-- A generated archive is never taken for a draft: they end in different letters. -/
lemma name_ne_draftName (h : generateArchive compress s config name = .ok a) :
    a.name ≠ a.draftName := by
  rw [name_of_generateArchive h, Layout.archiveName, draftName]
  exact Path.append_ne_append (by decide) (by decide) (by decide)

end Archive

end CrudScaffold

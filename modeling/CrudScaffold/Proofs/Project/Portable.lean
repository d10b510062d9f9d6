import CrudScaffold.Proofs.Archive.Name
import CrudScaffold.Proofs.Naming.Words
import CrudScaffold.Proofs.Project.FileMap

/-!
# Portable paths

Every path of a project is portable, whatever the project and its classes are called. A path is put
together from portable ones, with a slash between them, and the smallest pieces are fixed texts,
words of the name of the project, and file names that begin with a word.
-/

namespace CrudScaffold

open Naming

/-! ### Building paths -/

namespace IsPortable

/-- Portable paths are put together with a slash. -/
lemma join {a b : String} (ha : IsPortable a) (hb : IsPortable b) : IsPortable (a ++ "/" ++ b) := by
  have hlist : (a ++ "/" ++ b).toList = a.toList ++ '/' :: b.toList := by simp
  constructor
  · rw [hlist]
    simp [ha.noZero, hb.noZero]
  · intro c hc
    rw [hlist, List.splitOn_append_cons_self] at hc
    exact (List.mem_append.mp hc).elim (ha.components c) (hb.components c)

/-- A name without slashes and zeros that does not begin with a dot is portable. -/
lemma of_head {path : String} {c : Char} {cs : List Char} (h : path.toList = c :: cs) (hc : c ≠ '.')
    (hslash : '/' ∉ c :: cs) (hzero : '\x00' ∉ c :: cs) : IsPortable path := by
  refine ⟨h ▸ hzero, fun d hd => ?_⟩
  rw [h, List.splitOn_eq_singleton hslash, List.mem_singleton] at hd
  rw [hd]
  refine ⟨List.cons_ne_nil c cs, fun hdot => hc (List.cons.inj hdot).1, fun hdots => ?_⟩
  exact hc (List.cons_prefix_cons.mp hdots).1.symm

end IsPortable

/-- No letter or digit has a meaning in a path. -/
lemma Naming.ne_of_isWordChar {c : Char} (h : isWordChar c) : c ≠ '.' ∧ c ≠ '/' ∧ c ≠ '\x00' := by
  refine ⟨?_, ?_, ?_⟩ <;> · rintro rfl; exact absurd h (by decide)

/-- A word with something harmless behind it is a portable name. -/
lemma Naming.IsName.isPortable_append {n ending : String} (h : IsName n)
    (hslash : '/' ∉ ending.toList) (hzero : '\x00' ∉ ending.toList) : IsPortable (n ++ ending) := by
  obtain ⟨c, cs, hcs⟩ := List.exists_cons_of_ne_nil h.ne_nil
  have hchars : ∀ d ∈ c :: cs, _ := fun d hd => ne_of_isWordChar (h.chars d (hcs ▸ hd))
  have hlist : (n ++ ending).toList = c :: (cs ++ ending.toList) := by
    rw [String.toList_append, hcs, List.cons_append]
  refine IsPortable.of_head hlist (hchars c List.mem_cons_self).1 (fun hmem => ?_) fun hmem => ?_
  · rcases List.mem_append.mp (List.cons_append ▸ hmem) with hm | hm
    · exact (hchars _ hm).2.1 rfl
    · exact hslash hm
  · rcases List.mem_append.mp (List.cons_append ▸ hmem) with hm | hm
    · exact (hchars _ hm).2.2 rfl
    · exact hzero hm

/-! ### The words of a package -/

namespace Layout

/-- A package consists of words. -/
lemma isPackagePath_package (name : String) : IsPackagePath (ofName name).package := by
  rw [ofName, orElse]
  by_cases hempty : (packagePath name).isEmpty
  · rw [if_pos hempty]
    refine ⟨["demo".toList], by simp, fun w hw => ?_, by simp⟩
    rw [List.mem_singleton.mp hw]
    exact ⟨by simp, by simp⟩
  · rw [if_neg hempty]
    exact isPackagePath_packagePath (mt isEmpty_packagePath_iff.mpr hempty)

/-- Package, directory and artifact id are one row of words under three separators. -/
lemma exists_words (name : String) :
    ∃ ws : List (List Char), ws ≠ [] ∧ (∀ w ∈ ws, IsSmallWord w) ∧
      (ofName name).package.toList = List.intercalate ['.'] ws ∧
      (ofName name).packageDir.toList = List.intercalate ['/'] ws ∧
      (ofName name).artifactId.toList = List.intercalate ['-'] ws := by
  obtain ⟨ws, hne, hws, hpackage⟩ := isPackagePath_package name
  have hdot : ∀ w ∈ ws, '.' ∉ w :=
    fun w hw hmem => (ne_of_isWordChar ((hws w hw).isWord.chars _ hmem)).1 rfl
  refine ⟨ws, hne, hws, hpackage, ?_, ?_⟩
  · rw [Layout.packageDir, Naming.packageDir, String.toList_ofList, hpackage, map_intercalate hdot]
  · rw [artifactId, String.toList_ofList, hpackage, map_intercalate hdot]

/-- An artifact id has no dot, no slash and no zero. -/
lemma of_mem_artifactId {name : String} {c : Char} (hc : c ∈ (ofName name).artifactId.toList) :
    c ≠ '.' ∧ c ≠ '/' ∧ c ≠ '\x00' := by
  obtain ⟨ws, -, hws, -, -, hlist⟩ := exists_words name
  rcases mem_intercalate (hlist ▸ hc) with rfl | ⟨w, hw, hcw⟩
  · decide
  · exact ne_of_isWordChar ((hws w hw).isWord.chars c hcw)

@[simp] lemma artifactId_ne_empty (name : String) : (ofName name).artifactId ≠ "" := by
  obtain ⟨ws, hne, hws, -, -, hlist⟩ := exists_words name
  obtain ⟨w, ws, rfl⟩ := List.exists_cons_of_ne_nil hne
  have hw := (hws w List.mem_cons_self).ne_nil
  refine mt String.toList_eq_nil_iff.mpr ?_
  rw [hlist]
  cases ws with
  | nil => simpa using hw
  | cons v ws => simp [List.intercalate_cons_cons]

/-- The directory of a project is portable. -/
lemma isPortable_artifactId (name : String) : IsPortable (ofName name).artifactId := by
  have hchars := @of_mem_artifactId name
  obtain ⟨c, cs, hcs⟩ := List.exists_cons_of_ne_nil
    (mt String.toList_eq_nil_iff.mp (artifactId_ne_empty name))
  rw [hcs] at hchars
  exact IsPortable.of_head hcs (hchars List.mem_cons_self).1 (fun hmem => (hchars hmem).2.1 rfl)
    fun hmem => (hchars hmem).2.2 rfl

/-- The directory of a package is portable. -/
lemma isPortable_packageDir (name : String) : IsPortable (ofName name).packageDir := by
  obtain ⟨ws, hne, hws, -, hlist, -⟩ := exists_words name
  have hchars : ∀ w ∈ ws, ∀ c ∈ w, c ≠ '.' ∧ c ≠ '/' ∧ c ≠ '\x00' :=
    fun w hw c hc => ne_of_isWordChar ((hws w hw).isWord.chars c hc)
  have hparts : (ofName name).packageDir.toList.splitOn '/' = ws := by
    rw [hlist]
    exact List.splitOn_intercalate '/' (fun w hw hmem => (hchars w hw _ hmem).2.1 rfl) hne
  constructor
  · intro hmem
    rcases mem_intercalate (hlist ▸ hmem) with h | ⟨w, hw, hc⟩
    · exact absurd h (by decide)
    · exact (hchars w hw _ hc).2.2 rfl
  · intro w hw
    rw [hparts] at hw
    have hdot : '.' ∉ w := fun hmem => (hchars w hw _ hmem).1 rfl
    refine ⟨(hws w hw).ne_nil, fun h => hdot (h ▸ List.mem_cons_self), fun h => hdot ?_⟩
    exact h.subset List.mem_cons_self

/-! ### The paths of a project -/

variable (name : String)

/-- A file of a project has a portable path if it has one in the directory of the project. -/
lemma isPortable_projectFile {relative : String} (h : IsPortable relative) :
    IsPortable ((ofName name).projectFile relative) :=
  (isPortable_artifactId name).join h

/-- A source file has a portable path if it has one in the directory of the root package. -/
lemma isPortable_sourceFile {relative : String} (h : IsPortable relative) :
    IsPortable ((ofName name).sourceFile relative) := by
  have hsources : IsPortable "src/main/java" := by decide
  have hjoined := (hsources.join (isPortable_packageDir name)).join h
  exact isPortable_projectFile name hjoined

/-- The files of a type have portable paths. -/
lemma isPortable_artifactPath (kind : ArtifactKind) {n : String} (hn : IsName n) :
    IsPortable ((ofName name).artifactPath kind n) := by
  have hlayer : IsPortable kind.layer := by cases kind <;> decide
  have hfile : IsPortable (kind.stem n ++ ".java") := by
    rw [ArtifactKind.stem, String.append_assoc]
    refine hn.isPortable_append ?_ ?_ <;> cases kind <;> decide
  have hjoined := hlayer.join hfile
  rw [← String.append_assoc] at hjoined
  exact isPortable_sourceFile name hjoined

/-- The files of the project itself have portable paths. -/
lemma isPortable_of_mem_ownPaths {path : String} (h : path ∈ (ofName name).ownPaths) :
    IsPortable path := by
  simp only [ownPaths, List.mem_cons, List.not_mem_nil, or_false] at h
  rcases h with rfl | rfl | rfl | rfl
  · exact isPortable_projectFile name (by decide)
  · exact isPortable_projectFile name (by decide)
  · exact isPortable_projectFile name (by decide)
  · exact isPortable_sourceFile name
      ((isName_applicationType name).isPortable_append (by decide) (by decide))

end Layout

/-- All files of a run have portable paths. -/
lemma Snapshot.isPortable_of_mem_paths {s : Snapshot} {config : Config} {name path : String}
    (h : path ∈ (FileTree.ofList (s.files config name)).paths) : IsPortable path := by
  rw [paths_ofList_files] at h
  rcases List.mem_append.mp h with h | h
  · exact Layout.isPortable_of_mem_ownPaths name h
  · obtain ⟨n, hn, hpath⟩ := List.mem_flatMap.mp h
    obtain ⟨kind, -, rfl⟩ := List.mem_map.mp hpath
    exact Layout.isPortable_artifactPath name kind
      (isName_of_mem_typeNames (List.mem_eraseDups.mp hn))

end CrudScaffold

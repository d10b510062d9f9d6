import CrudScaffold.Proofs.List
import CrudScaffold.Proofs.Naming
import CrudScaffold.Project.Layout

/-!
# Paths of a project

The files of a project lie at different paths unless they are the same file of the same type. Below
the directory of the root package a path is a layer, a slash and a file name; layers have no slash,
and the two kinds that share a layer differ in the last letter of what they add to the type name.
The four files of the project itself lie outside of the layers: three are not among the sources, and
the type that starts the application is in no layer.
-/

namespace CrudScaffold

open Naming

/-! ### Files of a type -/

namespace ArtifactKind

/-- In one layer the name of a type tells the kind of the file and the type it belongs to. -/
lemma stem_inj {kind kind' : ArtifactKind} {n n' : String} (hl : kind.layer = kind'.layer)
    (h : kind.stem n = kind'.stem n') : kind = kind' ∧ n = n' := by
  have hlast := congrArg (fun s : String => s.toList.getLast?) h
  have hkind : kind = kind' := by
    cases kind <;> cases kind' <;> simp [layer] at hl ⊢ <;> simp [stem, ending] at hlast
  subst hkind
  exact ⟨rfl, (String.append_left_inj _).mp h⟩

/-- No layer has a slash in its name. -/
lemma slash_notMem_layer (kind : ArtifactKind) : '/' ∉ kind.layer.toList := by
  cases kind <;> decide

end ArtifactKind

namespace Layout

variable {l : Layout}

/-- A file of a project lies in the directory of the project. -/
lemma projectFile_eq (l : Layout) (relative : String) :
    l.projectFile relative = l.artifactId ++ "/" ++ relative :=
  rfl

/-- A source file lies in the directory of the root package. -/
lemma sourceFile_eq (l : Layout) (relative : String) :
    l.sourceFile relative = l.projectFile ("src/main/java/" ++ l.packageDir ++ "/" ++ relative) :=
  rfl

/-- A file of an entity lies in the directory of its layer. -/
lemma artifactPath_eq (l : Layout) (kind : ArtifactKind) (n : String) :
    l.artifactPath kind n = l.sourceFile (kind.layer ++ "/" ++ kind.stem n ++ ".java") :=
  rfl

/-- Files of a project at different places have different paths. -/
lemma projectFile_inj {a b : String} : l.projectFile a = l.projectFile b ↔ a = b := by
  rw [projectFile_eq, projectFile_eq, String.append_right_inj]

/-- Source files at different places have different paths. -/
lemma sourceFile_inj {a b : String} : l.sourceFile a = l.sourceFile b ↔ a = b := by
  rw [sourceFile_eq, sourceFile_eq, projectFile_inj, String.append_right_inj]

/-- The path of a file tells its kind and the type it belongs to. -/
lemma artifactPath_inj {kind kind' : ArtifactKind} {n n' : String}
    (h : l.artifactPath kind n = l.artifactPath kind' n') : kind = kind' ∧ n = n' := by
  rw [artifactPath_eq, artifactPath_eq, sourceFile_inj] at h
  have hlist : kind.layer.toList ++ '/' :: (kind.stem n ++ ".java").toList =
      kind'.layer.toList ++ '/' :: (kind'.stem n' ++ ".java").toList := by
    simpa using congrArg String.toList h
  obtain ⟨hlayer, hstem⟩ := append_cons_inj_of_notMem_left kind.slash_notMem_layer
    kind'.slash_notMem_layer hlist
  exact ArtifactKind.stem_inj (String.toList_injective hlayer)
    ((String.append_left_inj _).mp (String.toList_injective hstem))

/-- The paths of the files of a type. -/
def typePaths (l : Layout) (n : String) : List String :=
  ArtifactKind.all.map fun kind => l.artifactPath kind n

@[simp] lemma length_typePaths (l : Layout) (n : String) : (l.typePaths n).length = 7 :=
  rfl

@[simp] lemma nodup_typePaths (l : Layout) (n : String) : (l.typePaths n).Nodup :=
  List.Nodup.map (fun _ _ h => (artifactPath_inj h).1) (by decide)

/-- Files of different types lie at different paths. -/
lemma disjoint_typePaths {n n' : String} (h : n ≠ n') :
    List.Disjoint (l.typePaths n) (l.typePaths n') := by
  intro path hp hp'
  obtain ⟨kind, -, rfl⟩ := List.mem_map.mp hp
  obtain ⟨kind', -, he⟩ := List.mem_map.mp hp'
  exact h (artifactPath_inj he).2.symm

/-! ### Files of the project -/

/-- The paths of the files that belong to no type. -/
def ownPaths (l : Layout) : List String :=
  [l.projectFile "pom.xml", l.projectFile "README.md",
    l.projectFile "src/main/resources/application.properties",
    l.sourceFile (l.applicationType ++ ".java")]

@[simp] lemma length_ownPaths (l : Layout) : l.ownPaths.length = 4 :=
  rfl

/-- The type that starts the application is called by a word. -/
lemma isName_applicationType (name : String) : IsName (ofName name).applicationType := by
  refine IsName.append ?_ (by simp; decide)
  unfold orElse
  by_cases h : (Naming.typeName name).isEmpty
  · rw [if_pos h]
    exact ⟨by simp, by simp; decide⟩
  · rw [if_neg h]
    exact isName_typeName (by simpa using h)

/-- What does not begin like the path of a source file is not one. -/
lemma projectFile_ne_sourceFile {a b : String}
    (h : ¬ "src/main/java/".toList <+: a.toList) : l.projectFile a ≠ l.sourceFile b := by
  intro he
  rw [sourceFile_eq, projectFile_inj] at he
  refine h ?_
  rw [he, String.toList_append, String.toList_append, String.toList_append, List.append_assoc,
    List.append_assoc]
  exact List.prefix_append _ _

/-- The files of the project lie at different paths. -/
lemma nodup_ownPaths (l : Layout) : l.ownPaths.Nodup := by
  have hpom : l.projectFile "pom.xml" ≠ l.sourceFile (l.applicationType ++ ".java") :=
    projectFile_ne_sourceFile (by decide)
  have hreadme : l.projectFile "README.md" ≠ l.sourceFile (l.applicationType ++ ".java") :=
    projectFile_ne_sourceFile (by decide)
  have hsettings : l.projectFile "src/main/resources/application.properties" ≠
      l.sourceFile (l.applicationType ++ ".java") :=
    projectFile_ne_sourceFile (by decide)
  simp [ownPaths, projectFile_inj, hpom, hreadme, hsettings]

/-- No file of a type lies at the path of a file of the project. -/
lemma artifactPath_notMem_ownPaths (name : String) (kind : ArtifactKind) (n : String) :
    (ofName name).artifactPath kind n ∉ (ofName name).ownPaths := by
  intro h
  simp only [ownPaths, List.mem_cons, List.not_mem_nil, or_false] at h
  rcases h with h | h | h | h
  · exact projectFile_ne_sourceFile (by decide) h.symm
  · exact projectFile_ne_sourceFile (by decide) h.symm
  · exact projectFile_ne_sourceFile (by decide) h.symm
  · -- the layer ends in a slash, and there is none in the name of a type
    have hslash : '/' ∈ ((ofName name).applicationType ++ ".java").toList := by
      rw [artifactPath_eq, sourceFile_inj] at h
      rw [← h]
      simp
    rcases List.mem_append.mp (String.toList_append .. ▸ hslash) with hc | hc
    · exact absurd ((isName_applicationType name).chars _ hc) (by decide)
    · exact absurd hc (by decide)

/-- The paths of the project and those of any types are different. -/
lemma disjoint_ownPaths (name : String) (names : List String) :
    List.Disjoint (ofName name).ownPaths (names.flatMap (ofName name).typePaths) := by
  intro path hown hp
  obtain ⟨n, -, hn⟩ := List.mem_flatMap.mp hp
  obtain ⟨kind, -, rfl⟩ := List.mem_map.mp hn
  exact artifactPath_notMem_ownPaths name kind n hown

/-- The layout of a project called `Shop`, which the examples are about. -/
lemma ofName_shop : ofName "Shop" = ⟨"shop", "ShopApplication"⟩ := by
  decide +kernel

end Layout

end CrudScaffold

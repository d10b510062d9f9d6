import CrudScaffold.Proofs.Artifact.TypeFile
import CrudScaffold.Proofs.Project.Portable
import CrudScaffold.Proofs.Relationship.Index

/-!
# Closure of packages, types and imports

A Java file of a project is where its package and its type say it is, and what it imports from the
project is there. A path below the sources is cut into a directory and a file name in one way only
(`Layout.javaFile_inj`), so the package line of a file can be compared with any reading of its path.
The code of a file is known to declare its type (`Snapshot.exists_isTypeFile`), and everything
that it imports from a layer of the project is a file of its own entity, which always has all seven.
-/

namespace CrudScaffold

open Naming

/-! ### Paths of Java files -/

/-- The package that the files of a directory belong to. -/
def dirPackage (dir : String) : String :=
  String.ofList (dir.toList.map fun c => if c == '/' then '.' else c)

namespace Layout

variable {l : Layout} {dir dir' stem stem' : String}

/-- The path of a Java file in a directory below the sources. -/
def javaFile (l : Layout) (dir stem : String) : String :=
  l.projectFile s!"src/main/java/{dir}/{stem}.java"

/-- The path of a Java file, part by part. -/
lemma javaFile_eq (l : Layout) (dir stem : String) :
    l.javaFile dir stem = s!"{l.artifactId}/src/main/java/{dir}/{stem}.java" := by
  change l.artifactId ++ "/" ++ ("src/main/java/" ++ dir ++ "/" ++ stem ++ ".java") =
    l.artifactId ++ "/src/main/java/" ++ dir ++ "/" ++ stem ++ ".java"
  refine String.toList_injective ?_
  simp

/-- The path of a Java file tells its directory and the name of the file. -/
lemma javaFile_inj (hs : '/' ∉ stem.toList) (hs' : '/' ∉ stem'.toList)
    (h : l.javaFile dir stem = l.javaFile dir' stem') : dir = dir' ∧ stem = stem' := by
  have hfile : "src/main/java/" ++ dir ++ "/" ++ stem ++ ".java" =
      "src/main/java/" ++ dir' ++ "/" ++ stem' ++ ".java" :=
    projectFile_inj.mp h
  have hlist : ("src/main/java/" ++ dir).toList ++ '/' :: stem.toList =
      ("src/main/java/" ++ dir').toList ++ '/' :: stem'.toList := by
    simpa using congrArg String.toList ((String.append_left_inj _).mp hfile)
  obtain ⟨hdir, hstem⟩ := append_cons_inj_of_notMem_right hs hs' hlist
  exact ⟨(String.append_right_inj _).mp (String.toList_injective hdir),
    String.toList_injective hstem⟩

/-- The file of a type is a Java file in the directory of its layer. -/
lemma artifactPath_eq_javaFile (l : Layout) (kind : ArtifactKind) (n : String) :
    l.artifactPath kind n = l.javaFile (l.packageDir ++ "/" ++ kind.layer) (kind.stem n) := by
  have hpath : "src/main/java/" ++ l.packageDir ++ "/" ++
      (kind.layer ++ "/" ++ kind.stem n ++ ".java") =
      "src/main/java/" ++ (l.packageDir ++ "/" ++ kind.layer) ++ "/" ++ kind.stem n ++ ".java" := by
    simp only [String.append_assoc]
  rw [artifactPath_eq, sourceFile_eq, hpath]
  rfl

/-- The type that starts the application is in a Java file of the root package. -/
lemma sourceFile_eq_javaFile (l : Layout) (stem : String) :
    l.sourceFile (stem ++ ".java") = l.javaFile l.packageDir stem := by
  rw [sourceFile_eq, ← String.append_assoc]
  rfl

/-- Such a path ends like one. -/
lemma java_suffix_javaFile (l : Layout) (dir stem : String) :
    ".java".toList <:+ (l.javaFile dir stem).toList := by
  rw [javaFile_eq, String.toList_append]
  exact List.suffix_append _ _

variable (name : String)

/-- The characters of a package. -/
lemma mem_package {c : Char} (hc : c ∈ (ofName name).package.toList) : c = '.' ∨ isWordChar c := by
  obtain ⟨ws, -, hws, hpackage⟩ := isPackagePath_package name
  refine (mem_intercalate (hpackage ▸ hc)).imp_right fun ⟨w, hw, hcw⟩ => ?_
  exact (hws w hw).isWord.chars c hcw

/-- A package is written on one line. -/
lemma lineEnd_notMem_package : '\n' ∉ (ofName name).package.toList :=
  fun h => absurd (mem_package name h) (by decide)

/-- A package has no annotation in it. -/
lemma at_notMem_package : '@' ∉ (ofName name).package.toList :=
  fun h => absurd (mem_package name h) (by decide)

/-- The directory of the root package belongs to the root package. -/
lemma dirPackage_packageDir : dirPackage (ofName name).packageDir = (ofName name).package := by
  have hslash : '/' ∉ (ofName name).package.toList :=
    fun h => absurd (mem_package name h) (by decide)
  refine String.toList_injective ?_
  rw [dirPackage, packageDir, Naming.packageDir, String.toList_ofList, String.toList_ofList,
    List.map_map]
  refine (List.map_congr_left fun c hc => ?_).trans (List.map_id _)
  have hne : c ≠ '/' := fun h => hslash (h ▸ hc)
  by_cases hdot : c = '.'
  · simp [hdot]
  · simp [hdot, hne]

/-- The directory of a layer belongs to the package of the layer. -/
lemma dirPackage_layer (kind : ArtifactKind) :
    dirPackage ((ofName name).packageDir ++ "/" ++ kind.layer) =
      (ofName name).package ++ "." ++ kind.layer := by
  have hlayer : dirPackage kind.layer = kind.layer := by cases kind <;> decide
  have happend : ∀ a b : String,
      dirPackage (a ++ "/" ++ b) = dirPackage a ++ "." ++ dirPackage b := by
    intro a b
    refine String.toList_injective ?_
    simp [dirPackage]
  rw [happend, dirPackage_packageDir, hlayer]

end Layout

/-- A Java file, by its name. -/
def File.IsJava (f : File) : Prop := ".java".toList <:+ f.path.toList

/-- A file of a project whose name ends differently is not a Java file. -/
lemma File.not_isJava_projectFile {l : Layout} {relative content : String}
    (h : relative.toList.getLast?.any (· ≠ 'a')) :
    ¬ (⟨l.projectFile relative, content⟩ : File).IsJava := by
  rintro ⟨front, hpath⟩
  have hlast : (l.projectFile relative).toList.getLast? = some 'a' := by
    rw [← hpath]
    simp
  rw [Layout.projectFile_eq, String.toList_append, List.getLast?_append] at hlast
  cases hr : relative.toList.getLast? with
  | none => simp [hr] at h
  | some c =>
    rw [hr] at h hlast
    simp at h hlast
    exact h hlast

/-- What is neither letter nor digit is in no name. -/
lemma Naming.IsName.notMem {n : String} (h : IsName n) {c : Char} (hc : ¬ isWordChar c) :
    c ∉ n.toList :=
  fun hmem => hc (h.chars c hmem)

/-- A type that is made from a class with a name has one too. -/
lemma ArtifactKind.isName_stem {n : String} (kind : ArtifactKind) (h : IsName n) :
    IsName (kind.stem n) := by
  refine h.append (List.all_eq_true.mp ?_)
  cases kind <;> decide

/-- The type that starts the application is declared in the root package. -/
lemma Project.isTypeFile_application (p : Project) :
    Code.IsTypeFile p.application p.layout.package applicationImports p.layout.applicationType := by
  have hmarked : ∀ a ∈ ["@SpringBootApplication"], ∃ cs, a.toList = '@' :: cs := by
    intro a ha
    exact ⟨"SpringBootApplication".toList, by rw [List.mem_singleton.mp ha]; rfl⟩
  exact Code.isTypeFile_class _ _ _ hmarked rfl

/-- A layer is written on one line. -/
lemma ArtifactKind.lineEnd_notMem_layer (kind : ArtifactKind) : '\n' ∉ kind.layer.toList := by
  cases kind <;> decide

namespace Snapshot

variable {s : Snapshot} {config : Config} {name : String}

/-- An entity of a diagram has the name of a class and types of attributes that tags stand for. -/
lemma of_mem_entities {package : String} {e : Entity} (h : e ∈ s.entities package) :
    e.typeName ∈ s.typeNames ∧ e.package = package ∧ e.IsTyped := by
  rw [entities_eq] at h
  obtain ⟨c, hc, he⟩ := List.mem_filterMap.mp h
  obtain ⟨n, hn, rfl⟩ := Option.map_eq_some_iff.mp he
  exact ⟨mem_typeNames.mpr ⟨c, hc, hn⟩, rfl, Entity.isTyped_ofClass ..⟩

/-- A Java file of a run is the one that starts the application or one of an entity. -/
lemma javaFile_cases {f : File} (hf : f ∈ s.files config name) (hjava : f.IsJava) :
    let layout := Layout.ofName name
    f = ⟨layout.sourceFile (layout.applicationType ++ ".java"),
        Code.render (s.project config name).application⟩ ∨
      ∃ e ∈ s.entities layout.package, ∃ kind : ArtifactKind,
        f = ⟨layout.artifactPath kind e.typeName, kind.render e⟩ := by
  rcases List.mem_append.mp hf with hf | hf
  · simp only [Project.ownFiles, List.mem_cons, List.not_mem_nil, or_false] at hf
    rcases hf with rfl | rfl | rfl | rfl
    · exact absurd hjava (File.not_isJava_projectFile (by decide))
    · exact absurd hjava (File.not_isJava_projectFile (by decide))
    · exact absurd hjava (File.not_isJava_projectFile (by decide))
    · exact .inl rfl
  · obtain ⟨e, he, hf⟩ := List.mem_flatMap.mp hf
    obtain ⟨kind, -, rfl⟩ := List.mem_map.mp hf
    exact .inr ⟨e, he, kind, rfl⟩

/-- The code of a Java file of a run: it declares the type that the file is named after in the
package of its directory, and it imports library types and types of the diagram. -/
lemma exists_isTypeFile {f : File} {dir stem : String} (hf : f ∈ s.files config name)
    (hstem : '/' ∉ stem.toList) (hpath : f.path = (Layout.ofName name).javaFile dir stem) :
    ∃ code imports, f.content = Code.render code ∧ IsName stem ∧
      '\n' ∉ (dirPackage dir).toList ∧ Code.IsTypeFile code (dirPackage dir) imports stem ∧
      ∀ i ∈ imports, IsLibraryType i ∨ ∃ kind : ArtifactKind, ∃ n ∈ s.typeNames,
        i = (Layout.ofName name).package ++ "." ++ kind.layer ++ "." ++ kind.stem n := by
  have hjava : f.IsJava := by
    rw [File.IsJava, hpath]
    exact Layout.java_suffix_javaFile _ _ _
  rcases javaFile_cases hf hjava with rfl | ⟨e, he, kind, rfl⟩
  · have hname := Layout.isName_applicationType name
    obtain ⟨rfl, rfl⟩ := Layout.javaFile_inj (hname.notMem (by decide)) hstem
      ((Layout.sourceFile_eq_javaFile ..).symm.trans hpath)
    rw [Layout.dirPackage_packageDir]
    refine ⟨_, Project.applicationImports, rfl, hname, Layout.lineEnd_notMem_package name,
      (s.project config name).isTypeFile_application, fun i hi => .inl ?_⟩
    revert i
    decide
  · obtain ⟨hn, hpackage, htyped⟩ := of_mem_entities he
    have hname := kind.isName_stem (isName_of_mem_typeNames hn)
    obtain ⟨rfl, rfl⟩ := Layout.javaFile_inj (hname.notMem (by decide)) hstem
      ((Layout.artifactPath_eq_javaFile ..).symm.trans hpath)
    rw [Layout.dirPackage_layer]
    refine ⟨kind.code e, kind.imports e, rfl, hname, ?_, ?_, fun i hi => ?_⟩
    · simp [Layout.lineEnd_notMem_package, kind.lineEnd_notMem_layer]
    · rw [← hpackage]
      exact kind.isTypeFile_code e
    · rcases ArtifactKind.isOwnType_or_isLibraryType htyped hi with ⟨kind', rfl⟩ | hlibrary
      · exact .inr ⟨kind', e.typeName, hn, hpackage ▸ rfl⟩
      · exact .inl hlibrary

/-- What a file imports stands on one line. -/
lemma lineEnd_notMem_import {i : String}
    (h : IsLibraryType i ∨ ∃ kind : ArtifactKind, ∃ n ∈ s.typeNames,
      i = (Layout.ofName name).package ++ "." ++ kind.layer ++ "." ++ kind.stem n) :
    '\n' ∉ i.toList := by
  rcases h with hlibrary | ⟨kind, n, hn, rfl⟩
  · exact hlibrary.1
  · have hstem : '\n' ∉ (kind.stem n).toList :=
      (kind.isName_stem (isName_of_mem_typeNames hn)).notMem (by decide)
    simp [Layout.lineEnd_notMem_package, kind.lineEnd_notMem_layer, hstem]

/-- The files of a type of a diagram are in the tree of a run. -/
lemma artifactPath_mem_paths {n : String} (hn : n ∈ s.typeNames) (kind : ArtifactKind) :
    (Layout.ofName name).artifactPath kind n ∈
      (FileTree.ofList (s.files config name)).paths := by
  rw [paths_ofList_files]
  refine List.mem_append_right _ (List.mem_flatMap.mpr ⟨n, List.mem_eraseDups.mpr hn, ?_⟩)
  exact List.mem_map_of_mem (by cases kind <;> decide)

/-- The type at the other end of a relationship field is that of a class of the diagram. -/
lemma relatedType_mem_typeNames {id : String} {f : RelationshipField}
    (h : f ∈ relationshipFields id s (.ofSnapshot s)) : f.relatedType ∈ s.typeNames := by
  obtain ⟨l, hl, hf⟩ := mem_relationshipFields.mp h
  obtain ⟨side, -, hfield⟩ := Link.mem_fieldsOf.mp hf
  obtain ⟨-, -, -, htype, -, -⟩ := Link.field_eq_some hfield
  have hend := Link.typeName?_endId hl side.opposite
  obtain ⟨c, hc, hid⟩ := List.mem_map.mp
    ((ClassNames.typeName?_isSome_iff s _).mp (Option.isSome_iff_exists.mpr ⟨_, hend⟩))
  exact mem_typeNames.mpr ⟨c, hc, by rw [hid, hend, htype]⟩

end Snapshot

/-- The full name of a type tells its layer and its own name. -/
lemma Layout.layerType_inj {package layer n n' : String} {kind : ArtifactKind}
    (hlayer : layer ∈ layers)
    (h : package ++ "." ++ layer ++ "." ++ n = package ++ "." ++ kind.layer ++ "." ++ n') :
    layer = kind.layer ∧ n = n' := by
  have hdot : ∀ l ∈ layers, '.' ∉ l.toList := by decide
  have hlist : layer.toList ++ '.' :: n.toList = kind.layer.toList ++ '.' :: n'.toList := by
    simpa using congrArg String.toList h
  obtain ⟨hl, hn⟩ := append_cons_inj_of_notMem_left (hdot layer hlayer)
    (hdot _ kind.layer_mem_layers) hlist
  exact ⟨String.toList_injective hl, String.toList_injective hn⟩

/-- **Closure of packages, types and imports.** Take any Java file of the tree of a project, by its
directory and its name. Its first line is the package that the directory stands for, it declares a
public class or interface of its name, and whatever its import block takes from a layer of the
project is a file of the tree. So is the model of every type that a relationship field of a model
refers to. -/
theorem Snapshot.generate_importClosure (s : Snapshot) (config : Config) (name : String)
    (hs : s.isEmpty = false) :
    let layout := Layout.ofName name
    ∃ tree, generate s config name = .ok tree ∧
      (∀ f ∈ tree.files, ∀ dir stem : String, '/' ∉ stem.toList →
        f.path = s!"{layout.artifactId}/src/main/java/{dir}/{stem}.java" →
          (Code.textLines f.content).head? = some s!"package {dirPackage dir};" ∧
          Code.DeclaresType f.content stem ∧
          ∀ layer ∈ ["model", "access", "logic", "api", "dto", "mapping"], ∀ typeName : String,
            s!"import {layout.package}.{layer}.{typeName};" ∈ Code.importBlock f.content →
              layout.sourceFile s!"{layer}/{typeName}.java" ∈ tree.paths) ∧
      ∀ n ∈ s.typeNames, ∃ c, s.lastNamed n = some c ∧
        tree.get? (layout.artifactPath .model n) =
          some (ArtifactKind.model.render (s.entity layout.package c n)) ∧
        ∀ f ∈ (s.entity layout.package c n).relationships,
          layout.artifactPath .model f.relatedType ∈ tree.paths := by
  intro layout
  refine ⟨.ofList (s.files config name), generate_eq config name hs, ?_, ?_⟩
  · intro f hf dir stem hstem hpath
    obtain ⟨code, imports, hcontent, hname, hpackage, htype, himports⟩ :=
      exists_isTypeFile (FileTree.mem_of_mem_files_ofList hf) hstem
        (hpath.trans (layout.javaFile_eq dir stem).symm)
    have hends : ∀ i ∈ imports, '\n' ∉ i.toList :=
      fun i hi => lineEnd_notMem_import (himports i hi)
    rw [hcontent]
    refine ⟨htype.head?_textLines hpackage, htype.declaresType (hname.notMem (by decide)), ?_⟩
    intro layer hlayer typeName himport
    rw [htype.importBlock_render hpackage hends] at himport
    obtain ⟨i, hi, hline⟩ := List.mem_map.mp himport
    have hi' : i = layout.package ++ "." ++ layer ++ "." ++ typeName := by
      have htext : "import " ++ i ++ ";" =
          "import " ++ layout.package ++ "." ++ layer ++ "." ++ typeName ++ ";" := hline
      have hparts : "import " ++ i =
          "import " ++ (layout.package ++ "." ++ layer ++ "." ++ typeName) := by
        rw [(String.append_left_inj _).mp htext]
        simp only [String.append_assoc]
      exact (String.append_right_inj _).mp hparts
    rcases himports i (Code.mem_sortedNames.mp hi) with hlibrary | ⟨kind, n, hn, hown⟩
    · exact absurd hi' (hlibrary.ne_layerType hlayer)
    · obtain ⟨rfl, rfl⟩ := Layout.layerType_inj hlayer (hi'.symm.trans hown)
      exact artifactPath_mem_paths hn kind
  · intro n hn
    obtain ⟨c, hc⟩ := exists_lastNamed hn
    refine ⟨c, hc, ?_, fun f hf => ?_⟩
    · rw [s.get?_ofList_files config name .model n, hc]
      rfl
    · have hfields : f ∈ (RelationshipIndex.build s (.ofSnapshot s)).fieldsFor c.id := hf
      rw [RelationshipIndex.fieldsFor_build] at hfields
      exact artifactPath_mem_paths (relatedType_mem_typeNames hfields) .model

/-- A diagram in which a note, called by its position, refers to an order. -/
def Snapshot.noteOnOrder : Snapshot where
  classes := [{ id := "n", name := "¿?" }, { id := "o", name := "Order" }]
  relations := [{ id := "1", kind := .association, sourceId := "n", targetId := "o" }]

/-- In a project with a name of two words, the service of the first class is found by its path, and
the mapper that it imports and the model that the first class refers to are there. -/
theorem Snapshot.generate_importClosure_noteOnOrder :
    noteOnOrder.isEmpty = false ∧
    ∃ tree, generate noteOnOrder {} "Mi Shop" = .ok tree ∧
      (∃ f ∈ tree.files,
        f.path = "mi-shop/src/main/java/mi/shop/logic/Entity1Logic.java" ∧
        (Code.textLines f.content).head? = some "package mi.shop.logic;" ∧
        Code.DeclaresType f.content "Entity1Logic" ∧
        "import mi.shop.mapping.Entity1Mapper;" ∈ Code.importBlock f.content) ∧
      "mi-shop/src/main/java/mi/shop/mapping/Entity1Mapper.java" ∈ tree.paths ∧
      "mi-shop/src/main/java/mi/shop/model/Order.java" ∈ tree.paths := by
  have hs : noteOnOrder.isEmpty = false := rfl
  have hn : "Entity1" ∈ noteOnOrder.typeNames := by decide +kernel
  have hlast : noteOnOrder.lastNamed "Entity1" = some { id := "n", name := "¿?" } := by
    decide +kernel
  have hlayout : Layout.ofName "Mi Shop" = ⟨"mi.shop", "MiShopApplication"⟩ := by decide +kernel
  have hpath : Layout.artifactPath ⟨"mi.shop", "MiShopApplication"⟩ .logic "Entity1" =
      "mi-shop/src/main/java/mi/shop/logic/Entity1Logic.java" := by decide
  obtain ⟨tree, hgenerate, hfiles, hmodels⟩ := generate_importClosure noteOnOrder {} "Mi Shop" hs
  obtain rfl : FileTree.ofList (noteOnOrder.files {} "Mi Shop") = tree :=
    Except.ok.inj ((generate_eq {} "Mi Shop" hs).symm.trans hgenerate)
  -- the file is there, and its content is known
  obtain ⟨f, hf, hfpath⟩ := List.mem_map.mp (artifactPath_mem_paths hn .logic)
  have hcontent := (FileTree.sound_ofList _).get?_of_mem hf
  rw [hfpath, get?_ofList_files, hlast] at hcontent
  rw [hlayout] at hfiles hfpath hmodels hcontent
  rw [hpath] at hfpath
  obtain ⟨hpackage, htype, himports⟩ :=
    hfiles f hf "mi/shop/logic" "Entity1Logic" (by decide) hfpath
  have himport : "import mi.shop.mapping.Entity1Mapper;" ∈ Code.importBlock f.content := by
    have hblock := (ArtifactKind.logic.isTypeFile_code (noteOnOrder.entity "mi.shop"
      { id := "n", name := "¿?" } "Entity1")).importBlock_render (by decide +kernel)
        (by decide +kernel)
    rw [← Option.some.inj hcontent]
    refine hblock.symm ▸ ?_
    exact List.mem_map_of_mem (a := "mi.shop.mapping.Entity1Mapper") (by decide +kernel)
  obtain ⟨c, hc, -, hrelated⟩ := hmodels "Entity1" hn
  obtain rfl : c = { id := "n", name := "¿?" } := Option.some.inj (hc.symm.trans hlast)
  have horder := hrelated
    { ownerClassId := "n", kind := .manyToOne, side := .owning, relatedClassId := "o",
      relatedType := "Order", fieldName := "order", joinName := "order_id", mappedBy := none }
    (by decide +kernel)
  have hmodel : Layout.artifactPath ⟨"mi.shop", "MiShopApplication"⟩ .model "Order" =
      "mi-shop/src/main/java/mi/shop/model/Order.java" := by decide +kernel
  have hmapper : Layout.sourceFile ⟨"mi.shop", "MiShopApplication"⟩ "mapping/Entity1Mapper.java" =
      "mi-shop/src/main/java/mi/shop/mapping/Entity1Mapper.java" := by decide +kernel
  refine ⟨hs, _, hgenerate, ⟨f, hf, hfpath, ?_, htype, himport⟩, ?_, hmodel ▸ horder⟩
  · exact hpackage
  · exact hmapper ▸ himports "mapping" (by decide) "Entity1Mapper" himport

end CrudScaffold

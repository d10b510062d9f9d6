import CrudScaffold.Proofs.Artifact.Import
import CrudScaffold.Proofs.Project.Injection

/-!
# Clashes of imports

The names of classes become names of types that are imported next to types of libraries, and the
name of a project becomes the name of a type next to two others. So a class that is called like a
library type, say `Service`, gets files that cannot be compiled, since they import two types of one
simple name. Which files these are is known exactly: those that know the model of the class and the
library type (`ArtifactKind.importsApart_render_iff`).
-/

namespace CrudScaffold

open Naming

/-- The imports of the type that starts the application are apart unless it is called like one of
them. -/
lemma Project.importsApart_application_iff {p : Project} (hpackage : '\n' ∉ p.layout.package.toList)
    (hname : IsName p.layout.applicationType) :
    Code.ImportsApart (Code.render p.application) ↔
      p.layout.applicationType ∉ ["SpringApplication", "SpringBootApplication"] := by
  have himports : ∀ i ∈ applicationImports, '\n' ∉ i.toList := by decide
  have hlines : ∀ a, Code.line a ∈ p.application → '\n' ∉ a.toList := by
    intro a ha
    rcases List.mem_append.mp ha with ha | ha
    · exact Code.notMem_preamble (by decide) hpackage himports a (Code.line_mem_preamble.mp ha)
    · rcases List.mem_cons.mp ha with ha | ha
      · cases ha
        decide
      · cases List.mem_singleton.mp ha
  have hchars : ∀ c ∈ p.layout.applicationType.toList, c ≠ ' ' ∧ c ≠ '\n' := by
    intro c hc
    constructor
    · rintro rfl
      exact hname.notMem (by decide) hc
    · rintro rfl
      exact hname.notMem (by decide) hc
  have hsimple : applicationImports.map Code.simpleName =
      ["SpringApplication", "SpringBootApplication"] := by
    decide
  have hsingle : ∀ i ∈ applicationImports, Code.IsSingle i := by decide
  rw [p.isTypeFile_application.importsApart_render_iff hlines hchars, ← hsimple, List.mem_map]
  constructor
  · rintro ⟨-, htype⟩ ⟨i, hi, he⟩
    exact htype i hi (hsingle i hi) he
  · intro hfree
    refine ⟨fun i hi j hj _ _ he => ?_, fun i hi _ he => hfree ⟨i, hi, he⟩⟩
    exact List.inj_on_of_nodup_map (hsimple ▸ by decide) hi hj he

namespace Snapshot

variable {s : Snapshot} {config : Config} {name : String}

@[simp] lemma typeName_entity (s : Snapshot) (package : String) (c : ClassDef) (n : String) :
    (s.entity package c n).typeName = n :=
  rfl

/-- A Java file of a run is that of the application or that of a type, and it is known when what it
imports is apart. -/
lemma importsApart_iff_of_mem_files {f : File}
    (hf : f ∈ (FileTree.ofList (s.files config name)).files) (hjava : f.IsJava) :
    let layout := Layout.ofName name
    (f.path = layout.sourceFile (layout.applicationType ++ ".java") ∧
      (Code.ImportsApart f.content ↔
        layout.applicationType ∉ ["SpringApplication", "SpringBootApplication"])) ∨
    ∃ kind, ∃ n ∈ s.typeNames, ∃ c, s.lastNamed n = some c ∧ f.path = layout.artifactPath kind n ∧
      (Code.ImportsApart f.content ↔
        n ∉ ArtifactKind.takenNames (s.entity layout.package c n) kind) := by
  intro layout
  have hget := (FileTree.sound_ofList _).get?_of_mem hf
  rcases javaFile_cases (FileTree.mem_of_mem_files_ofList hf) hjava with rfl | ⟨e, he, kind, rfl⟩
  · exact .inl ⟨rfl, Project.importsApart_application_iff (Layout.lineEnd_notMem_package name)
      (Layout.isName_applicationType name)⟩
  · obtain ⟨hn, -, -⟩ := of_mem_entities he
    obtain ⟨c, hc⟩ := exists_lastNamed hn
    -- what the tree holds at this path was made from the last class of the name
    have hlast := s.get?_ofList_files config name kind e.typeName
    rw [hc] at hlast
    have hcontent : kind.render (s.entity layout.package c e.typeName) = kind.render e :=
      Option.some.inj (hlast.symm.trans hget)
    obtain ⟨hclass, htypeName⟩ := of_lastNamed hc
    have hwordy := isWordy_of_mem_entities (entity_mem_entities hclass htypeName layout.package)
    have happart := ArtifactKind.importsApart_render_iff hwordy kind
    rw [typeName_entity, hcontent] at happart
    exact .inr ⟨kind, e.typeName, hn, c, hc, rfl, happart⟩

/-- **Clashes of imports.** Take any Java file of a project. If it is the type that starts the
application, its imports are apart exactly if it is not called like the one or the other of them. If
it is a file of a type, its imports are apart exactly if the name of the type is not taken in it by
a library type. So in a diagram without a class that has one of thirteen names, all Java files of
the project have their imports apart, if the name of the project is not one of two. -/
theorem generate_importsApart (s : Snapshot) (config : Config) (name : String)
    (hs : s.isEmpty = false) :
    let layout := Layout.ofName name
    ∃ tree, generate s config name = .ok tree ∧
      (∀ f ∈ tree.files, f.IsJava →
        (f.path = layout.sourceFile (layout.applicationType ++ ".java") ∧
          (Code.ImportsApart f.content ↔
            layout.applicationType ∉ ["SpringApplication", "SpringBootApplication"])) ∨
        ∃ kind, ∃ n ∈ s.typeNames, ∃ c, s.lastNamed n = some c ∧
          f.path = layout.artifactPath kind n ∧
          (Code.ImportsApart f.content ↔
            n ∉ ArtifactKind.takenNames (s.entity layout.package c n) kind)) ∧
      (layout.applicationType ∉ ["SpringApplication", "SpringBootApplication"] →
        (∀ n ∈ s.typeNames, n ∉ ArtifactKind.reservedNames) →
          ∀ f ∈ tree.files, f.IsJava → Code.ImportsApart f.content) := by
  intro layout
  refine ⟨_, generate_eq config name hs, fun f hf hjava => importsApart_iff_of_mem_files hf hjava,
    fun happlication hfree f hf hjava => ?_⟩
  rcases importsApart_iff_of_mem_files hf hjava with ⟨-, happart⟩ | ⟨kind, n, hn, c, hc, -, happart⟩
  · exact happart.mpr happlication
  · obtain ⟨hclass, htypeName⟩ := of_lastNamed hc
    obtain ⟨-, -, htyped⟩ := of_mem_entities (entity_mem_entities hclass htypeName layout.package)
    exact happart.mpr fun htaken => hfree n hn (ArtifactKind.mem_reservedNames htyped htaken)

/-- A diagram whose classes are called like library types that no file imports next to a model. -/
def constraintNames : Snapshot where
  classes := [
    { id := "v", name := "Valid" },
    { id := "s", name := "Size",
      attributes := [{ name := "label", isRequired := true, maxLength := some 8 }] }]

/-- All Java files of this project have their imports apart. -/
theorem generate_importsApart_constraintNames :
    constraintNames.isEmpty = false ∧
    (Layout.ofName "Shop").applicationType ∉ ["SpringApplication", "SpringBootApplication"] ∧
    (∀ n ∈ constraintNames.typeNames, n ∉ ArtifactKind.reservedNames) ∧
    ∃ tree, generate constraintNames {} "Shop" = .ok tree ∧
      "shop/src/main/java/shop/dto/SizeRequest.java" ∈ tree.paths ∧
      ∀ f ∈ tree.files, f.IsJava → Code.ImportsApart f.content := by
  have hs : constraintNames.isEmpty = false := rfl
  have happlication : (Layout.ofName "Shop").applicationType ∉
      ["SpringApplication", "SpringBootApplication"] := by
    rw [Layout.ofName_shop]
    decide
  have hfree : ∀ n ∈ constraintNames.typeNames, n ∉ ArtifactKind.reservedNames := by
    decide +kernel
  obtain ⟨tree, htree, -, happart⟩ := generate_importsApart constraintNames {} "Shop" hs
  refine ⟨hs, happlication, hfree, tree, htree, ?_, happart happlication hfree⟩
  have hpath : (Layout.ofName "Shop").artifactPath .request "Size" =
      "shop/src/main/java/shop/dto/SizeRequest.java" := by
    rw [Layout.ofName_shop]
    decide
  rw [generate_eq {} _ hs] at htree
  obtain rfl := Except.ok.inj htree
  rw [← hpath]
  exact artifactPath_mem_paths (by decide +kernel) .request

/-- A diagram with a class that is called like the annotation of every service. -/
def services : Snapshot where
  classes := [{ id := "s", name := "Service" }]

/-- The service of this class imports two types with the simple name of the class. -/
theorem not_importsApart_services :
    services.isEmpty = false ∧
    ∃ tree content, generate services {} "Shop" = .ok tree ∧
      tree.get? "shop/src/main/java/shop/logic/ServiceLogic.java" = some content ∧
      "import org.springframework.stereotype.Service;" ∈ Code.importBlock content ∧
      "import shop.model.Service;" ∈ Code.importBlock content ∧
      ¬ Code.ImportsApart content := by
  have hs : services.isEmpty = false := rfl
  have hlast : services.lastNamed "Service" = some { id := "s", name := "Service" } := by
    decide +kernel
  have hpath : Layout.artifactPath ⟨"shop", "ShopApplication"⟩ .logic "Service" =
      "shop/src/main/java/shop/logic/ServiceLogic.java" := by decide
  have hget := get?_ofList_files services {} "Shop" .logic "Service"
  obtain ⟨hclass, htypeName⟩ := of_lastNamed hlast
  have hwordy : (services.entity "shop" { id := "s", name := "Service" } "Service").IsWordy := by
    have hmem := entity_mem_entities hclass htypeName (Layout.ofName "Shop").package
    have hwordy := isWordy_of_mem_entities hmem
    rw [Layout.ofName_shop] at hwordy
    exact hwordy
  rw [Layout.ofName_shop, hlast, hpath] at hget
  have hblock := (ArtifactKind.logic.isTypeFile_code (services.entity "shop"
    { id := "s", name := "Service" } "Service")).importBlock_render (by decide +kernel)
      (by decide +kernel)
  refine ⟨hs, _, _, generate_eq {} "Shop" hs, hget, ?_, ?_, ?_⟩
  · refine hblock.symm ▸ List.mem_map_of_mem (a := "org.springframework.stereotype.Service") ?_
    exact Code.mem_sortedNames.mpr (by decide +kernel)
  · refine hblock.symm ▸ List.mem_map_of_mem (a := "shop.model.Service") ?_
    exact Code.mem_sortedNames.mpr (by decide +kernel)
  · rw [ArtifactKind.importsApart_render_iff hwordy, typeName_entity, not_not,
      ArtifactKind.mem_takenNames]
    exact ⟨.inr (by decide), "org.springframework.stereotype.Service", by decide +kernel⟩

end Snapshot

end CrudScaffold

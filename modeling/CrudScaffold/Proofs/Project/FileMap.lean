import CrudScaffold.Assembly
import CrudScaffold.Proofs.FileTree
import CrudScaffold.Proofs.Project.Layout

/-!
# The files of a run

A run makes the files of the project first and then those of one class after the other, and the tree
that they are put into keeps the first place and the last content of each path. Since files of
different kinds or types never share a path, all that can meet are the files of classes with the
same type name. So the tree is known file by file: every type name has its seven files at the place
where it occurs first, and all of them are made from the last class of that name.
-/

namespace CrudScaffold

namespace Snapshot

/-- The type names of the classes of a diagram, in order. -/
def typeNames (s : Snapshot) : List String :=
  s.classes.filterMap fun c => (ClassNames.ofSnapshot s).typeName? c.id

/-- A class of a diagram as its files see it, under a type name. -/
def entity (s : Snapshot) (package : String) (c : ClassDef) (n : String) : Entity :=
  .ofClass c n ((RelationshipIndex.build s (.ofSnapshot s)).fieldsFor c.id) package

/-- The last class of a diagram that has a type name. -/
def lastNamed (s : Snapshot) (n : String) : Option ClassDef :=
  s.classes.reverse.find? fun c => (ClassNames.ofSnapshot s).typeName? c.id = some n

variable {s : Snapshot} {n package : String}

/-- Every class of a diagram has a type name. -/
lemma exists_typeName? {c : ClassDef} (hc : c ∈ s.classes) :
    ∃ n, (ClassNames.ofSnapshot s).typeName? c.id = some n :=
  Option.isSome_iff_exists.mp
    ((ClassNames.typeName?_isSome_iff s c.id).mpr (List.mem_map_of_mem hc))

/-- There is one type name for each class. -/
lemma length_typeNames (s : Snapshot) : s.typeNames.length = s.classes.length := by
  refine List.filterMap_length_eq_length.mpr fun c hc => ?_
  exact Option.isSome_iff_exists.mpr (exists_typeName? hc)

/-- A type name belongs to some class. -/
lemma mem_typeNames : n ∈ s.typeNames ↔
    ∃ c ∈ s.classes, (ClassNames.ofSnapshot s).typeName? c.id = some n :=
  List.mem_filterMap

/-- Every type name is a word. -/
lemma isName_of_mem_typeNames (h : n ∈ s.typeNames) : Naming.IsName n := by
  obtain ⟨c, -, hn⟩ := mem_typeNames.mp h
  exact ClassNames.isName_of_typeName? hn

/-- Every type name has a last class. -/
lemma exists_lastNamed (h : n ∈ s.typeNames) : ∃ c, s.lastNamed n = some c := by
  obtain ⟨c, hc, hn⟩ := mem_typeNames.mp h
  refine Option.isSome_iff_exists.mp (List.find?_isSome.mpr ⟨c, List.mem_reverse.mpr hc, ?_⟩)
  exact decide_eq_true hn

/-- The last class of a type name is a class that has it. -/
lemma of_lastNamed {c : ClassDef} (h : s.lastNamed n = some c) :
    c ∈ s.classes ∧ (ClassNames.ofSnapshot s).typeName? c.id = some n :=
  ⟨List.mem_reverse.mp (List.mem_of_find?_eq_some h), by simpa using List.find?_some h⟩

/-- The entities of a diagram are its classes under their type names. -/
lemma entities_eq (s : Snapshot) (package : String) :
    s.entities package = s.classes.filterMap fun c =>
      ((ClassNames.ofSnapshot s).typeName? c.id).map (s.entity package c) :=
  rfl

/-- A class under its type name is an entity of the diagram. -/
lemma entity_mem_entities {c : ClassDef} (hc : c ∈ s.classes)
    (hn : (ClassNames.ofSnapshot s).typeName? c.id = some n) (package : String) :
    s.entity package c n ∈ s.entities package := by
  rw [entities_eq]
  exact List.mem_filterMap.mpr ⟨c, hc, by rw [hn]; rfl⟩

/-- The entities of a diagram have the type names of its classes. -/
lemma map_typeName_entities (s : Snapshot) (package : String) :
    (s.entities package).map Entity.typeName = s.typeNames := by
  rw [entities_eq, List.map_filterMap, typeNames]
  refine List.filterMap_congr fun c _ => ?_
  cases (ClassNames.ofSnapshot s).typeName? c.id <;> rfl

/-- The last entity with a type name is the last class with it. -/
lemma find?_reverse_entities (s : Snapshot) (package n : String) :
    ((s.entities package).reverse.find? fun e => e.typeName = n) =
      (s.lastNamed n).map fun c => s.entity package c n := by
  have hp : (fun c => (((ClassNames.ofSnapshot s).typeName? c.id).map (s.entity package c)).any
      fun e => decide (e.typeName = n)) =
      fun c => decide ((ClassNames.ofSnapshot s).typeName? c.id = some n) := by
    funext c
    cases (ClassNames.ofSnapshot s).typeName? c.id with
    | none => rfl
    | some m => simp [entity, Entity.ofClass]
  rw [entities_eq, ← List.filterMap_reverse, List.find?_filterMap, hp, ← lastNamed]
  cases hc : s.lastNamed n with
  | none => rfl
  | some c => simp [(of_lastNamed hc).2]

end Snapshot

/-! ### The list of files -/

/-- The paths of the files of an entity. -/
lemma Entity.map_path_files (e : Entity) (l : Layout) :
    (e.files l).map File.path = l.typePaths e.typeName := by
  rw [Entity.files, List.map_map]
  rfl

@[simp] lemma Project.map_path_ownFiles (p : Project) :
    p.ownFiles.map File.path = p.layout.ownPaths :=
  rfl

/-- The last file of an entity at a path of a type is the one of its kind, if it is the type of the
entity. -/
lemma Entity.find?_reverse_files (e : Entity) (l : Layout) (kind : ArtifactKind) (n : String) :
    ((e.files l).reverse.find? fun f => f.path = l.artifactPath kind n) =
      if e.typeName = n then some ⟨l.artifactPath kind n, kind.render e⟩ else none := by
  rw [files, ← List.map_reverse, List.find?_map]
  by_cases hn : e.typeName = n
  · have hp : (fun f : File => decide (f.path = l.artifactPath kind n)) ∘
        (fun k => (⟨l.artifactPath k e.typeName, k.render e⟩ : File)) =
        fun k => decide (k = kind) := by
      funext k
      refine decide_eq_decide.mpr ⟨fun h => (Layout.artifactPath_inj h).1, ?_⟩
      rintro rfl
      exact congrArg (l.artifactPath k) hn
    have hfind : ArtifactKind.all.reverse.find? (fun k => decide (k = kind)) = some kind := by
      cases kind <;> rfl
    rw [if_pos hn, hp, hfind, ← hn]
    rfl
  · rw [if_neg hn, Option.map_eq_none_iff, List.find?_eq_none]
    intro k _ hk
    exact hn (Layout.artifactPath_inj (of_decide_eq_true hk)).2

namespace Snapshot

/-- A run on a diagram with classes makes a tree of its files. -/
lemma generate_eq {s : Snapshot} (config : Config) (name : String) (hs : s.isEmpty = false) :
    generate s config name = .ok (.ofList (s.files config name)) := by
  rw [generate, hs]
  rfl

/-- The paths of a run in the order in which the files are made. -/
lemma map_path_files (s : Snapshot) (config : Config) (name : String) :
    (s.files config name).map File.path =
      (Layout.ofName name).ownPaths ++ s.typeNames.flatMap (Layout.ofName name).typePaths := by
  rw [files, List.map_append, List.map_flatMap, Project.map_path_ownFiles,
    ← map_typeName_entities s (Layout.ofName name).package, List.flatMap_map]
  simp only [Entity.map_path_files]
  rfl

/-- The paths of the tree of a run. -/
lemma paths_ofList_files (s : Snapshot) (config : Config) (name : String) :
    (FileTree.ofList (s.files config name)).paths =
      (Layout.ofName name).ownPaths ++
        s.typeNames.eraseDups.flatMap (Layout.ofName name).typePaths := by
  have hdisjoint : (s.typeNames.flatMap (Layout.ofName name).typePaths).removeAll
      (Layout.ofName name).ownPaths = s.typeNames.flatMap (Layout.ofName name).typePaths := by
    rw [List.removeAll, List.filter_eq_self]
    intro path hp
    have hn : path ∉ (Layout.ofName name).ownPaths :=
      fun hown => Layout.disjoint_ownPaths name s.typeNames hown hp
    simpa using hn
  rw [FileTree.paths_ofList, map_path_files, List.eraseDups_append, hdisjoint,
    eraseDups_eq_self (Layout.nodup_ownPaths _),
    eraseDups_flatMap (Layout.nodup_typePaths _) fun _ _ => Layout.disjoint_typePaths]

/-- The last of some files at a path of a type is that of the last entity of the type. -/
lemma find?_reverse_flatMap_files (entities : List Entity) (l : Layout) (kind : ArtifactKind)
    (n : String) :
    ((entities.flatMap (·.files l)).reverse.find? fun f => f.path = l.artifactPath kind n) =
      (entities.reverse.find? fun e => e.typeName = n).map fun e =>
        ⟨l.artifactPath kind n, kind.render e⟩ := by
  induction entities using List.reverseRecOn with
  | nil => rfl
  | append_singleton entities e ih =>
    rw [List.flatMap_append, List.flatMap_singleton, List.reverse_append, List.find?_append, ih,
      e.find?_reverse_files, List.reverse_append, List.find?_append]
    by_cases hn : e.typeName = n <;> simp [hn]

/-- The content of the tree of a run at a path of a type is made from the last class of the
type. -/
lemma get?_ofList_files (s : Snapshot) (config : Config) (name : String) (kind : ArtifactKind)
    (n : String) :
    (FileTree.ofList (s.files config name)).get? ((Layout.ofName name).artifactPath kind n) =
      (s.lastNamed n).map fun c =>
        kind.render (s.entity (Layout.ofName name).package c n) := by
  have hown : ((s.project config name).ownFiles.reverse.find? fun f =>
      f.path = (Layout.ofName name).artifactPath kind n) = none := by
    rw [List.find?_eq_none]
    intro f hf hp
    refine Layout.artifactPath_notMem_ownPaths name kind n ?_
    rw [← of_decide_eq_true hp]
    exact List.mem_map_of_mem (List.mem_reverse.mp hf)
  rw [FileTree.get?_ofList, files, List.reverse_append, List.find?_append, hown, Option.or_none,
    find?_reverse_flatMap_files, find?_reverse_entities, Option.map_map, Option.map_map]
  rfl

/-- The files of the project that belong to no entity are in the tree as they were made. -/
lemma get?_ofList_files_own (s : Snapshot) (config : Config) (name : String) {f : File}
    (hf : f ∈ (s.project config name).ownFiles) :
    (FileTree.ofList (s.files config name)).get? f.path = some f.content := by
  have hown : f.path ∈ (Layout.ofName name).ownPaths :=
    (s.project config name).map_path_ownFiles ▸ List.mem_map_of_mem hf
  have hlater : ((s.entities (Layout.ofName name).package).flatMap
      (·.files (Layout.ofName name))).reverse.find? (fun g => g.path = f.path) = none := by
    rw [List.find?_eq_none]
    intro g hg hpath
    obtain ⟨e, -, hg⟩ := List.mem_flatMap.mp (List.mem_reverse.mp hg)
    obtain ⟨kind, -, rfl⟩ := List.mem_map.mp hg
    refine Layout.artifactPath_notMem_ownPaths name kind e.typeName ?_
    rwa [← of_decide_eq_true hpath] at hown
  have hnodup : ((s.project config name).ownFiles.map File.path).Nodup := Layout.nodup_ownPaths _
  rw [FileTree.get?_ofList, files, List.reverse_append, List.find?_append, hlater, Option.none_or,
    ← FileTree.get?_ofList]
  exact (FileTree.sound_ofList _).get?_of_mem ((FileTree.files_ofList hnodup).symm ▸ hf)

end Snapshot

/-- **The files of a run.** A diagram with classes always becomes a tree of files. Its paths are
those of the project and then, for each type name in the order of first occurrence, the seven of
that name; there are no others and none is there twice. The seven files of a name are made from one
class, the last one that has it. -/
theorem Snapshot.generate_fileMap (s : Snapshot) (config : Config) (name : String)
    (hs : s.isEmpty = false) :
    let layout := Layout.ofName name
    ∃ tree, generate s config name = .ok tree ∧
      tree.paths =
        [layout.projectFile "pom.xml", layout.projectFile "README.md",
          layout.projectFile "src/main/resources/application.properties",
          layout.sourceFile (layout.applicationType ++ ".java")] ++
        s.typeNames.eraseDups.flatMap (fun n =>
          ArtifactKind.all.map fun kind => layout.artifactPath kind n) ∧
      tree.paths.Nodup ∧
      tree.size = 4 + 7 * s.typeNames.eraseDups.length ∧
      s.typeNames.length = s.classes.length ∧
      ∀ n ∈ s.typeNames, ∃ c, s.lastNamed n = some c ∧
        ∀ kind, tree.get? (layout.artifactPath kind n) =
          some (kind.render (s.entity layout.package c n)) := by
  intro layout
  have hpaths := s.paths_ofList_files config name
  refine ⟨.ofList (s.files config name), generate_eq config name hs, hpaths, ?_, ?_,
    s.length_typeNames, ?_⟩
  · exact (FileTree.sound_ofList _).nodup
  · have hlength := congrArg List.length hpaths
    simp only [List.length_append, List.length_flatMap, Layout.length_typePaths, List.map_const',
      List.sum_replicate_nat, Layout.length_ownPaths, FileTree.paths, List.length_map] at hlength
    simpa [FileTree.size, Nat.mul_comm] using hlength
  · intro n hn
    obtain ⟨c, hc⟩ := exists_lastNamed hn
    refine ⟨c, hc, fun kind => ?_⟩
    rw [s.get?_ofList_files config name kind n, hc]
    rfl

/-- A diagram in which the first and the last class have the same type name. -/
def Snapshot.collidingNames : Snapshot where
  classes := [{ id := "a", name := "Order" }, { id := "b", name := "Item" },
    { id := "c", name := "order", attributes := [{ name := "total", typeTag := .decimal }] }]

/-- Two type names of three classes: the files of the first are made from the last class. -/
theorem Snapshot.generate_fileMap_collidingNames :
    collidingNames.isEmpty = false ∧
    ∃ tree, generate collidingNames {} "Shop" = .ok tree ∧
      tree.size = 4 + 7 * 2 ∧
      tree.get? "shop/src/main/java/shop/dto/OrderRequest.java" =
        some (ArtifactKind.request.render (collidingNames.entity "shop"
          { id := "c", name := "order", attributes := [{ name := "total", typeTag := .decimal }] }
          "Order")) := by
  have hs : collidingNames.isEmpty = false := rfl
  have hnames : collidingNames.typeNames.eraseDups = ["Order", "Item"] := by decide +kernel
  have hn : "Order" ∈ collidingNames.typeNames := by decide +kernel
  have hlast : collidingNames.lastNamed "Order" = some
      { id := "c", name := "order", attributes := [{ name := "total", typeTag := .decimal }] } := by
    decide +kernel
  have hpath : (Layout.ofName "Shop").artifactPath .request "Order" =
      "shop/src/main/java/shop/dto/OrderRequest.java" := by
    rw [Layout.ofName_shop]
    decide
  have hpackage : (Layout.ofName "Shop").package = "shop" := by rw [Layout.ofName_shop]
  obtain ⟨tree, hgenerate, -, -, hsize, -, hcontent⟩ :=
    generate_fileMap collidingNames {} "Shop" hs
  obtain ⟨c, hc, hget⟩ := hcontent "Order" hn
  rw [hlast] at hc
  cases hc
  rw [hnames] at hsize
  exact ⟨hs, tree, hgenerate, hsize, by rw [← hpath, hget, hpackage]⟩

end CrudScaffold

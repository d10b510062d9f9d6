import CrudScaffold.Proofs.Java.Source
import CrudScaffold.Proofs.Project.Footprint

/-!
# The order of classes

Positions of classes matter in two cases only: a class without a usable name is called after its
position, and of several classes with one id or one type name the last one counts. In a diagram
without such cases (`Snapshot.WellNamed`) every class is called by its own name, and tables of
classes can be searched in any order. What is left of the order of the classes is the order of the
files of a run and of the blocks of rows in the readme.
-/

namespace CrudScaffold

open Naming

/-! ### Diagrams with names of their own -/

/-- A class with a usable name is called by it. -/
lemma ClassDef.resolvedName_eq {c : ClassDef} (h : (typeName c.name).isEmpty = false) (i : Nat) :
    c.resolvedName i = typeName c.name := by
  rw [resolvedName]
  exact if_neg (Bool.eq_false_iff.mp h)

/-- No two classes share their id or their type name, and none has to be named by its position. -/
structure Snapshot.WellNamed (s : Snapshot) : Prop where
  nodup_classIds : s.classIds.Nodup
  isEmpty_eq_false : ∀ c ∈ s.classes, (typeName c.name).isEmpty = false
  nodup_typeNames : (s.classes.map fun c => typeName c.name).Nodup

namespace Snapshot.WellNamed

variable {s : Snapshot} {classes : List ClassDef}

/-- The names of the classes in another order are names of their own. -/
lemma of_perm (h : s.WellNamed) (hperm : classes.Perm s.classes) :
    WellNamed { s with classes } := by
  have hids : (classes.map ClassDef.id).Perm s.classIds := hperm.map _
  have hnames : (classes.map fun c => typeName c.name).Perm
      (s.classes.map fun c => typeName c.name) := hperm.map _
  exact ⟨hids.nodup_iff.mpr h.nodup_classIds,
    fun c hc => h.isEmpty_eq_false c (hperm.mem_iff.mp hc), hnames.nodup_iff.mpr h.nodup_typeNames⟩

/-- Every class is called by its own name. -/
lemma entries_ofSnapshot (h : s.WellNamed) :
    (ClassNames.ofSnapshot s).entries = s.classes.map fun c => (c.id, typeName c.name) := by
  refine List.ext_getElem (by simp [ClassNames.ofSnapshot]) fun i _ hi => ?_
  rw [List.length_map] at hi
  have hname : s.classes[i].resolvedName i = typeName s.classes[i].name :=
    ClassDef.resolvedName_eq (h.isEmpty_eq_false _ (List.getElem_mem hi)) i
  simp [ClassNames.ofSnapshot, hname]

/-- The ids in the table of names are different. -/
lemma nodup_keys (h : s.WellNamed) :
    ((ClassNames.ofSnapshot s).entries.reverse.map Prod.fst).Nodup := by
  rw [List.map_reverse, List.nodup_reverse, ClassNames.map_fst_entries]
  exact h.nodup_classIds

/-- The type name of a class is its own. -/
lemma typeName?_eq (h : s.WellNamed) {c : ClassDef} (hc : c ∈ s.classes) :
    (ClassNames.ofSnapshot s).typeName? c.id = some (typeName c.name) := by
  have hentry : (c.id, typeName c.name) ∈ (ClassNames.ofSnapshot s).entries.reverse := by
    rw [List.mem_reverse, h.entries_ofSnapshot]
    exact List.mem_map_of_mem hc
  exact lookup_eq_some_of_mem h.nodup_keys hentry

/-- Names are found whatever the order of the classes. -/
lemma typeName?_perm (h : s.WellNamed) (hperm : classes.Perm s.classes) (id : String) :
    (ClassNames.ofSnapshot { s with classes }).typeName? id =
      (ClassNames.ofSnapshot s).typeName? id := by
  refine lookup_perm ?_ (h.of_perm hperm).nodup_keys id
  rw [h.entries_ofSnapshot, (h.of_perm hperm).entries_ofSnapshot]
  exact (List.reverse_perm _).trans ((hperm.map _).trans (List.reverse_perm _).symm)

/-- The entities of a diagram are its classes under their own names. -/
lemma entities_eq (h : s.WellNamed) (package : String) :
    s.entities package = s.classes.map fun c => s.entity package c (typeName c.name) := by
  rw [Snapshot.entities_eq, ← List.filterMap_eq_map']
  refine List.filterMap_congr fun c hc => ?_
  rw [h.typeName?_eq hc]
  rfl

/-- The type names of a diagram are those of its classes. -/
lemma typeNames_eq (h : s.WellNamed) : s.typeNames = s.classes.map fun c => typeName c.name := by
  rw [typeNames, ← List.filterMap_eq_map']
  exact List.filterMap_congr fun c hc => h.typeName?_eq hc

/-- Another order of the classes is another order of the same entities. -/
lemma entities_perm (h : s.WellNamed) (hperm : classes.Perm s.classes) (package : String) :
    (entities { s with classes } package).Perm (s.entities package) := by
  have hentity : entity { s with classes } = s.entity :=
    entity_congr (h.typeName?_perm hperm) rfl
  rw [h.entities_eq, (h.of_perm hperm).entities_eq, hentity]
  exact hperm.map _

/-- The files of a run have different paths, so all of them are kept as they are made. -/
lemma files_ofList (h : s.WellNamed) (config : Config) (name : String) :
    (FileTree.ofList (s.files config name)).files = s.files config name := by
  refine FileTree.files_ofList ?_
  have hnodup : s.typeNames.Nodup := h.typeNames_eq ▸ h.nodup_typeNames
  have hpaths := s.paths_ofList_files config name
  rw [eraseDups_eq_self hnodup] at hpaths
  rw [map_path_files, ← hpaths]
  exact (FileTree.sound_ofList _).nodup

end Snapshot.WellNamed

/-! ### The files of the project -/

/-- The route of a class that is called by its own name. -/
def ClassDef.route (c : ClassDef) : Route := .ofTypeName (typeName c.name)

/-- The lines that the readme has for a class. -/
def ClassDef.endpointLines (c : ClassDef) : List String := Code.linesOf 0 c.route.rows

namespace Project

/-- The project of a name with some routes. -/
def ofRoutes (config : Config) (name : String) (routes : List Route) : Project :=
  ⟨titleOf name, .ofName name, config, routes⟩

/-- The readme has the rows of the routes in order, between parts that do not depend on them. -/
lemma exists_readme (config : Config) (name : String) : ∃ head tail : List Code, ∀ routes,
    (ofRoutes config name routes).readme = head ++ routes.flatMap Route.rows ++ tail :=
  -- the table opens with the sixteenth line
  ⟨(ofRoutes config name []).readme.take 16, (ofRoutes config name []).readme.drop 16,
    fun _ => rfl⟩

/-- Routes show in the readme alone. -/
lemma mem_ownFiles_congr {config : Config} {name : String} {f : File}
    (hf : f.path ≠ (Layout.ofName name).projectFile "README.md") (routes routes' : List Route) :
    f ∈ (ofRoutes config name routes).ownFiles ↔ f ∈ (ofRoutes config name routes').ownFiles := by
  have hreadme : ∀ content, f ≠ ⟨(Layout.ofName name).projectFile "README.md", content⟩ := by
    rintro content rfl
    exact hf rfl
  have hlayout : ∀ routes, (ofRoutes config name routes).layout = .ofName name := fun _ => rfl
  simp only [ownFiles, List.mem_cons, hlayout, hreadme, false_or]
  rfl

end Project

namespace Snapshot

variable {s : Snapshot} {classes : List ClassDef} {config : Config} {name : String}

/-- The project of a diagram has the routes of its classes. -/
lemma WellNamed.project_eq (h : s.WellNamed) (config : Config) (name : String) :
    s.project config name = .ofRoutes config name (s.classes.map ClassDef.route) := by
  rw [project, Project.ofEntities, map_route_entities, h.typeNames_eq, List.map_map]
  rfl

/-- Another order of the classes makes the same files, but for the readme. -/
lemma WellNamed.mem_files_perm (h : s.WellNamed) (hperm : classes.Perm s.classes) {f : File}
    (hf : f.path ≠ (Layout.ofName name).projectFile "README.md") :
    f ∈ files { s with classes } config name ↔ f ∈ s.files config name := by
  rw [files, files, List.mem_append, List.mem_append, h.project_eq,
    (h.of_perm hperm).project_eq, Project.mem_ownFiles_congr hf,
    ((h.entities_perm hperm _).flatMap_right _).mem_iff]

/-- The readme of a run has a block of rows for each class, in the order of the classes. -/
lemma WellNamed.readme_mem_files (h : s.WellNamed) {head tail : List Code}
    (hreadme : ∀ routes, (Project.ofRoutes config name routes).readme =
      head ++ routes.flatMap Route.rows ++ tail) :
    ⟨(Layout.ofName name).projectFile "README.md",
      Code.textOf (Code.linesOf 0 head ++ s.classes.flatMap ClassDef.endpointLines ++
        Code.linesOf 0 tail)⟩ ∈ s.files config name := by
  have htext : Code.render (s.project config name).readme =
      Code.textOf (Code.linesOf 0 head ++ s.classes.flatMap ClassDef.endpointLines ++
        Code.linesOf 0 tail) := by
    rw [h.project_eq, hreadme, Code.render_eq, Code.linesOf_append, Code.linesOf_append,
      Code.linesOf_flatMap, List.flatMap_map]
    rfl
  rw [← htext]
  exact List.mem_append_left _ (List.mem_cons_of_mem _ List.mem_cons_self)

end Snapshot

/-- **The order of classes.** Take a diagram in which every class has an id and a type name of its
own. However its classes are ordered, a run gives the same paths, and the same content at each of
them but at the readme. The readmes differ in nothing but the order of the blocks of rows, one for
each class, which is the order of the classes. -/
theorem Snapshot.generate_classOrder (s : Snapshot) (config : Config) (name : String)
    (hs : s.isEmpty = false) (h : s.WellNamed) :
    let readme := (Layout.ofName name).projectFile "README.md"
    ∃ tree, ∃ head tail : List String, generate s config name = .ok tree ∧
      tree.get? readme =
        some (Code.textOf (head ++ s.classes.flatMap ClassDef.endpointLines ++ tail)) ∧
      ∀ classes, classes.Perm s.classes →
        ∃ tree', generate { s with classes } config name = .ok tree' ∧
          tree'.paths.Perm tree.paths ∧
          (∀ path, path ≠ readme → tree'.get? path = tree.get? path) ∧
          tree'.get? readme =
            some (Code.textOf (head ++ classes.flatMap ClassDef.endpointLines ++ tail)) := by
  intro readme
  obtain ⟨head, tail, hreadme⟩ := Project.exists_readme config name
  have hget : ∀ {s : Snapshot} {path content : String}, s.WellNamed →
      ((FileTree.ofList (s.files config name)).get? path = some content ↔
        ⟨path, content⟩ ∈ s.files config name) := by
    intro s path content h
    rw [(FileTree.sound_ofList _).get?_eq_some_iff, h.files_ofList]
  refine ⟨_, Code.linesOf 0 head, Code.linesOf 0 tail, generate_eq config name hs,
    (hget h).mpr (h.readme_mem_files hreadme), fun classes hperm => ?_⟩
  have h' : WellNamed { s with classes } := h.of_perm hperm
  have hs' : isEmpty { s with classes } = false := by
    rw [isEmpty, List.isEmpty_eq_false_iff] at hs ⊢
    exact fun hnil => hs (List.perm_nil.mp (hnil ▸ hperm.symm))
  refine ⟨_, generate_eq config name hs', ?_, fun path hpath => ?_,
    (hget h').mpr (h'.readme_mem_files hreadme)⟩
  · rw [FileTree.paths, FileTree.paths, h.files_ofList, h'.files_ofList, map_path_files,
      map_path_files, h.typeNames_eq, h'.typeNames_eq]
    exact ((hperm.map _).flatMap_right _).append_left _
  · refine Option.ext fun content => ?_
    rw [hget h, hget h', h.mem_files_perm hperm hpath]

/-- A diagram with three classes and a reference from the second to the first. -/
def Snapshot.library : Snapshot where
  classes := [{ id := "a", name := "Author" }, { id := "b", name := "Book" },
    { id := "s", name := "book shelf" }]
  relations := [⟨"r", "b", "a", .association, none⟩]

/-- The classes of the library in another order: the models of authors are the same, and the blocks
of the readme change places. -/
theorem Snapshot.generate_classOrder_library :
    library.isEmpty = false ∧ library.WellNamed ∧
    [{ id := "s", name := "book shelf" }, { id := "a", name := "Author" },
      { id := "b", name := "Book" }].Perm library.classes ∧
    ∃ tree tree', ∃ head tail : List String,
      generate library {} "Shop" = .ok tree ∧
      generate { library with classes := [{ id := "s", name := "book shelf" },
        { id := "a", name := "Author" }, { id := "b", name := "Book" }] } {} "Shop" = .ok tree' ∧
      tree'.get? "shop/src/main/java/shop/model/Author.java" =
        tree.get? "shop/src/main/java/shop/model/Author.java" ∧
      tree.get? "shop/README.md" = some (Code.textOf (head ++
        ([⟨"a", "Author", []⟩, ⟨"b", "Book", []⟩, ⟨"s", "book shelf", []⟩] : List ClassDef).flatMap
          ClassDef.endpointLines ++ tail)) ∧
      tree'.get? "shop/README.md" = some (Code.textOf (head ++
        ([⟨"s", "book shelf", []⟩, ⟨"a", "Author", []⟩, ⟨"b", "Book", []⟩] : List ClassDef).flatMap
          ClassDef.endpointLines ++ tail)) := by
  have hs : library.isEmpty = false := rfl
  have h : library.WellNamed :=
    ⟨by decide, by decide +kernel, by decide +kernel⟩
  have hperm : [{ id := "s", name := "book shelf" }, { id := "a", name := "Author" },
      { id := "b", name := "Book" }].Perm library.classes := by decide
  have hreadme : (Layout.ofName "Shop").projectFile "README.md" = "shop/README.md" := by
    rw [Layout.ofName_shop]
    decide
  obtain ⟨tree, head, tail, htree, hrows, hordered⟩ := generate_classOrder library {} "Shop" hs h
  obtain ⟨tree', htree', -, hsame, hrows'⟩ := hordered _ hperm
  rw [hreadme] at hrows hsame hrows'
  exact ⟨hs, h, hperm, tree, tree', head, tail, htree, htree', hsame _ (by decide), hrows, hrows'⟩

end CrudScaffold

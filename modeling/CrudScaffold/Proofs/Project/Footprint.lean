import CrudScaffold.Proofs.Project.FileMap
import CrudScaffold.Proofs.Relationship.Index

/-!
# Footprints of inputs

Which files can change when one input of a run changes. The files of a project are made from its
name, its settings and the type names of its classes; those of an entity from its class, its
relationship fields and the root package, and of these the relationship fields are looked at by the
model alone. So a change of the relations shows in models only, a change of the attributes of a
class in the files under its type name only, and a change of the settings in three files of the
project.

Two runs are compared file by file: their lists of files agree one by one outside of the part that
may change, and trees of such lists agree (`FileTree.agreesOutside_ofList`).
-/

namespace CrudScaffold

open Naming

/-! ### What relationship fields are made from -/

section Links

variable {s s' : Snapshot} {names names' : ClassNames}

/-- Names are used by looking them up, so what a link gives to a class depends on no more. -/
lemma Link.fieldsOf_congr (h : ∀ id, names.typeName? id = names'.typeName? id) :
    Link.fieldsOf names = Link.fieldsOf names' := by
  have htable : associationTable names = associationTable names' := by
    funext r
    simp only [associationTable, h]
  funext id l
  simp only [fieldsOf, owningField, inverseField, joinTable, htable]

/-- The same relations between classes with the same names are the same links. -/
lemma Link.all_congr (h : ∀ id, names.typeName? id = names'.typeName? id)
    (hrelations : s.relations = s'.relations) : Link.all s names = Link.all s' names' := by
  have hof : Link.of? names = Link.of? names' := by
    funext r
    simp only [of?, h]
  rw [all, all, hof, hrelations]

/-- Relationship fields depend on the relations and on the names of the classes. -/
lemma relationshipFields_congr (h : ∀ id, names.typeName? id = names'.typeName? id)
    (hrelations : s.relations = s'.relations) (id : String) :
    relationshipFields id s names = relationshipFields id s' names' := by
  rw [relationshipFields, relationshipFields, Link.all_congr h hrelations, Link.fieldsAmong,
    Link.fieldsAmong, Link.fieldsOf_congr h]

end Links

namespace Snapshot

variable {s s' : Snapshot}

/-- A class with its relationship fields as its files see it. -/
lemma entity_eq (s : Snapshot) (package : String) (c : ClassDef) (n : String) :
    s.entity package c n =
      .ofClass c n (relationshipFields c.id s (.ofSnapshot s)) package := by
  rw [entity, RelationshipIndex.fieldsFor_build]

/-- Diagrams with the same relations and the same names have the same view of a class. -/
lemma entity_congr
    (h : ∀ id, (ClassNames.ofSnapshot s).typeName? id = (ClassNames.ofSnapshot s').typeName? id)
    (hrelations : s.relations = s'.relations) : s.entity = s'.entity := by
  funext package c n
  rw [entity_eq, entity_eq, relationshipFields_congr h hrelations]

end Snapshot

/-! ### What the files of a project are made from -/

/-- The route of the entity of a type. -/
def Route.ofTypeName (n : String) : Route := ⟨n, "/" ++ lowerFirst n⟩

namespace Snapshot

variable {s s' : Snapshot} {config : Config} {name : String}

/-- The routes of a diagram are those of its type names. -/
lemma map_route_entities (s : Snapshot) (package : String) :
    (s.entities package).map Entity.route = s.typeNames.map Route.ofTypeName := by
  rw [← map_typeName_entities s package, List.map_map]
  rfl

/-- Of a diagram the files of its project show the type names and no more. -/
lemma project_congr (h : s.typeNames = s'.typeNames) :
    s.project config name = s'.project config name := by
  simp only [project, Project.ofEntities, map_route_entities, h]

end Snapshot

/-! ### Relations -/

/-- Two entities that differ in nothing but their relationship fields. -/
def Entity.SameButRelationships (e e' : Entity) : Prop :=
  e' = { e with relationships := e'.relationships }

/-- Relationship fields show in the model alone. -/
lemma Entity.SameButRelationships.render_eq {e e' : Entity} (h : e.SameButRelationships e')
    {kind : ArtifactKind} (hkind : kind ≠ .model) : kind.render e = kind.render e' := by
  rw [h]
  cases kind with
  | model => exact absurd rfl hkind
  | access => rfl
  | logic => rfl
  | api => rfl
  | request => rfl
  | response => rfl
  | mapper => rfl

/-- A path lies in the folder of the models. -/
def Layout.InModelFolder (l : Layout) (path : String) : Prop :=
  (l.sourceFile "model/").toList <+: path.toList

/-- Models lie in their folder. -/
lemma Layout.inModelFolder_artifactPath (l : Layout) (n : String) :
    l.InModelFolder (l.artifactPath .model n) := by
  refine ⟨(n ++ ".java").toList, ?_⟩
  rw [← String.toList_append, artifactPath_eq, sourceFile_eq, sourceFile_eq]
  simp [projectFile_eq, ArtifactKind.layer, ArtifactKind.stem, ArtifactKind.ending]

/-- The files of two entities that differ in their relationship fields agree outside of the folder
of the models. -/
lemma Entity.SameButRelationships.files {e e' : Entity} (h : e.SameButRelationships e')
    (l : Layout) :
    List.Forall₂ (File.AgreesOutside l.InModelFolder) (e.files l) (e'.files l) := by
  have htype : e.typeName = e'.typeName := by rw [h]
  refine List.forall₂_map_left_iff.mpr (List.forall₂_map_right_iff.mpr ?_)
  refine List.forall₂_same.mpr fun kind _ => ⟨by rw [htype], fun hout => ?_⟩
  refine h.render_eq fun hkind => hout ?_
  rw [hkind]
  exact l.inModelFolder_artifactPath e.typeName

namespace Snapshot

/-- The entities of two diagrams with the same classes differ in their relationship fields. -/
lemma forall₂_entities_relations (s : Snapshot) (relations : List RelationDef) (package : String) :
    List.Forall₂ Entity.SameButRelationships (s.entities package)
      ({ s with relations }.entities package) := by
  rw [entities_eq, entities_eq]
  refine forall₂_filterMap fun c hc => ?_
  obtain ⟨n, hn⟩ := exists_typeName? hc
  have hn' : (ClassNames.ofSnapshot { s with relations }).typeName? c.id = some n := hn
  have hsame : (s.entity package c n).SameButRelationships
      (Snapshot.entity { s with relations } package c n) := rfl
  refine ⟨_, _, ?_, ?_, hsame⟩
  · rw [hn]
    rfl
  · rw [hn']
    rfl

/-- The files of two runs on the same classes agree outside of the folder of the models. -/
lemma forall₂_files_relations (s : Snapshot) (relations : List RelationDef) (config : Config)
    (name : String) :
    List.Forall₂ (File.AgreesOutside (Layout.ofName name).InModelFolder) (s.files config name)
      ({ s with relations }.files config name) := by
  have hnames : s.typeNames = { s with relations }.typeNames := rfl
  rw [files, files, project_congr hnames]
  exact List.rel_append (List.forall₂_same.mpr fun f _ => .refl f)
    (List.rel_flatMap (forall₂_entities_relations s relations _) fun _ _ h => h.files _)

/-! ### Attributes -/

section Attributes

variable {before after : List ClassDef} {c : ClassDef}

/-- The names of classes do not depend on their attributes. -/
lemma ofSnapshot_attributes (h : s.classes = before ++ c :: after)
    (attributes : List AttributeDef) :
    ClassNames.ofSnapshot { s with classes := before ++ { c with attributes } :: after } =
      ClassNames.ofSnapshot s := by
  rw [ClassNames.ofSnapshot, ClassNames.ofSnapshot, h]
  simp only [List.mapIdx_append, List.mapIdx_cons]
  rfl

/-- The files of two runs on diagrams that differ in the attributes of one class agree outside of
the files of its type. -/
lemma forall₂_files_attributes (h : s.classes = before ++ c :: after)
    (attributes : List AttributeDef) (config : Config) (name : String) {n : String}
    (hn : (ClassNames.ofSnapshot s).typeName? c.id = some n) :
    List.Forall₂ (File.AgreesOutside (· ∈ (Layout.ofName name).typePaths n)) (s.files config name)
      ({ s with classes := before ++ { c with attributes } :: after }.files config name) := by
  have hofSnapshot := ofSnapshot_attributes h attributes
  have hentity : { s with classes := before ++ { c with attributes } :: after }.entity = s.entity :=
    entity_congr (fun id => by rw [hofSnapshot]) rfl
  have hnames : s.typeNames =
      { s with classes := before ++ { c with attributes } :: after }.typeNames := by
    simp only [typeNames, hofSnapshot, h, List.filterMap_append, List.filterMap_cons]
  have hclass : List.Forall₂ (File.AgreesOutside (· ∈ (Layout.ofName name).typePaths n))
      ((s.entity (Layout.ofName name).package c n).files (Layout.ofName name))
      ((s.entity (Layout.ofName name).package { c with attributes } n).files
        (Layout.ofName name)) := by
    refine List.forall₂_map_left_iff.mpr (List.forall₂_map_right_iff.mpr ?_)
    refine List.forall₂_same.mpr fun kind hkind => ⟨rfl, fun hout => ?_⟩
    exact absurd (List.mem_map_of_mem hkind) hout
  have hsame : ∀ files : List File,
      List.Forall₂ (File.AgreesOutside (· ∈ (Layout.ofName name).typePaths n)) files files :=
    fun files => List.forall₂_same.mpr fun f _ => .refl f
  rw [files, files, project_congr hnames, entities_eq, entities_eq, hofSnapshot, hentity, h]
  simp only [List.filterMap_append, List.filterMap_cons, hn, Option.map_some, List.flatMap_append,
    List.flatMap_cons]
  exact List.rel_append (hsame _) (List.rel_append (hsame _) (List.rel_append hclass (hsame _)))

end Attributes

end Snapshot

/-! ### Settings -/

/-- The paths of the files that show the settings. -/
def Layout.settingsPaths (l : Layout) : List String :=
  [l.projectFile "pom.xml", l.projectFile "src/main/resources/application.properties",
    l.projectFile "README.md"]

namespace Snapshot

/-- The files of two runs with different settings agree outside of three files of the project. -/
lemma forall₂_files_config (s : Snapshot) (config config' : Config) (name : String) :
    List.Forall₂ (File.AgreesOutside (· ∈ (Layout.ofName name).settingsPaths))
      (s.files config name) (s.files config' name) := by
  refine List.rel_append ?_ (List.forall₂_same.mpr fun f _ => .refl f)
  refine .cons ⟨rfl, fun hout => ?_⟩ (.cons ⟨rfl, fun hout => ?_⟩
    (.cons ⟨rfl, fun hout => ?_⟩ (.cons ⟨rfl, fun _ => rfl⟩ .nil)))
  · exact absurd List.mem_cons_self hout
  · exact absurd (List.mem_cons_of_mem _ (List.mem_cons_of_mem _ List.mem_cons_self)) hout
  · exact absurd (List.mem_cons_of_mem _ List.mem_cons_self) hout

@[simp] lemma files_output (s : Snapshot) (config : Config) (output : OutputSettings)
    (name : String) :
    s.files { config with output } name = s.files config name :=
  rfl

end Snapshot

/-- **Footprints of inputs.** Take a run on a diagram with classes. A run with other relations gives
the same paths in the same order, and the same contents outside of the folder of the models. A run
in which one class has other attributes gives the same paths, and the same contents but for the
seven files of the type name of that class. A run with other settings gives the same paths, and the
same contents but for the manifest, the runtime settings and the readme, and where archives are
delivered shows in none of these either. -/
theorem Snapshot.generate_footprint (s : Snapshot) (config : Config) (name : String)
    (hs : s.isEmpty = false) :
    let layout := Layout.ofName name
    ∃ tree, generate s config name = .ok tree ∧
      (∀ relations, ∃ tree', generate { s with relations } config name = .ok tree' ∧
        tree.AgreesOutside layout.InModelFolder tree') ∧
      (∀ before c after attributes, s.classes = before ++ c :: after →
        ∃ n tree', (ClassNames.ofSnapshot s).typeName? c.id = some n ∧
          generate { s with classes := before ++ { c with attributes } :: after } config name =
            .ok tree' ∧
          tree.AgreesOutside (· ∈ layout.typePaths n) tree') ∧
      (∀ config', ∃ tree', generate s config' name = .ok tree' ∧
        tree.AgreesOutside (· ∈ layout.settingsPaths) tree') ∧
      ∀ output, generate s { config with output } name = .ok tree := by
  intro layout
  refine ⟨_, generate_eq config name hs, fun relations => ?_, ?_, fun config' => ?_, ?_⟩
  · exact ⟨_, generate_eq config name hs,
      FileTree.agreesOutside_ofList (forall₂_files_relations s relations config name)⟩
  · intro before c after attributes hclasses
    have hc : c ∈ s.classes := hclasses ▸ List.mem_append_right before List.mem_cons_self
    obtain ⟨n, hn⟩ := exists_typeName? hc
    have hs' : ({ s with classes := before ++ { c with attributes } :: after } :
        Snapshot).isEmpty = false := List.isEmpty_eq_false_iff.mpr (by simp)
    exact ⟨n, _, hn, generate_eq config name hs',
      FileTree.agreesOutside_ofList (forall₂_files_attributes hclasses attributes config name hn)⟩
  · exact ⟨_, generate_eq config' name hs,
      FileTree.agreesOutside_ofList (forall₂_files_config s config config' name)⟩
  · intro output
    rw [generate_eq _ name hs, files_output]

/-- A diagram with two classes and a reference from the first to the second. -/
def Snapshot.itemOfOrder : Snapshot where
  classes := [{ id := "i", name := "Item" }, { id := "o", name := "Order" }]
  relations := [⟨"r", "i", "o", .association, none⟩]

/-- Without the reference the payloads of items stay as they are. A new attribute of items leaves
the model of orders as it is, and another port the model of items. -/
theorem Snapshot.generate_footprint_itemOfOrder :
    itemOfOrder.isEmpty = false ∧
    itemOfOrder.classes = [] ++ { id := "i", name := "Item" } :: [{ id := "o", name := "Order" }] ∧
    ∃ tree unrelated titled moved,
      generate itemOfOrder {} "Shop" = .ok tree ∧
      generate { itemOfOrder with relations := [] } {} "Shop" = .ok unrelated ∧
      generate { itemOfOrder with classes :=
        [{ id := "i", name := "Item", attributes := [{ name := "title" }] },
          { id := "o", name := "Order" }] } {} "Shop" = .ok titled ∧
      generate itemOfOrder { server := ⟨9090⟩ } "Shop" = .ok moved ∧
      tree.get? "shop/src/main/java/shop/dto/ItemRequest.java" =
        unrelated.get? "shop/src/main/java/shop/dto/ItemRequest.java" ∧
      tree.get? "shop/src/main/java/shop/model/Order.java" =
        titled.get? "shop/src/main/java/shop/model/Order.java" ∧
      tree.get? "shop/src/main/java/shop/model/Item.java" =
        moved.get? "shop/src/main/java/shop/model/Item.java" := by
  have hs : itemOfOrder.isEmpty = false := rfl
  obtain ⟨tree, htree, hrelations, hattributes, hconfig, -⟩ :=
    generate_footprint itemOfOrder {} "Shop" hs
  obtain ⟨unrelated, hunrelated, hmodels⟩ := hrelations []
  obtain ⟨n, titled, hn, htitled, htypes⟩ :=
    hattributes [] { id := "i", name := "Item" } [{ id := "o", name := "Order" }]
      [{ name := "title" }] rfl
  obtain ⟨moved, hmoved, hsettings⟩ := hconfig { server := ⟨9090⟩ }
  obtain rfl : "Item" = n := Option.some.inj ((by decide +kernel :
    (ClassNames.ofSnapshot itemOfOrder).typeName? "i" = some "Item").symm.trans hn)
  refine ⟨hs, rfl, tree, unrelated, titled, moved, htree, hunrelated, htitled, hmoved,
    hmodels.get? _ ?_, htypes.get? _ ?_, hsettings.get? _ ?_⟩
  · rw [Layout.InModelFolder]
    decide +kernel
  · decide +kernel
  · decide +kernel

end CrudScaffold

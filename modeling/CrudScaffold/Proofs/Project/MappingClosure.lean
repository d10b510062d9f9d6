import CrudScaffold.Proofs.Artifact.Model
import CrudScaffold.Proofs.Project.FileMap
import CrudScaffold.Proofs.Relationship.Index

/-!
# Closure of mappings

An inverse field says by name which field of another class owns the mapping. Whoever reads the
generated files finds that field: the other class has its model in the tree, and the model declares
a field of that name, with the type of the class that refers to it and over the same column or
table.

The two declarations are ends of one link (`Link.exists_owningField`), and both are in the tree
because each class of a diagram with different type names keeps its own files
(`Snapshot.lastNamed_eq`).
-/

namespace CrudScaffold

namespace Snapshot

variable {s : Snapshot} {c : ClassDef} {n : String}

/-- The type names of a diagram, class by class. -/
lemma map_typeName?_classes (s : Snapshot) :
    (s.classes.map fun c => (ClassNames.ofSnapshot s).typeName? c.id) = s.typeNames.map some := by
  rw [typeNames, List.map_filterMap_some_eq_filter_map_isSome, List.filter_eq_self.mpr]
  intro n hn
  obtain ⟨c, hc, rfl⟩ := List.mem_map.mp hn
  exact Option.isSome_iff_exists.mpr (exists_typeName? hc)

/-- If all type names are different, a class is the only one with its name. -/
lemma lastNamed_eq (h : s.typeNames.Nodup) (hc : c ∈ s.classes)
    (hn : (ClassNames.ofSnapshot s).typeName? c.id = some n) : s.lastNamed n = some c := by
  obtain ⟨d, hd⟩ := exists_lastNamed (mem_typeNames.mpr ⟨c, hc, hn⟩)
  obtain ⟨hmem, hdn⟩ := of_lastNamed hd
  have hnodup : (s.classes.map fun c => (ClassNames.ofSnapshot s).typeName? c.id).Nodup := by
    rw [map_typeName?_classes]
    exact h.map fun _ _ => Option.some.inj
  rw [hd, List.inj_on_of_nodup_map hnodup hmem hc (hdn.trans hn.symm)]

/-- If all type names are different, the tree holds the model of each class under its name. -/
lemma get?_model (h : s.typeNames.Nodup) (config : Config) (name : String) (hc : c ∈ s.classes)
    (hn : (ClassNames.ofSnapshot s).typeName? c.id = some n) :
    (FileTree.ofList (s.files config name)).get? ((Layout.ofName name).artifactPath .model n) =
      some (ArtifactKind.model.render (s.entity (Layout.ofName name).package c n)) := by
  rw [get?_ofList_files, lastNamed_eq h hc hn]
  rfl

end Snapshot

namespace RelationshipField

/-- A text declares the field with the name `owner` that an inverse field of a class with the type
`own` refers to: a reference to that type over a column, or a set of it over a join table. -/
def OwnerDeclared (g : RelationshipField) (own owner text : String) : Prop :=
  match g.kind with
  | .oneToMany => Code.Shows text 1
      ["", "@ManyToOne", s!"@JoinColumn(name = \"{g.joinName}\")", s!"private {own} {owner};"]
  | .manyToMany => ∃ here there : String, Code.Shows text 1
      ["", "@ManyToMany",
        s!"@JoinTable(name = \"{g.joinName}\", joinColumns = @JoinColumn(name = \"{here}\"), inverseJoinColumns = @JoinColumn(name = \"{there}\"))",
        s!"private Set<{own}> {owner} = new HashSet<>();"]
  | .manyToOne => False

/-- A text declares an inverse field under an annotation that refers to the field with the name
`owner`. -/
def InverseDeclared (g : RelationshipField) (owner text : String) : Prop :=
  match g.kind with
  | .oneToMany => Code.Shows text 1
      ["", s!"@OneToMany(mappedBy = \"{owner}\")",
        s!"private List<{g.relatedType}> {g.fieldName} = new ArrayList<>();"]
  | .manyToMany => Code.Shows text 1
      ["", s!"@ManyToMany(mappedBy = \"{owner}\")",
        s!"private Set<{g.relatedType}> {g.fieldName} = new HashSet<>();"]
  | .manyToOne => False

end RelationshipField

namespace Link

variable {names : ClassNames} {l : Link} {f g : RelationshipField}

/-- The model that has the owning end of a link declares what the inverse end refers to. -/
lemma ownerDeclared {e : Entity} (hg : l.inverseField names = some g)
    (hf : l.owningField names = some f) (hmem : f ∈ e.relationships) :
    g.OwnerDeclared l.targetType f.fieldName (ArtifactKind.model.render e) := by
  have hshows := Entity.shows_relationship hmem
  rcases inverseField_cases hg with ⟨hkind, rfl⟩ | ⟨hkind, rfl⟩
  · rw [owningField, hkind] at hf
    cases hf
    exact hshows
  · rw [owningField, hkind] at hf
    cases hf
    rw [RelationshipField.annotations_of_joinTable e.typeName rfl rfl,
      RelationshipField.declaration_of_manyToMany rfl] at hshows
    exact ⟨_, _, hshows⟩

/-- The model that has the inverse end of a link declares it with a reference to the owning end. -/
lemma inverseDeclared {e : Entity} (hg : l.inverseField names = some g)
    (hf : l.owningField names = some f) (hmem : g ∈ e.relationships) :
    g.InverseDeclared f.fieldName (ArtifactKind.model.render e) := by
  have hshows := Entity.shows_relationship hmem
  rcases inverseField_cases hg with ⟨hkind, rfl⟩ | ⟨hkind, rfl⟩
  · rw [owningField, hkind] at hf
    cases hf
    rw [RelationshipField.declaration_of_oneToMany rfl] at hshows
    exact hshows
  · rw [owningField, hkind] at hf
    cases hf
    rw [RelationshipField.declaration_of_manyToMany rfl] at hshows
    exact hshows

end Link

/-- **Closure of mappings.** In a diagram whose classes have different type names, take any class
and any of its inverse fields. The tree of the project has a model for the related class, which
declares the field that the inverse one refers to, of the type of the first class and over the
column or table that the inverse field names. The model of the first class declares the inverse
field under the reference. -/
theorem Snapshot.generate_mappingClosure (s : Snapshot) (config : Config) (name : String)
    (hs : s.isEmpty = false) (hnames : s.typeNames.Nodup) :
    ∃ tree, generate s config name = .ok tree ∧
      ∀ c ∈ s.classes,
        ∀ g ∈ (RelationshipIndex.build s (.ofSnapshot s)).fieldsFor c.id, g.side = .inverse →
          ∃ own owner ownText text, ∃ r ∈ s.classes,
            (ClassNames.ofSnapshot s).typeName? c.id = some own ∧
            r.id = g.relatedClassId ∧
            (ClassNames.ofSnapshot s).typeName? r.id = some g.relatedType ∧
            g.mappedBy = some owner ∧
            tree.get? ((Layout.ofName name).artifactPath .model g.relatedType) = some text ∧
            g.OwnerDeclared own owner text ∧
            tree.get? ((Layout.ofName name).artifactPath .model own) = some ownText ∧
            g.InverseDeclared owner ownText := by
  refine ⟨.ofList (s.files config name), generate_eq config name hs, ?_⟩
  intro c hc g hg hside
  have hgc := hg
  rw [RelationshipIndex.fieldsFor_build] at hgc
  obtain ⟨l, hl, hgl⟩ := mem_relationshipFields.mp hgc
  obtain ⟨side, htarget, hfield⟩ := Link.mem_fieldsOf.mp hgl
  obtain ⟨hgside, -, hrelated, htype, -, -⟩ := Link.field_eq_some hfield
  obtain rfl : side = .inverse := hgside.symm.trans hside
  obtain ⟨f, hf, hmapped, -⟩ := Link.exists_owningField hfield
  -- the related class is the source of the link, and the owning field is among its fields
  have hsource := Link.typeName?_endId hl .owning
  obtain ⟨r, hr, hrid⟩ := List.mem_map.mp
    ((ClassNames.typeName?_isSome_iff s l.relation.sourceId).mp
      (Option.isSome_iff_exists.mpr ⟨_, hsource⟩))
  have hfr : f ∈ (RelationshipIndex.build s (.ofSnapshot s)).fieldsFor r.id := by
    rw [RelationshipIndex.fieldsFor_build]
    exact mem_relationshipFields.mpr
      ⟨l, hl, Link.mem_fieldsOf.mpr ⟨.owning, hrid.symm, hf⟩⟩
  have hown : (ClassNames.ofSnapshot s).typeName? c.id = some l.targetType :=
    htarget ▸ Link.typeName?_endId hl .inverse
  have hrtype : (ClassNames.ofSnapshot s).typeName? r.id = some g.relatedType := by
    rw [hrid, htype]
    exact hsource
  exact ⟨l.targetType, f.fieldName, _, _, r, hr, hown, hrid.trans hrelated.symm, hrtype, hmapped,
    get?_model hnames config name hr hrtype, Link.ownerDeclared hfield hf hfr,
    get?_model hnames config name hc hown, Link.inverseDeclared hfield hf hg⟩

/-- A diagram in which orders refer to two customers and a customer to many tags. -/
def Snapshot.mappedClasses : Snapshot where
  classes := [{ id := "o", name := "Order" }, { id := "c", name := "Customer" },
    { id := "t", name := "Tag" }]
  relations := [{ id := "1", kind := .association, sourceId := "o", targetId := "c" },
    { id := "2", kind := .association, sourceId := "o", targetId := "c" },
    { id := "3", kind := .associationNtoN, sourceId := "c", targetId := "t" }]

/-- The second list of orders of a customer refers to the second customer of an order. -/
theorem Snapshot.generate_mappingClosure_mappedClasses :
    mappedClasses.isEmpty = false ∧ mappedClasses.typeNames.Nodup ∧
    ∃ tree, generate mappedClasses {} "Shop" = .ok tree ∧
      ∃ text, tree.get? "shop/src/main/java/shop/model/Order.java" = some text ∧
        Code.Shows text 1 ["", "@ManyToOne", "@JoinColumn(name = \"customer2_id\")",
          "private Customer customer2;"] := by
  have hs : mappedClasses.isEmpty = false := rfl
  have hnames : mappedClasses.typeNames.Nodup := by decide +kernel
  obtain ⟨tree, hgenerate, hclosure⟩ := generate_mappingClosure mappedClasses {} "Shop" hs hnames
  obtain ⟨own, owner, _, text, r, -, hown, -, -, howner, hget, hdeclared, -⟩ :=
    hclosure { id := "c", name := "Customer" } (by decide)
      { ownerClassId := "c", kind := .oneToMany, side := .inverse, relatedClassId := "o",
        relatedType := "Order", fieldName := "orderList2", joinName := "customer2_id",
        mappedBy := some "customer2" } (by decide +kernel) rfl
  have hname : (ClassNames.ofSnapshot mappedClasses).typeName? "c" = some "Customer" := by
    decide +kernel
  have hpath : (Layout.ofName "Shop").artifactPath .model "Order" =
      "shop/src/main/java/shop/model/Order.java" := by
    rw [Layout.ofName_shop]
    decide
  cases hname.symm.trans hown
  cases howner
  exact ⟨hs, hnames, tree, hgenerate, text, hpath ▸ hget, hdeclared⟩

end CrudScaffold

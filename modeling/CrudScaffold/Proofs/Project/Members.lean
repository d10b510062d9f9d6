import CrudScaffold.Proofs.Entity.Basic
import CrudScaffold.Proofs.Project.FileMap
import CrudScaffold.Proofs.Relationship.Index

/-!
# Members of a model

The members of a model come from three places, and each of them looks after its own names:
attributes with a name that is taken are dropped, a key is added only where no attribute is called
like it, and relationship fields that share a name are reported. Nothing compares a relationship
field with the key and the attributes. So in a run without warnings the members of a model have
different names exactly if no relationship field is called like one of them, and a class with an
attribute `order` that refers to an `Order` is the case in which they do not.
-/

namespace CrudScaffold

/-! ### What is reported of relationship fields -/

/-- Nothing is reported exactly if the fields have different names, none of which has been seen. -/
lemma RelationshipIndex.repeatedNames_eq_nil_iff {id : String} {seen : List String}
    {fields : List RelationshipField} :
    repeatedNames id seen fields = [] ↔
      (fields.map RelationshipField.fieldName).Nodup ∧ ∀ f ∈ fields, f.fieldName ∉ seen := by
  induction fields generalizing seen with
  | nil => simp [repeatedNames]
  | cons f fields ih =>
    have hhead : (if f.fieldName ∈ seen then [Event.repeatedRelationshipField id f.fieldName]
        else []) = [] ↔ f.fieldName ∉ seen := by
      split_ifs with h <;> simp [h]
    have hnames : ∀ (names : List String) (fs : List RelationshipField),
        (∀ g ∈ fs, g.fieldName ∉ names) ↔
          ∀ n ∈ fs.map RelationshipField.fieldName, n ∉ names :=
      fun names fs => (List.forall_mem_map (P := (· ∉ names))).symm
    rw [repeatedNames, List.append_eq_nil_iff, ih, hhead, hnames, hnames, List.map_cons,
      nodup_cons_and_notMem_iff]

/-- What there is to report about the relationship fields of a class is reported by a run. -/
lemma mem_report_of_mem_repeatedNames {s : Snapshot} {stage : Stage} {config : Config}
    {name : String} {c : ClassDef} {event : Event} (hs : s.isEmpty = false) (hc : c ∈ s.classes)
    (h : event ∈ RelationshipIndex.repeatedNames c.id []
      (relationshipFields c.id s (.ofSnapshot s))) :
    event ∈ report stage s config name := by
  have hnotices : event ∈ s.nameNotices := by
    refine List.mem_append_right _ (List.mem_append_right _ ?_)
    exact List.mem_flatMap.mpr ⟨c, hc, h⟩
  rw [report, hs]
  simp [hnotices]

/-- Every event about relationship fields with one name is a warning. -/
lemma RelationshipIndex.isWarning_of_mem_repeatedNames {id : String} {seen : List String}
    {fields : List RelationshipField} {event : Event} (h : event ∈ repeatedNames id seen fields) :
    event.isWarning := by
  induction fields generalizing seen with
  | nil => exact absurd h List.not_mem_nil
  | cons f fields ih =>
    rw [repeatedNames] at h
    rcases List.mem_append.mp h with h | h
    · split_ifs at h
      · rw [List.mem_singleton.mp h]
        rfl
      · exact absurd h List.not_mem_nil
    · exact ih h

/-- In a run without warnings the relationship fields of a class have different names. -/
lemma nodup_relationshipNames {s : Snapshot} {stage : Stage} {config : Config} {name : String}
    {c : ClassDef} (hs : s.isEmpty = false)
    (hquiet : ∀ event ∈ report stage s config name, event.isWarning = false) (hc : c ∈ s.classes) :
    ((relationshipFields c.id s (.ofSnapshot s)).map RelationshipField.fieldName).Nodup := by
  have hnone : RelationshipIndex.repeatedNames c.id []
      (relationshipFields c.id s (.ofSnapshot s)) = [] := by
    refine List.eq_nil_iff_forall_not_mem.mpr fun event hevent => ?_
    have hwarning := RelationshipIndex.isWarning_of_mem_repeatedNames hevent
    rw [hquiet event (mem_report_of_mem_repeatedNames hs hc hevent)] at hwarning
    exact Bool.false_ne_true hwarning
  exact (RelationshipIndex.repeatedNames_eq_nil_iff.mp hnone).1

/-! ### The members of a model -/

namespace Entity

/-- The names of the members of a model: those of the added key, of the attributes and of the
relationship fields. -/
lemma map_name_modelMembers (e : Entity) :
    e.modelMembers.map Member.name =
      (e.addedKey.map PrimaryKey.fieldName ++ e.attributes.map Attribute.fieldName) ++
        e.relationships.map RelationshipField.fieldName := by
  rw [modelMembers, List.map_append, List.map_append, List.map_map, List.map_map, List.map_map]
  rfl

variable (c : ClassDef) (n : String) (fields : List RelationshipField) (package : String)

/-- The key and the attributes of an entity have different names. -/
lemma nodup_ownNames_ofClass :
    let e := ofClass c n fields package
    (e.addedKey.map PrimaryKey.fieldName ++ e.attributes.map Attribute.fieldName).Nodup := by
  intro e
  have hattributes : (e.attributes.map Attribute.fieldName).Nodup := nodup_fieldName_ofClass
  rcases primaryKey_cases c n fields package with ⟨a, -, -, hkey⟩ | ⟨hfree, hkey⟩
  · have hnone : e.addedKey = [] := by rw [addedKey, hkey]; rfl
    rw [hnone]
    exact hattributes
  · have hadded : e.addedKey.map PrimaryKey.fieldName = [surrogateField] := by
      rw [addedKey, hkey]
      rfl
    rw [hadded, List.singleton_append, List.nodup_cons]
    exact ⟨hfree, hattributes⟩

/-- The names of the key and the attributes of an entity. -/
lemma mem_ownNames_ofClass {m : String} :
    let e := ofClass c n fields package
    m ∈ e.addedKey.map PrimaryKey.fieldName ++ e.attributes.map Attribute.fieldName ↔
      m = e.primaryKey.fieldName ∨ m ∈ e.attributes.map Attribute.fieldName := by
  intro e
  rcases primaryKey_cases c n fields package with ⟨a, ha, -, hkey⟩ | ⟨-, hkey⟩
  · have hnone : e.addedKey = [] := by rw [addedKey, hkey]; rfl
    rw [hnone, hkey, List.map_nil, List.nil_append]
    refine ⟨.inr, ?_⟩
    rintro (rfl | hm)
    · exact List.mem_map_of_mem ha
    · exact hm
  · rw [addedKey, hkey]
    exact List.mem_cons

end Entity

/-- **Names of the members of a model.** In a run without warnings, the members that the model of a
class declares, which are the added key, the attributes and the relationship fields, have different
names exactly if no relationship field is called like the key or an attribute. -/
theorem Snapshot.nodup_memberNames_iff (s : Snapshot) (config : Config) (name : String)
    (stage : Stage) (hs : s.isEmpty = false)
    (hquiet : ∀ event ∈ report stage s config name, event.isWarning = false) :
    let layout := Layout.ofName name
    ∃ tree, generate s config name = .ok tree ∧
      ∀ n ∈ s.typeNames, ∃ c, s.lastNamed n = some c ∧
        let e := s.entity layout.package c n
        tree.get? (layout.artifactPath .model n) = some (ArtifactKind.model.render e) ∧
        ((e.modelMembers.map Member.name).Nodup ↔
          ∀ f ∈ e.relationships, f.fieldName ≠ e.primaryKey.fieldName ∧
            f.fieldName ∉ e.attributes.map Attribute.fieldName) := by
  intro layout
  refine ⟨.ofList (s.files config name), generate_eq config name hs, fun n hn => ?_⟩
  obtain ⟨c, hc⟩ := exists_lastNamed hn
  refine ⟨c, hc, ?_⟩
  intro e
  have hget : (FileTree.ofList (s.files config name)).get? (layout.artifactPath .model n) =
      some (ArtifactKind.model.render e) := by
    rw [s.get?_ofList_files config name .model n, hc]
    rfl
  refine ⟨hget, ?_⟩
  have hfields : (e.relationships.map RelationshipField.fieldName).Nodup := by
    have hnames := nodup_relationshipNames hs hquiet (of_lastNamed hc).1
    rw [← RelationshipIndex.fieldsFor_build] at hnames
    exact hnames
  rw [Entity.map_name_modelMembers, List.nodup_append]
  constructor
  · rintro ⟨-, -, hapart⟩ f hf
    have hnot : f.fieldName ∉ e.addedKey.map PrimaryKey.fieldName ++
        e.attributes.map Attribute.fieldName :=
      fun hmem => hapart _ hmem _ (List.mem_map_of_mem hf) rfl
    exact not_or.mp fun hor => hnot ((Entity.mem_ownNames_ofClass ..).mpr hor)
  · intro hfree
    refine ⟨Entity.nodup_ownNames_ofClass .., hfields, ?_⟩
    rintro m hm m' hm' rfl
    obtain ⟨f, hf, rfl⟩ := List.mem_map.mp hm'
    obtain ⟨hkey, hattribute⟩ := hfree f hf
    rcases (Entity.mem_ownNames_ofClass ..).mp hm with h | h
    · exact hkey h
    · exact hattribute h

/-- A diagram in which items refer to two orders and have an attribute of another name. -/
def Snapshot.itemsOfOrders : Snapshot where
  classes := [{ id := "i", name := "Item", attributes := [{ name := "place", typeTag := .int }] },
    { id := "o", name := "Order" }]
  relations := [{ id := "1", kind := .association, sourceId := "i", targetId := "o" },
    { id := "2", kind := .association, sourceId := "i", targetId := "o" }]

/-- The key, the attribute and the two references of an item have different names. -/
theorem Snapshot.nodup_memberNames_itemsOfOrders :
    itemsOfOrders.isEmpty = false ∧
    (∀ event ∈ report .idle itemsOfOrders {} "Shop", event.isWarning = false) ∧
    ∃ tree, generate itemsOfOrders {} "Shop" = .ok tree ∧
      ∃ c, itemsOfOrders.lastNamed "Item" = some c ∧
        ((itemsOfOrders.entity "shop" c "Item").modelMembers.map Member.name).Nodup := by
  have hs : itemsOfOrders.isEmpty = false := rfl
  have hquiet : ∀ event ∈ report .idle itemsOfOrders {} "Shop", event.isWarning = false := by
    decide +kernel
  have hn : "Item" ∈ itemsOfOrders.typeNames := by decide +kernel
  obtain ⟨tree, hgenerate, hmembers⟩ :=
    nodup_memberNames_iff itemsOfOrders {} "Shop" .idle hs hquiet
  obtain ⟨c, hc, -, hiff⟩ := hmembers "Item" hn
  have hpackage : (Layout.ofName "Shop").package = "shop" := by rw [Layout.ofName_shop]
  have hlast : itemsOfOrders.lastNamed "Item" =
      some { id := "i", name := "Item", attributes := [{ name := "place", typeTag := .int }] } := by
    decide +kernel
  obtain rfl := Option.some.inj (hc.symm.trans hlast)
  refine ⟨hs, hquiet, tree, hgenerate, _, hc, ?_⟩
  rw [hpackage] at hiff
  exact hiff.mpr (by decide +kernel)

/-- A diagram in which an item refers to an order and has an attribute `order` as well. -/
def Snapshot.itemsInOrder : Snapshot where
  classes := [{ id := "i", name := "Item", attributes := [{ name := "order", typeTag := .int }] },
    { id := "o", name := "Order" }]
  relations := [{ id := "1", kind := .association, sourceId := "i", targetId := "o" }]

/-- A run without warnings declares the member `order` of an item twice: for the attribute and for
the reference. -/
theorem Snapshot.repeatedMember_itemsInOrder :
    itemsInOrder.isEmpty = false ∧
    (∀ event ∈ report .idle itemsInOrder {} "Shop", event.isWarning = false) ∧
    ∃ c, itemsInOrder.lastNamed "Item" = some c ∧
      let e := itemsInOrder.entity "shop" c "Item"
      (FileTree.ofList (itemsInOrder.files {} "Shop")).get?
        "shop/src/main/java/shop/model/Item.java" = some (ArtifactKind.model.render e) ∧
      e.modelMembers.map Member.name = ["id", "order", "order"] := by
  have hlast : itemsInOrder.lastNamed "Item" =
      some { id := "i", name := "Item", attributes := [{ name := "order", typeTag := .int }] } := by
    decide +kernel
  have hpath : (Layout.ofName "Shop").artifactPath .model "Item" =
      "shop/src/main/java/shop/model/Item.java" := by
    rw [Layout.ofName_shop]
    decide
  have hpackage : (Layout.ofName "Shop").package = "shop" := by rw [Layout.ofName_shop]
  have hget := get?_ofList_files itemsInOrder {} "Shop" .model "Item"
  rw [hpath, hpackage, hlast] at hget
  exact ⟨rfl, by decide +kernel, _, hlast, hget, by decide +kernel⟩

end CrudScaffold

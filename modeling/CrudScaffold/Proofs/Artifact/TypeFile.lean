import CrudScaffold.Artifact.Kind
import CrudScaffold.Proofs.Entity.Basic
import CrudScaffold.Proofs.Java.TypeFile

/-!
# What the files of an entity declare and import

Every kind of file declares the type it is named after, in the package of its layer. What it imports
is either a file of the same entity, called by its full name, or belongs to a library. Libraries are
recognised by their names: no part of the name of a library type is called like a layer, so whatever
the package of a project is, a library type cannot be taken for a generated one.
-/

namespace CrudScaffold

/-! ### Library types -/

/-- The layers that the files of entities are in. -/
def layers : List String := ["model", "access", "logic", "api", "dto", "mapping"]

/-- The full name of a type that is not generated: no part of it is called like a layer. -/
def IsLibraryType (i : String) : Prop :=
  '\n' ∉ i.toList ∧ ∀ layer ∈ layers, layer.toList ∉ i.toList.splitOn '.'

/-- Names of library types are recognised by looking at them. -/
instance (i : String) : Decidable (IsLibraryType i) :=
  inferInstanceAs (Decidable ('\n' ∉ i.toList ∧
    ∀ layer ∈ layers, layer.toList ∉ i.toList.splitOn '.'))

/-- A name that reads like that of a type in a layer is not that of a library type. -/
lemma IsLibraryType.ne_layerType {i package layer n : String} (h : IsLibraryType i)
    (hlayer : layer ∈ layers) : i ≠ package ++ "." ++ layer ++ "." ++ n := by
  rintro rfl
  refine h.2 layer hlayer ?_
  have hlist : (package ++ "." ++ layer ++ "." ++ n).toList =
      package.toList ++ '.' :: (layer.toList ++ '.' :: n.toList) := by simp
  have hdot : ∀ l ∈ layers, '.' ∉ l.toList := by decide
  rw [hlist, List.splitOn_append_cons_self, List.splitOn_append_cons_self,
    List.splitOn_eq_singleton (hdot layer hlayer)]
  simp

/-- The type of the annotation that a constraint is written with. -/
def Constraint.type : Constraint → String
  | notNull => "NotNull"
  | notBlank => "NotBlank"
  | size _ => "Size"

/-- The full name of this type. -/
def Constraint.imported (k : Constraint) : String := "jakarta.validation.constraints." ++ k.type

/-- The imports for the constraints of an attribute are the types of the constraints that it has. -/
lemma Attribute.constraintImports_eq (a : Attribute) :
    a.constraintImports = a.constraints.map Constraint.imported := by
  rw [constraintImports, constraints, textLimit, List.map_append]
  congr 1
  · split_ifs <;> rfl
  · cases a.java.isText <;> cases a.maxLength <;> rfl

/-- A payload imports what it declares its fields with. -/
lemma Entity.payloadImports_eq (e : Entity) (p : Payload) :
    e.payloadImports p = e.attributeImports ++
      e.attributes.flatMap fun a => (p.constraintsOn a).map Constraint.imported := by
  cases p with
  | request =>
    have himports : Attribute.constraintImports = fun a => a.constraints.map Constraint.imported :=
      funext Attribute.constraintImports_eq
    rw [payloadImports, himports]
    rfl
  | response =>
    have hnone : (e.attributes.flatMap fun _ => ([] : List String)) = [] :=
      List.flatMap_eq_nil_iff.mpr fun _ _ => rfl
    exact congrArg (e.attributeImports ++ ·) hnone.symm

namespace Entity

/-- The attributes of an entity and its key have types that tags stand for. -/
structure IsTyped (e : Entity) : Prop where
  attributes : ∀ a ∈ e.attributes, ∃ tag, a.java = .ofTag tag
  key : ∃ tag, e.primaryKey.java = .ofTag tag

/-- The entity of a class is typed by tags. -/
lemma isTyped_ofClass (c : ClassDef) (n : String) (fields : List RelationshipField)
    (package : String) : (ofClass c n fields package).IsTyped := by
  refine ⟨fun a ha => exists_java_eq_ofTag ha, ?_⟩
  rcases primaryKey_cases c n fields package with ⟨a, ha, -, hkey⟩ | ⟨-, hkey⟩
  · obtain ⟨tag, htag⟩ := exists_java_eq_ofTag ha
    exact ⟨tag, by rw [hkey, htag]⟩
  · exact ⟨.long, by rw [hkey]; rfl⟩

/-- The full name of a type of an entity in its layer. -/
def IsOwnType (e : Entity) (i : String) : Prop :=
  ∃ kind : ArtifactKind, i = e.qualified kind.layer (kind.stem e.typeName)

end Entity

namespace ArtifactKind

variable {e : Entity} {kind : ArtifactKind} {i : String}

/-- The imports of a file of an entity. -/
def imports (e : Entity) : ArtifactKind → List String
  | .model => e.modelImports
  | .access => e.accessImports
  | .logic => e.logicImports
  | .api => e.apiImports
  | .request => e.payloadImports .request
  | .response => e.payloadImports .response
  | .mapper => e.mapperImports

/-- The layers are those of the kinds. -/
lemma layer_mem_layers (kind : ArtifactKind) : kind.layer ∈ layers := by
  cases kind <;> decide

/-- Every file of an entity declares the type that it is named after, in the package of its
layer. -/
lemma isTypeFile_code (kind : ArtifactKind) (e : Entity) :
    Code.IsTypeFile (kind.code e) (e.layerPackage kind.layer) (kind.imports e)
      (kind.stem e.typeName) := by
  have hnone : ∀ a ∈ ([] : List String), ∃ cs, a.toList = '@' :: cs := List.forall_mem_nil _
  have hmarked : ∀ (word : String) {words : List String},
      (∀ a ∈ words, ∃ cs, a.toList = '@' :: cs) →
        ∀ a ∈ ("@" ++ word) :: words, ∃ cs, a.toList = '@' :: cs := by
    intro word words hwords
    exact List.forall_mem_cons.mpr ⟨⟨word.toList, by simp⟩, hwords⟩
  cases kind with
  | model =>
    have hstem : model.stem e.typeName = e.typeName := String.append_empty
    rw [hstem]
    exact Code.isTypeFile_class _ _ _ (hmarked "Entity" hnone) rfl
  | access =>
    refine ⟨["@Repository"], _, _, rfl, hmarked "Repository" hnone, "public interface ",
      List.mem_of_mem_tail List.mem_cons_self,
      "extends JpaRepository<" ++ e.typeName ++ ", " ++ e.primaryKey.java.name ++ "> \x7b", ?_⟩
    change ("public interface " ++ e.typeName ++ "Access extends " ++
      ("JpaRepository<" ++ e.typeName ++ ", " ++ e.primaryKey.java.name ++ ">")) ++ " \x7b" = _
    refine String.toList_injective ?_
    simp [stem, ending]
  | logic =>
    exact Code.isTypeFile_class _ _ _ (hmarked "Service" hnone) String.append_assoc
  | api =>
    have hroute : ∀ a ∈ [s!"@RequestMapping(\"{e.resourcePath}\")"],
        ∃ cs, a.toList = '@' :: cs := by
      intro a ha
      rw [List.mem_singleton.mp ha]
      change ∃ cs, ("@RequestMapping(\"" ++ e.resourcePath ++ "\")").toList = '@' :: cs
      exact ⟨_, by simp; rfl⟩
    exact Code.isTypeFile_class _ _ _ (hmarked "RestController" hroute) String.append_assoc
  | request => exact Code.isTypeFile_class _ _ _ hnone String.append_assoc
  | response => exact Code.isTypeFile_class _ _ _ hnone String.append_assoc
  | mapper =>
    exact Code.isTypeFile_class _ _ _ (hmarked "Component" hnone) String.append_assoc

/-! ### Parts of the imports -/

/-- The kinds of files of the same entity that a file imports. -/
def uses : ArtifactKind → List ArtifactKind
  | .model | .request | .response => []
  | .access => [.model]
  | .logic => [.access, .request, .response, .mapper, .model]
  | .api => [.logic, .request, .response]
  | .mapper => [.model, .request, .response]

/-- What every file of a kind imports from libraries. -/
def fixedImports : ArtifactKind → List String
  | .model => ["jakarta.persistence.*"]
  | .access =>
    ["org.springframework.data.jpa.repository.JpaRepository",
      "org.springframework.stereotype.Repository"]
  | .logic =>
    ["java.util.List",
      "org.springframework.http.HttpStatus",
      "org.springframework.stereotype.Service",
      "org.springframework.web.server.ResponseStatusException"]
  | .api =>
    ["jakarta.validation.Valid",
      "java.util.List",
      "org.springframework.http.HttpStatus",
      "org.springframework.http.ResponseEntity",
      "org.springframework.web.bind.annotation.*"]
  | .request | .response => []
  | .mapper => ["org.springframework.stereotype.Component"]

/-- What a file imports from libraries for the fields, the key and the constraints of its entity. -/
def fieldImports (e : Entity) : ArtifactKind → List String
  | .model =>
    e.attributeImports ++ e.keyImport ++ e.relationships.flatMap RelationshipField.imports
  | .access | .logic | .api => e.keyImport
  | .request => e.payloadImports .request
  | .response => e.payloadImports .response
  | .mapper => []

/-- What a file of an entity imports from libraries. -/
def libraryImports (e : Entity) (kind : ArtifactKind) : List String :=
  kind.fixedImports ++ kind.fieldImports e

/-- The full name of a type of an entity. -/
def ownType (e : Entity) (kind : ArtifactKind) : String :=
  e.qualified kind.layer (kind.stem e.typeName)

/-- A file of an entity imports files of the entity and types of libraries. -/
lemma imports_eq (e : Entity) (kind : ArtifactKind) :
    kind.imports e = kind.uses.map (ownType e) ++ kind.libraryImports e := by
  have hmodel : ownType e .model = e.qualified "model" e.typeName :=
    congrArg (e.qualified "model") String.append_empty
  cases kind with
  | model => rfl
  | access =>
    rw [imports, Entity.accessImports, ← hmodel]
    rfl
  | logic =>
    rw [imports, Entity.logicImports, ← hmodel]
    rfl
  | api => rfl
  | request => rfl
  | response => rfl
  | mapper =>
    rw [imports, Entity.mapperImports, ← hmodel]
    rfl

/-! ### Library types that are imported -/

/-- The types that fields and keys are imported from. -/
def fieldTypes : List String :=
  ["java.math.BigDecimal", "java.time.LocalDate", "java.time.LocalDateTime", "java.util.ArrayList",
    "java.util.HashSet", "java.util.List", "java.util.Set"]

/-- The types that constraints are imported from. -/
def constraintTypes : List String :=
  ["NotBlank", "NotNull", "Size"].map ("jakarta.validation.constraints." ++ ·)

/-- The type of a constraint is one of them. -/
lemma imported_mem_constraintTypes (k : Constraint) : k.imported ∈ constraintTypes := by
  refine List.mem_map_of_mem ?_
  cases k <;> simp [Constraint.type]

/-- The types that attributes have are imported from the list. -/
lemma mem_fieldTypes_of_ofTag {tag : TypeTag} (h : i ∈ (JavaType.ofTag tag).imported) :
    i ∈ fieldTypes := by
  cases tag <;> cases h <;> decide

/-- So are the types of the attributes of an entity. -/
lemma attributeImports_subset (he : e.IsTyped) : e.attributeImports ⊆ fieldTypes := by
  intro i hi
  obtain ⟨a, ha, hi⟩ := List.mem_filterMap.mp hi
  obtain ⟨tag, hjava⟩ := he.attributes a ha
  exact mem_fieldTypes_of_ofTag (hjava ▸ hi)

/-- So is the type of its key. -/
lemma keyImport_subset (he : e.IsTyped) : e.keyImport ⊆ fieldTypes := by
  intro i hi
  obtain ⟨tag, hjava⟩ := he.key
  exact mem_fieldTypes_of_ofTag (hjava ▸ Option.mem_toList.mp hi)

/-- So are the collections of its relationship fields. -/
lemma relationshipImports_subset (f : RelationshipField) : f.imports ⊆ fieldTypes := by
  rw [RelationshipField.imports, RelationshipField.collection]
  cases f.kind <;> decide

/-- Fields and keys need types from a fixed list, and constraints, which the request alone has,
from another one. -/
lemma mem_of_mem_fieldImports (he : e.IsTyped) (h : i ∈ kind.fieldImports e) :
    i ∈ fieldTypes ∨ kind = .request ∧ i ∈ constraintTypes := by
  cases kind with
  | model =>
    rcases List.mem_append.mp h with h | h
    · rcases List.mem_append.mp h with h | h
      · exact .inl (attributeImports_subset he h)
      · exact .inl (keyImport_subset he h)
    · obtain ⟨f, -, hf⟩ := List.mem_flatMap.mp h
      exact .inl (relationshipImports_subset f hf)
  | access => exact .inl (keyImport_subset he h)
  | logic => exact .inl (keyImport_subset he h)
  | api => exact .inl (keyImport_subset he h)
  | request =>
    have h' : i ∈ e.payloadImports .request := h
    rw [e.payloadImports_eq .request] at h'
    rcases List.mem_append.mp h' with h | h
    · exact .inl (attributeImports_subset he h)
    · obtain ⟨a, -, ha⟩ := List.mem_flatMap.mp h
      obtain ⟨k, -, rfl⟩ := List.mem_map.mp ha
      exact .inr ⟨rfl, imported_mem_constraintTypes k⟩
  | response =>
    rcases List.mem_append.mp h with h | h
    · exact .inl (attributeImports_subset he h)
    · exact absurd h List.not_mem_nil
  | mapper => exact absurd h List.not_mem_nil

/-- What holds of the types of an entity and of the library types of the lists holds of all that a
file of the entity imports. -/
lemma forall_mem_imports {P : String → Prop} (he : e.IsTyped) (kind : ArtifactKind)
    (hown : ∀ k, P (ownType e k)) (hfixed : ∀ i ∈ kind.fixedImports, P i)
    (hfield : ∀ i ∈ fieldTypes ++ constraintTypes, P i) : ∀ i ∈ kind.imports e, P i := by
  rw [imports_eq, libraryImports]
  refine List.forall_mem_append.mpr ⟨List.forall_mem_map.mpr fun k _ => hown k, ?_⟩
  refine List.forall_mem_append.mpr ⟨hfixed, fun i hi => hfield i (List.mem_append.mpr ?_)⟩
  exact (mem_of_mem_fieldImports he hi).imp_right And.right

/-- A file of an entity imports files of the entity and library types only. -/
lemma isOwnType_or_isLibraryType (he : e.IsTyped) (h : i ∈ kind.imports e) :
    e.IsOwnType i ∨ IsLibraryType i := by
  have hlibrary : ∀ names : List String, (∀ j ∈ names, IsLibraryType j) →
      ∀ j ∈ names, e.IsOwnType j ∨ IsLibraryType j :=
    fun _ hnames j hj => .inr (hnames j hj)
  refine kind.forall_mem_imports he (fun k => .inl ⟨k, rfl⟩) (hlibrary _ ?_) (hlibrary _ ?_) i h
  · cases kind <;> decide
  · decide

end ArtifactKind

end CrudScaffold

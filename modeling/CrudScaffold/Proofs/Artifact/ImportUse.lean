import CrudScaffold.Proofs.Artifact.Declaration
import CrudScaffold.Proofs.Artifact.Import

/-!
# What imports are for

A file is refused if it uses a type that it does not import, and it is untidy if it imports one that
it does not use. The imports of a file are collected apart from its lines: those of dates and
decimals from the types of attributes and keys, those of collections from the kinds of relationship
fields, those of constraints from what is required of attributes.

`Entity.ImportsExactly` says what each of these imports stands for in the files of an entity, and
that no import is listed twice or out of order.
-/

namespace CrudScaffold

open Naming

/-- The types of values that have to be imported. -/
def JavaType.valueTypes : List String :=
  ["java.time.LocalDate", "java.time.LocalDateTime", "java.math.BigDecimal"]

namespace JavaType

/-- The type that a tag stands for is imported if it is one of them, and then by its full name. -/
lemma imported_ofTag_eq_iff {tag : TypeTag} {i : String} (hi : i ∈ valueTypes) :
    (ofTag tag).imported = some i ↔ (ofTag tag).name = Code.simpleName i := by
  have hcases : i = "java.time.LocalDate" ∨ i = "java.time.LocalDateTime" ∨
      i = "java.math.BigDecimal" := by
    simpa [valueTypes] using hi
  rcases hcases with rfl | rfl | rfl
  all_goals
    rw [Code.simpleName_ofList]
    cases tag <;> decide

/-- Neither collections nor constraints are imported for tags. -/
lemma imported_ofTag_ne {tag : TypeTag} {i : String}
    (hi : i ∈ Collection.list.imports ++ Collection.set.imports ++ ArtifactKind.constraintTypes) :
    (ofTag tag).imported ≠ some i := by
  revert i
  cases tag <;> decide

end JavaType

/-- A relationship field needs imports if it holds a collection. -/
lemma RelationshipField.mem_imports_iff {f : RelationshipField} {i : String} :
    i ∈ f.imports ↔ f.kind = .oneToMany ∧ i ∈ Collection.list.imports ∨
      f.kind = .manyToMany ∧ i ∈ Collection.set.imports := by
  rw [imports, collection]
  cases f.kind with
  | manyToOne => simp
  | oneToMany => simp
  | manyToMany => simp

/-- The annotation of a constraint is called like the type that is imported for it. -/
lemma Constraint.annotationName_eq_iff {k : Constraint} {i : String}
    (hi : i ∈ ArtifactKind.constraintTypes) :
    Code.annotationName k.annotationLine = Code.simpleName i ↔ k.imported = i := by
  have hname : Code.annotationName k.annotationLine = k.type := by
    cases k with
    | notNull => decide
    | notBlank => decide
    | size max =>
      have hlist : (Constraint.size max).annotationLine.toList =
          '@' :: ("Size".toList ++ '(' :: ("max = ".toList ++ (toString max).toList ++ [')'])) := by
        simp [annotationLine, toString_text]
      exact (Code.annotationName_eq (by decide) hlist).trans String.ofList_toList
  have hsimple : Code.simpleName k.imported = k.type := by
    have hdot : '.' ∉ k.type.toList := by cases k <;> simp [type]
    exact Code.simpleName_append "jakarta.validation.constraints" hdot
  have hlibrary : ∀ j ∈ ArtifactKind.constraintTypes, j ∈ ArtifactKind.libraryTypes :=
    fun j hj => List.mem_append_left _ (List.mem_append_right _ hj)
  have hk := hlibrary _ (ArtifactKind.imported_mem_constraintTypes k)
  rw [hname, ← hsimple]
  exact ⟨ArtifactKind.simpleName_inj hk (hlibrary _ hi), congrArg Code.simpleName⟩

namespace ArtifactKind

variable {e : Entity} {i : String}

/-- What a file of an entity imports, in order. -/
lemma importedNames_render (he : e.IsWordy) (kind : ArtifactKind) :
    Code.importedNames (kind.render e) = sortedNames (kind.imports e) :=
  (kind.isTypeFile_code e).importedNames_render fun _ ha => lineEnd_notMem_of_mem_code he ha

/-- A library type is imported by a file if something in the file asks for it. -/
lemma mem_importedNames_iff (he : e.IsWordy) (kind : ArtifactKind) (hi : IsLibraryType i) :
    i ∈ Code.importedNames (kind.render e) ↔ i ∈ kind.libraryImports e := by
  have hown : i ∉ kind.uses.map (ownType e) := by
    intro h
    obtain ⟨k, -, hk⟩ := List.mem_map.mp h
    exact hi.ne_layerType k.layer_mem_layers hk.symm
  rw [importedNames_render he, Code.mem_sortedNames, imports_eq, List.mem_append, or_iff_right hown]

end ArtifactKind

namespace Entity

open ArtifactKind

variable {e : Entity} {i : String}

/-! ### Attributes and keys -/

/-- A type is imported for the attributes that have it. -/
lemma mem_attributeImports_iff :
    i ∈ e.attributeImports ↔ ∃ a ∈ e.attributes, a.java.imported = some i :=
  List.mem_filterMap

/-- A type of values is imported for the attributes that have it. -/
lemma IsTyped.mem_attributeImports_iff (he : e.IsTyped) (hi : i ∈ JavaType.valueTypes) :
    i ∈ e.attributeImports ↔ ∃ a ∈ e.attributes, a.java.name = Code.simpleName i := by
  rw [Entity.mem_attributeImports_iff]
  refine exists_congr fun a => and_congr_right fun ha => ?_
  obtain ⟨tag, hjava⟩ := he.attributes a ha
  rw [hjava]
  exact JavaType.imported_ofTag_eq_iff hi

/-- A type of values is imported for the key if the key has it. -/
lemma IsTyped.mem_keyImport_iff (he : e.IsTyped) (hi : i ∈ JavaType.valueTypes) :
    i ∈ e.keyImport ↔ e.primaryKey.java.name = Code.simpleName i := by
  obtain ⟨tag, hjava⟩ := he.key
  rw [keyImport, Option.mem_toList, hjava]
  exact JavaType.imported_ofTag_eq_iff hi

/-- What the key needs is needed by an attribute, too. -/
lemma IsKeyed.keyImport_subset (h : e.IsKeyed) : e.keyImport ⊆ e.attributeImports := by
  intro i hi
  rw [keyImport, Option.mem_toList, h.key] at hi
  rcases keyOf_cases e.attributes with ⟨a, ha, -, heq⟩ | ⟨-, heq⟩
  · rw [heq] at hi
    exact Entity.mem_attributeImports_iff.mpr ⟨a, ha, hi⟩
  · rw [heq] at hi
    cases hi

/-- Neither collections nor constraints are imported for attributes. -/
lemma IsTyped.notMem_attributeImports (he : e.IsTyped)
    (hi : i ∈ Collection.list.imports ++ Collection.set.imports ++ constraintTypes) :
    i ∉ e.attributeImports := by
  intro h
  obtain ⟨a, ha, himported⟩ := Entity.mem_attributeImports_iff.mp h
  obtain ⟨tag, hjava⟩ := he.attributes a ha
  exact JavaType.imported_ofTag_ne hi (hjava ▸ himported)

/-! ### Files -/

/-- The model imports what its attributes and its relationship fields need. -/
lemma IsKeyed.mem_libraryImports_model_iff (h : e.IsKeyed) (hi : i ≠ "jakarta.persistence.*") :
    i ∈ ArtifactKind.model.libraryImports e ↔
      i ∈ e.attributeImports ∨ ∃ f ∈ e.relationships, i ∈ f.imports := by
  have hmem : i ∈ ArtifactKind.model.libraryImports e ↔
      i = "jakarta.persistence.*" ∨ (i ∈ e.attributeImports ∨ i ∈ e.keyImport) ∨
        i ∈ e.relationships.flatMap RelationshipField.imports := by
    rw [libraryImports, fixedImports, fieldImports, List.mem_append, List.mem_singleton,
      List.mem_append, List.mem_append]
  rw [hmem, or_iff_right hi, or_iff_left_of_imp (@keyImport_subset e h i), List.mem_flatMap]

/-- A payload imports what its attributes and its constraints need. -/
lemma mem_payloadImports_iff {p : Payload} : i ∈ e.payloadImports p ↔
    i ∈ e.attributeImports ∨ ∃ a ∈ e.attributes, ∃ k ∈ p.constraintsOn a, k.imported = i := by
  rw [payloadImports_eq, List.mem_append, List.mem_flatMap]
  simp only [List.mem_map]

/-- Constraints are imported for annotations that stand over fields. -/
lemma exists_annotation_iff (he : e.IsWordy) (hlegible : e.IsLegible) (hi : i ∈ constraintTypes) :
    (∃ f ∈ Code.fields (ArtifactKind.request.render e), ∃ l ∈ f.annotations,
      Code.annotationName l = Code.simpleName i) ↔
      ∃ a ∈ e.attributes, ∃ k ∈ a.constraints, k.imported = i := by
  have hfields : Code.fields (ArtifactKind.request.render e) =
      e.attributes.map fun a => ⟨a.constraints.map Constraint.annotationLine, a.member⟩ :=
    fields_payload he hlegible .request
  rw [hfields]
  simp only [List.mem_map, exists_exists_and_eq_and, Constraint.annotationName_eq_iff hi]

/-- The imports of the files of an entity stand for what is in these files. -/
structure ImportsExactly (e : Entity) : Prop where
  /-- Imports are in order, and none is repeated. -/
  increasing : ∀ kind : ArtifactKind, (Code.importedNames (kind.render e)).Pairwise (· < ·)
  /-- Where the attributes are declared, the types of values are imported that they have. -/
  attributes : ∀ kind ∈ [ArtifactKind.model, .request, .response], ∀ i ∈ JavaType.valueTypes,
    i ∈ Code.importedNames (kind.render e) ↔
      ∃ a ∈ e.attributes, a.java.name = Code.simpleName i
  /-- Where the key is passed on, the type of the key is imported if it is one of these. -/
  key : ∀ kind ∈ [ArtifactKind.access, .logic, .api], ∀ i ∈ JavaType.valueTypes,
    i ∈ Code.importedNames (kind.render e) ↔ e.primaryKey.java.name = Code.simpleName i
  /-- The mapper imports none of them. -/
  mapper : ∀ i ∈ JavaType.valueTypes, i ∉ Code.importedNames (ArtifactKind.mapper.render e)
  /-- The model imports lists if one of its relationship fields leads from one to many. -/
  lists : ∀ i ∈ ["java.util.List", "java.util.ArrayList"],
    i ∈ Code.importedNames (ArtifactKind.model.render e) ↔
      ∃ f ∈ e.relationships, f.kind = .oneToMany
  /-- The model imports sets if one of its relationship fields leads from many to many. -/
  sets : ∀ i ∈ ["java.util.Set", "java.util.HashSet"],
    i ∈ Code.importedNames (ArtifactKind.model.render e) ↔
      ∃ f ∈ e.relationships, f.kind = .manyToMany
  /-- The request imports the constraints that stand over its fields. -/
  request : ∀ i ∈ ["jakarta.validation.constraints.NotNull",
      "jakarta.validation.constraints.NotBlank", "jakarta.validation.constraints.Size"],
    i ∈ Code.importedNames (ArtifactKind.request.render e) ↔
      ∃ f ∈ Code.fields (ArtifactKind.request.render e), ∃ l ∈ f.annotations,
        Code.annotationName l = Code.simpleName i
  /-- The response imports none of them. -/
  response : ∀ i ∈ ["jakarta.validation.constraints.NotNull",
      "jakarta.validation.constraints.NotBlank", "jakarta.validation.constraints.Size"],
    i ∉ Code.importedNames (ArtifactKind.response.render e)

/-- The model imports a collection if one of its relationship fields holds it. -/
lemma mem_importedNames_model_iff (he : e.IsWordy) (hkeyed : e.IsKeyed)
    (hi : i ∈ Collection.list.imports ++ Collection.set.imports) :
    i ∈ Code.importedNames (ArtifactKind.model.render e) ↔
      ∃ f ∈ e.relationships, i ∈ f.imports := by
  have hlibrary : ∀ j ∈ Collection.list.imports ++ Collection.set.imports,
      IsLibraryType j ∧ j ≠ "jakarta.persistence.*" := by
    decide
  have hnone := he.typed.notMem_attributeImports (List.mem_append_left constraintTypes hi)
  rw [mem_importedNames_iff he .model (hlibrary i hi).1,
    hkeyed.mem_libraryImports_model_iff (hlibrary i hi).2, or_iff_right hnone]

/-- A payload imports a constraint if one of its attributes has it. -/
lemma mem_importedNames_payload_iff (he : e.IsWordy) (hi : i ∈ constraintTypes) :
    (i ∈ Code.importedNames (ArtifactKind.request.render e) ↔
      ∃ a ∈ e.attributes, ∃ k ∈ a.constraints, k.imported = i) ∧
    i ∉ Code.importedNames (ArtifactKind.response.render e) := by
  have hlibrary : ∀ j ∈ constraintTypes, IsLibraryType j := by decide
  have hnone := he.typed.notMem_attributeImports (List.mem_append_right _ hi)
  have himports : ∀ p : Payload, i ∈ e.payloadImports p ↔
      ∃ a ∈ e.attributes, ∃ k ∈ p.constraintsOn a, k.imported = i :=
    fun p => mem_payloadImports_iff.trans (or_iff_right hnone)
  rw [mem_importedNames_iff he .request (hlibrary i hi),
    mem_importedNames_iff he .response (hlibrary i hi)]
  refine ⟨himports .request, fun h => ?_⟩
  obtain ⟨a, -, k, hk, -⟩ := (himports .response).mp h
  exact absurd hk List.not_mem_nil

/-- The imports that the types of values need: attributes are declared in the model and in the
payloads, and the key is passed on to those who look it up. -/
def valueImports (e : Entity) : ArtifactKind → List String
  | .model | .request | .response => e.attributeImports
  | .access | .logic | .api => e.keyImport
  | .mapper => []

/-- The types of values are imported where they are needed. -/
lemma mem_importedNames_value (he : e.IsWordy) (hkeyed : e.IsKeyed)
    (hi : i ∈ JavaType.valueTypes) (kind : ArtifactKind) :
    i ∈ Code.importedNames (kind.render e) ↔ i ∈ e.valueImports kind := by
  have hvalue : ∀ j ∈ JavaType.valueTypes, IsLibraryType j ∧ j ≠ "jakarta.persistence.*" ∧
      (j ∉ Collection.list.imports ∧ j ∉ Collection.set.imports) ∧ j ∉ constraintTypes ∧
      ∀ k ∈ all, j ∉ k.fixedImports := by
    decide
  obtain ⟨hlibrary, hpersistence, ⟨hlist, hset⟩, hconstraint, hfixed⟩ := hvalue i hi
  have hfield : ∀ k ∈ all, i ∈ k.libraryImports e ↔ i ∈ k.fieldImports e := by
    intro k hk
    rw [libraryImports, List.mem_append, or_iff_right (hfixed k hk)]
  have hpayload : ∀ p, i ∈ e.payloadImports p ↔ i ∈ e.attributeImports := by
    intro p
    refine mem_payloadImports_iff.trans (or_iff_left ?_)
    rintro ⟨a, -, k, -, rfl⟩
    exact hconstraint (imported_mem_constraintTypes k)
  rw [mem_importedNames_iff he kind hlibrary]
  cases kind with
  | model =>
    refine (hkeyed.mem_libraryImports_model_iff hpersistence).trans (or_iff_left ?_)
    rintro ⟨f, -, hf⟩
    exact (RelationshipField.mem_imports_iff.mp hf).elim (fun h => hlist h.2) fun h => hset h.2
  | access => exact hfield .access (by decide)
  | logic => exact hfield .logic (by decide)
  | api => exact hfield .api (by decide)
  | request => exact (hfield .request (by decide)).trans (hpayload .request)
  | response => exact (hfield .response (by decide)).trans (hpayload .response)
  | mapper => exact hfield .mapper (by decide)

/-- The imports of an entity with a key stand for what is in its files. -/
lemma importsExactly (he : e.IsWordy) (hlegible : e.IsLegible) (hkeyed : e.IsKeyed) :
    e.ImportsExactly := by
  have hlists : ∀ j ∈ ["java.util.List", "java.util.ArrayList"],
      j ∈ Collection.list.imports ∧ j ∉ Collection.set.imports := by
    decide
  have hsets : ∀ j ∈ ["java.util.Set", "java.util.HashSet"],
      j ∉ Collection.list.imports ∧ j ∈ Collection.set.imports := by
    decide
  have hconstraints : ∀ j ∈ ["jakarta.validation.constraints.NotNull",
      "jakarta.validation.constraints.NotBlank", "jakarta.validation.constraints.Size"],
      j ∈ constraintTypes := by
    decide
  refine {
    increasing := fun kind => ?_
    attributes := fun kind hkind i hi => ?_
    key := fun kind hkind i hi => ?_
    mapper := fun i hi h =>
      List.not_mem_nil ((mem_importedNames_value he hkeyed hi .mapper).mp h)
    lists := fun i hi => ?_
    sets := fun i hi => ?_
    request := fun i hi => ?_
    response := fun i hi => (mem_importedNames_payload_iff he (hconstraints i hi)).2 }
  · rw [importedNames_render he]
    exact Code.pairwise_sortedNames _
  · rw [mem_importedNames_value he hkeyed hi kind, ← he.typed.mem_attributeImports_iff hi]
    have hkinds : kind = .model ∨ kind = .request ∨ kind = .response := by simpa using hkind
    rcases hkinds with rfl | rfl | rfl <;> exact Iff.rfl
  · rw [mem_importedNames_value he hkeyed hi kind, ← he.typed.mem_keyImport_iff hi]
    have hkinds : kind = .access ∨ kind = .logic ∨ kind = .api := by simpa using hkind
    rcases hkinds with rfl | rfl | rfl <;> exact Iff.rfl
  · obtain ⟨hlist, hset⟩ := hlists i hi
    rw [mem_importedNames_model_iff he hkeyed (List.mem_append_left _ hlist)]
    simp only [RelationshipField.mem_imports_iff, hlist, hset, and_true, and_false, or_false]
  · obtain ⟨hlist, hset⟩ := hsets i hi
    rw [mem_importedNames_model_iff he hkeyed (List.mem_append_right _ hset)]
    simp only [RelationshipField.mem_imports_iff, hlist, hset, and_true, and_false, false_or]
  · rw [(mem_importedNames_payload_iff he (hconstraints i hi)).1,
      exists_annotation_iff he hlegible (hconstraints i hi)]

end Entity

end CrudScaffold

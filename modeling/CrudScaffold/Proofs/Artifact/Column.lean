import CrudScaffold.Proofs.Artifact.Declaration

/-!
# Columns and constraints

What is required of an attribute is written down twice: for the database, in the annotation of its
column in the model, and for those who send requests, in the constraints over its field in the
request. If one of them asked for more than the other, a request that is accepted could not be
stored, or a value that could be stored would be refused.

`Entity.ConstraintsAgree` says that request, response and model declare the same attributes and that
the options of the columns are those of the constraints. The response has no annotation at all.
-/

namespace CrudScaffold

open Naming

/-! ### Reading annotations -/

namespace Field

/-- The annotations of a field that are about its column. -/
def columns (f : Field) : List String :=
  f.annotations.filter fun l => Code.annotationName l = "Column"

/-- The options that the column of a field has. -/
def columnOptions (f : Field) : List String := f.columns.flatMap Code.annotationOptions

/-- The constraints over a field say that it has a value. -/
def IsRequired (f : Field) : Prop := "@NotNull" ∈ f.annotations ∨ "@NotBlank" ∈ f.annotations

/-- The constraints over a field limit the length of its text. -/
def IsLimitedTo (f : Field) (n : String) : Prop := "@Size(max = " ++ n ++ ")" ∈ f.annotations

/-- The column of one field has the options that the constraints over the other ask for. -/
structure AgreesWith (column field : Field) : Prop where
  nullable : "nullable = false" ∈ column.columnOptions ↔ field.IsRequired
  length : ∀ n, "length = " ++ n ∈ column.columnOptions ↔ field.IsLimitedTo n
  /-- Where nothing is asked for, there is no annotation of a column, and there is never more than
  one. -/
  bare : column.columns = [] ↔ ¬ field.IsRequired ∧ ∀ n, ¬ field.IsLimitedTo n
  single : column.columns.length ≤ 1

end Field

/-! ### Attributes -/

/-- A rule is known by the line that it is written on. -/
lemma Constraint.annotationLine_eq_iff {k : Constraint} :
    (k.annotationLine = "@NotNull" ↔ k = .notNull) ∧
      (k.annotationLine = "@NotBlank" ↔ k = .notBlank) ∧
      ∀ n, k.annotationLine = "@Size(max = " ++ n ++ ")" ↔
        ∃ max, k = .size max ∧ toString max = n := by
  cases k with
  | notNull => simp [annotationLine, String.ext_iff]
  | notBlank => simp [annotationLine, String.ext_iff]
  | size max =>
    have hsize : (size max).annotationLine = "@Size(max = " ++ toString max ++ ")" := rfl
    refine ⟨by simp [hsize, String.ext_iff], by simp [hsize, String.ext_iff], fun n => ?_⟩
    rw [hsize, String.append_left_inj, String.append_right_inj]
    simp

namespace Attribute

variable (a : Attribute)

/-- What is required of a column has no comma in it and is not indented. -/
lemma comma_notMem_of_mem_columnRules :
    ∀ r ∈ a.columnRules, ',' ∉ r.toList ∧ r.toList.head? ≠ some ' ' := by
  refine List.forall_mem_append.mpr ⟨?_, List.forall_mem_map.mpr fun n _ => ?_⟩
  · split_ifs
    · exact List.forall_mem_singleton.mpr ⟨by decide, by decide⟩
    · exact List.forall_mem_nil _
  · have hdigits : ',' ∉ (toString n).toList :=
      (isWordText_toString n.toNat).notMem ',' (by decide)
    exact ⟨by simp [toString_text, hdigits], by simp [toString_text]⟩

/-- An attribute with rules for its column has one annotation, which lists the rules. -/
lemma columns_columnAnnotations (m : Member) :
    (Field.mk a.columnAnnotations m).columns = a.columnAnnotations ∧
      (Field.mk a.columnAnnotations m).columnOptions = a.columnRules := by
  have hrules := a.comma_notMem_of_mem_columnRules
  cases hcolumn : a.columnRules with
  | nil =>
    have hnone : a.columnAnnotations = [] := by rw [columnAnnotations, hcolumn]; rfl
    rw [hnone]
    exact ⟨rfl, rfl⟩
  | cons r rules =>
    rw [hcolumn] at hrules
    obtain ⟨l, hl⟩ : ∃ l, l = "@Column(" ++ ", ".intercalate (r :: rules) ++ ")" := ⟨_, rfl⟩
    have hone : a.columnAnnotations = [l] := by rw [columnAnnotations, hcolumn, hl]; rfl
    have hlist : l.toList = "@Column".toList ++
        '(' :: ((", ".intercalate (r :: rules)).toList ++ [')']) := by
      rw [hl]
      simp
    have hmarked : l.toList = '@' :: ("Column".toList ++
        '(' :: ((", ".intercalate (r :: rules)).toList ++ [')'])) := by
      rw [hlist]
      simp
    have hname : Code.annotationName l = "Column" := Code.annotationName_eq (by decide) hmarked
    have hoptions : Code.annotationOptions l = r :: rules :=
      Code.annotationOptions_eq (by decide) hlist hrules
    have hcolumns : (Field.mk [l] m).columns = [l] := by simp [Field.columns, hname]
    rw [hone, Field.columnOptions, hcolumns]
    exact ⟨rfl, by simp [hoptions]⟩

/-- A value is required where the column rules say so. -/
lemma nullable_mem_columnRules : "nullable = false" ∈ a.columnRules ↔ a.isRequired := by
  have hlength : "nullable = false" ∉ a.textLimit.toList.map fun n => s!"length = {n}" := by
    simp [toString_text, String.ext_iff]
  rw [columnRules, List.mem_append, or_iff_left hlength]
  split_ifs with hrequired <;> simp [hrequired]

/-- The length of a text is limited where the column rules say so. -/
lemma length_mem_columnRules (n : String) :
    "length = " ++ n ∈ a.columnRules ↔ ∃ max ∈ a.textLimit, toString max = n := by
  have hnullable : "length = " ++ n ∉ if a.isRequired then ["nullable = false"] else [] := by
    split_ifs <;> simp [String.ext_iff]
  have hlimit : ∀ max : UInt32, s!"length = {max}" = "length = " ++ n ↔ toString max = n :=
    fun max => String.append_right_inj _
  rw [columnRules, List.mem_append, or_iff_right hnullable, List.mem_map]
  simp only [Option.mem_toList, Option.mem_def, hlimit]

/-- No rule is needed for the column of an attribute of which nothing is required. -/
lemma columnRules_eq_nil_iff : a.columnRules = [] ↔ ¬ a.isRequired ∧ a.textLimit = none := by
  rw [columnRules, List.append_eq_nil_iff, List.map_eq_nil_iff, Option.toList_eq_nil_iff]
  split_ifs with hrequired <;> simp [hrequired]

/-- A value is required where the constraints say so. -/
lemma isRequired_constraints (m : Member) :
    (Field.mk (a.constraints.map Constraint.annotationLine) m).IsRequired ↔ a.isRequired := by
  simp only [Field.IsRequired, List.mem_map, Constraint.annotationLine_eq_iff, exists_eq_right]
  rw [constraints]
  split_ifs with hrequired htext <;> simp [hrequired]

/-- The length of a text is limited where the constraints say so. -/
lemma isLimitedTo_constraints (m : Member) (n : String) :
    (Field.mk (a.constraints.map Constraint.annotationLine) m).IsLimitedTo n ↔
      ∃ max ∈ a.textLimit, toString max = n := by
  have hsize : ∀ max, Constraint.size max ∈ a.constraints ↔ max ∈ a.textLimit := by
    intro max
    rw [constraints]
    split_ifs <;> simp
  simp only [Field.IsLimitedTo, List.mem_map, Constraint.annotationLine_eq_iff]
  constructor
  · rintro ⟨k, hk, max, rfl, hmax⟩
    exact ⟨max, (hsize max).mp hk, hmax⟩
  · rintro ⟨max, hlimit, hmax⟩
    exact ⟨.size max, (hsize max).mpr hlimit, max, rfl, hmax⟩

/-- The column of an attribute has the options that its constraints ask for. -/
lemma agreesWith :
    (Field.mk a.columnAnnotations a.member).AgreesWith
      ⟨a.constraints.map Constraint.annotationLine, a.member⟩ := by
  obtain ⟨hcolumns, hoptions⟩ := a.columns_columnAnnotations a.member
  refine ⟨?_, fun n => ?_, ?_, ?_⟩
  · rw [hoptions, nullable_mem_columnRules, isRequired_constraints]
  · rw [hoptions, length_mem_columnRules, isLimitedTo_constraints]
  · have hnone : a.columnAnnotations = [] ↔ a.columnRules = [] := by
      rw [columnAnnotations]
      split_ifs with hempty <;> simpa using hempty
    rw [hcolumns, hnone, columnRules_eq_nil_iff, isRequired_constraints]
    simp only [isLimitedTo_constraints]
    cases a.textLimit <;> simp
  · rw [hcolumns, columnAnnotations]
    split_ifs <;> simp

end Attribute

namespace Entity

variable {e : Entity}

/-! ### The response -/

/-- The methods that read and write a member have no annotation. -/
lemma at_notMem_accessors {m : Member} (htype : '@' ∉ m.type.toList) (hname : IsWordText m.name) :
    ∀ t ∈ Code.textsOf m.accessors, '@' ∉ t.toList := by
  have hword := hname.notMem '@' (by decide)
  have hupper := hname.upperFirst.notMem '@' (by decide)
  simp [Member.accessors, Member.reader, Member.writer, Code.blank, Code.braces, Code.textsOf,
    Code.texts, getter, setter, toString_text, htype, hword, hupper]

/-- In a package without annotations the response has none. -/
lemma at_notMem_response (he : e.IsWordy) (hpackage : '@' ∉ e.package.toList) :
    '@' ∉ (ArtifactKind.response.render e).toList := by
  have hjava : ∀ a ∈ e.attributes,
      '@' ∉ a.java.name.toList ∧ ∀ i ∈ a.java.imported, '@' ∉ i.toList := by
    intro a ha
    obtain ⟨tag, htag⟩ := he.typed.attributes a ha
    rw [htag]
    cases tag <;> decide
  have hname := fun a ha => (he.attributes a ha).notMem '@' (by decide)
  have himports : ∀ i ∈ e.payloadImports .response, '@' ∉ i.toList := by
    refine List.forall_mem_append.mpr ⟨fun i hi => ?_, List.forall_mem_nil _⟩
    obtain ⟨a, ha, himported⟩ := List.mem_filterMap.mp hi
    exact (hjava a ha).2 i himported
  have hhead := Code.notMem_preamble (by decide)
    (by simp [layerPackage, toString_text, hpackage] : '@' ∉ (e.layerPackage "dto").toList) himports
  have hheader :
      '@' ∉ (s!"public class {e.typeName}{Payload.response.ending}" ++ " \x7b").toList := by
    simp [Payload.ending, toString_text, he.typeName.notMem '@' (by decide)]
  have hbody : ∀ t ∈ Code.textsOf (e.payloadBody .response), '@' ∉ t.toList := by
    rw [textsOf_payloadBody]
    refine List.forall_mem_append.mpr ⟨fun t ht => ?_, fun t ht => ?_⟩
    · obtain ⟨a, ha, ht⟩ := List.mem_flatMap.mp ht
      rcases List.mem_cons.mp ht with rfl | ht
      · exact List.not_mem_nil
      · rw [List.mem_singleton.mp ht]
        simp [Member.declaration, Attribute.member, toString_text, (hjava a ha).1, hname a ha]
    · rw [List.flatMap_map, Code.textsOf_flatMap] at ht
      obtain ⟨a, ha, ht⟩ := List.mem_flatMap.mp ht
      exact at_notMem_accessors (hjava a ha).1 (he.attributes a ha) t ht
  have hfile : Code.textsOf (ArtifactKind.response.code e) =
      Code.linesOf 0 (preamble (e.layerPackage "dto") (e.payloadImports .response)) ++
        ((s!"public class {e.typeName}{Payload.response.ending}" ++ " \x7b") ::
          (Code.textsOf (e.payloadBody .response) ++ ["\x7d"])) := by
    change Code.textsOf (preamble _ _ ++ [Code.braces _ _]) = _
    rw [Code.textsOf_append, Code.textsOf_preamble, Code.braces, Code.textsOf, Code.texts]
    simp [Code.textsOf]
  rw [ArtifactKind.render, Code.mem_render_iff (by decide) (by decide), hfile]
  rintro ⟨t, ht, hat⟩
  refine List.forall_mem_append.mpr ⟨hhead, List.forall_mem_cons.mpr ⟨hheader,
    List.forall_mem_append.mpr ⟨hbody, List.forall_mem_singleton.mpr (by decide)⟩⟩⟩ t ht hat

/-! ### The files of an entity -/

/-- Model, request and response declare the same attributes and ask for the same. -/
structure ConstraintsAgree (e : Entity) : Prop where
  /-- The request declares every attribute once, with one method to read it and one to write it. -/
  request : Code.DeclaresOnce (ArtifactKind.request.render e) (e.attributes.map Attribute.member)
  /-- So does the response. -/
  response : Code.DeclaresOnce (ArtifactKind.response.render e) (e.attributes.map Attribute.member)
  /-- The model declares the same attributes in the same order, behind the key if that is added.
  The relationship fields follow, and if no line end is in the name of a join, nothing else does. -/
  model : ∃ others, (Code.fields (ArtifactKind.model.render e)).map Field.member =
      e.addedKey.map PrimaryKey.member ++ e.attributes.map Attribute.member ++ others ∧
    (e.JoinsOneLine → others = e.relationships.map RelationshipField.member)
  /-- The column of every attribute that is not the key has the options that the constraints in the
  request ask for. -/
  columns : ∀ i a, e.attributes[i]? = some a → ∃ column field,
    (Code.fields (ArtifactKind.model.render e))[e.addedKey.length + i]? = some column ∧
      (Code.fields (ArtifactKind.request.render e))[i]? = some field ∧
      column.member = a.member ∧ field.member = a.member ∧
      (¬ a.isPrimaryKey → column.AgreesWith field)
  /-- The response has no annotation. -/
  bare : '@' ∉ (ArtifactKind.response.render e).toList

/-- Model, request and response of a legible entity agree. -/
lemma constraintsAgree (he : e.IsWordy) (hlegible : e.IsLegible)
    (hpackage : '@' ∉ e.package.toList) (hnodup : (e.attributes.map Attribute.fieldName).Nodup) :
    e.ConstraintsAgree := by
  obtain ⟨others, hmodel, hothers⟩ := fields_model he hlegible
  have hrequest : Code.fields (ArtifactKind.request.render e) =
      e.attributes.map fun a => ⟨a.constraints.map Constraint.annotationLine, a.member⟩ :=
    fields_payload he hlegible .request
  refine ⟨declaresOnce_payload he hlegible .request hnodup,
    declaresOnce_payload he hlegible .response hnodup,
    ⟨others.map Field.member, ?_, fun hjoins => ?_⟩, fun i a ha => ?_,
    at_notMem_response he hpackage⟩
  · rw [hmodel, List.map_append, List.map_append, keyFields, attributeFields, List.map_map,
      List.map_map]
    rfl
  · rw [hothers hjoins, List.map_map]
    rfl
  · have hcolumn : (Code.fields (ArtifactKind.model.render e))[e.addedKey.length + i]? =
        some ⟨e.attributeAnnotations a, a.member⟩ := by
      have hlength : e.keyFields.length = e.addedKey.length := List.length_map _
      have hattribute : e.attributeFields[i]? = some ⟨e.attributeAnnotations a, a.member⟩ := by
        rw [attributeFields, List.getElem?_map, ha, Option.map_some]
      rw [hmodel, List.append_assoc, ← hlength, List.getElem?_append_right (Nat.le_add_right _ i),
        Nat.add_sub_cancel_left]
      exact (List.getElem?_append_left (List.getElem?_eq_some_iff.mp hattribute).1).trans hattribute
    have hfield : (Code.fields (ArtifactKind.request.render e))[i]? =
        some ⟨a.constraints.map Constraint.annotationLine, a.member⟩ := by
      rw [hrequest, List.getElem?_map, ha, Option.map_some]
    refine ⟨_, _, hcolumn, hfield, rfl, rfl, fun hkey => ?_⟩
    rw [attributeAnnotations, if_neg hkey]
    exact a.agreesWith

end Entity

end CrudScaffold

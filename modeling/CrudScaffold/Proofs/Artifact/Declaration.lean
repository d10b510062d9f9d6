import CrudScaffold.Proofs.Artifact.Key
import CrudScaffold.Proofs.Java.Declaration

/-!
# What payloads and models declare

Payloads declare the attributes of an entity, and the model declares them behind the key, if that is
added, and before the relationship fields. Each of them stands under its annotations, and each has a
method that reads it and one that writes it.

Of the relationship fields of a model less is said: a line end in the name of a join puts lines of
its own between the attributes and the methods. What stands before these lines and what stands
behind them is read as it is written, whatever the name.
-/

namespace CrudScaffold

open Naming

namespace Entity

variable {e : Entity}

/-! ### Members -/

/-- Everything that an entity is declared with can be read. -/
def IsLegible (e : Entity) : Prop := ∀ m ∈ e.modelMembers, m.IsLegible

/-- An attribute is declared in the model. -/
lemma member_mem_modelMembers {a : Attribute} (ha : a ∈ e.attributes) :
    a.member ∈ e.modelMembers :=
  List.mem_append_left _ (List.mem_append_right _ (List.mem_map_of_mem ha))

/-- So the attributes can be read. -/
lemma IsLegible.attributes (h : e.IsLegible) :
    ∀ m ∈ e.attributes.map Attribute.member, m.IsLegible :=
  List.forall_mem_map.mpr fun _ ha => h _ (member_mem_modelMembers ha)

/-- The types of members are words on one line. -/
lemma IsWordy.notMem_type (he : e.IsWordy) {m : Member} (hm : m ∈ e.modelMembers) :
    ' ' ∉ m.type.toList ∧ '\n' ∉ m.type.toList := by
  have htag : ∀ tag, ' ' ∉ (JavaType.ofTag tag).name.toList ∧
      '\n' ∉ (JavaType.ofTag tag).name.toList := by
    intro tag
    cases tag <;> decide
  rw [modelMembers, List.mem_append, List.mem_append, List.mem_map, List.mem_map,
    List.mem_map] at hm
  rcases hm with (⟨k, hk, rfl⟩ | ⟨a, ha, rfl⟩) | ⟨f, hf, rfl⟩
  · obtain ⟨tag, hjava⟩ := he.typed.key
    rw [IsWordy.eq_of_mem_addedKey hk, PrimaryKey.member, hjava]
    exact htag tag
  · obtain ⟨tag, hjava⟩ := he.typed.attributes a ha
    rw [Attribute.member, hjava]
    exact htag tag
  · have hblank := (he.relationships f hf).relatedType.notMem ' ' (by decide)
    have hend := (he.relationships f hf).relatedType.notMem '\n' (by decide)
    rw [RelationshipField.member, RelationshipField.type, RelationshipField.collection]
    cases f.kind with
    | manyToOne => exact ⟨hblank, hend⟩
    | oneToMany => exact ⟨by simp [Collection.list, toString_text, hblank],
        by simp [Collection.list, toString_text, hend]⟩
    | manyToMany => exact ⟨by simp [Collection.set, toString_text, hblank],
        by simp [Collection.set, toString_text, hend]⟩

/-- An entity whose members do not begin with capitals can be read. -/
lemma IsWordy.isLegible (he : e.IsWordy) (h : ∀ m ∈ e.modelMembers, IsSmall m.name) :
    e.IsLegible := by
  intro m hm
  exact ⟨he.notMem_type hm, (he.isWordy_of_mem_modelMembers hm).name, h m hm⟩

/-- The lines in which members are declared under annotations. -/
lemma textsOf_flatMap_declared {α : Type} (annotations : α → List String)
    (declaration : α → String) (l : List α) :
    Code.textsOf (l.flatMap fun a => declared (annotations a) (declaration a)) =
      l.flatMap fun a => "" :: (annotations a ++ [declaration a]) := by
  simp only [Code.textsOf_flatMap, textsOf_declared]

/-- They are not indented if neither annotations nor declarations are. -/
lemma isFlush_of_mem_flatMap {α : Type} {annotations : α → List String} {declaration : α → String}
    {l : List α} (hannotations : ∀ a ∈ l, ∀ t ∈ annotations a, Code.IsAnnotationLine t)
    (hdeclaration : ∀ a ∈ l, Code.IsFlush (declaration a)) :
    ∀ t ∈ l.flatMap fun a => "" :: (annotations a ++ [declaration a]), Code.IsFlush t := by
  intro t ht
  obtain ⟨a, ha, ht⟩ := List.mem_flatMap.mp ht
  rcases List.mem_cons.mp ht with rfl | ht
  · exact ⟨by decide, by decide⟩
  · rcases List.mem_append.mp ht with ht | ht
    · exact (hannotations a ha t ht).isFlush
    · rw [List.mem_singleton.mp ht]
      exact hdeclaration a ha

/-- No method is opened where members are declared. -/
lemma declaredMethod?_of_mem_flatMap {α : Type} {annotations : α → List String}
    {declaration : α → String} {l : List α}
    (hannotations : ∀ a ∈ l, ∀ t ∈ annotations a, Code.IsAnnotationLine t)
    (hdeclaration : ∀ a ∈ l, (declaration a).toList.getLast? ≠ some '\x7b') :
    ∀ t ∈ l.flatMap fun a => "" :: (annotations a ++ [declaration a]), ∀ below,
      Code.declaredMethod? t below = none := by
  intro t ht
  refine Code.declaredMethod?_eq_none ?_
  obtain ⟨a, ha, ht⟩ := List.mem_flatMap.mp ht
  rcases List.mem_cons.mp ht with rfl | ht
  · rfl
  · rcases List.mem_append.mp ht with ht | ht
    · refine Code.header?_eq_none_of_head? ?_
      rw [(hannotations a ha t ht).marked]
      decide
    · rw [List.mem_singleton.mp ht]
      exact Code.header?_eq_none_of_getLast? (hdeclaration a ha)

/-- The lines of methods that read and write members are not indented, and declare no field. -/
lemma isFlush_and_isSilent_of_mem_accessors {members : List Member}
    (h : ∀ m ∈ members, m.IsLegible) :
    ∀ t ∈ Code.textsOf (members.flatMap Member.accessors), Code.IsFlush t ∧ Code.IsSilent t := by
  intro t ht
  rw [Code.textsOf_flatMap] at ht
  obtain ⟨m, hm, ht⟩ := List.mem_flatMap.mp ht
  exact Code.isFlush_and_isSilent_accessors (h m hm) t ht

/-! ### Payloads -/

/-- A constraint is written on a line that begins like an annotation. -/
lemma isAnnotationLine_constraint (k : Constraint) : Code.IsAnnotationLine k.annotationLine := by
  cases k with
  | notNull => exact ⟨by decide, by decide⟩
  | notBlank => exact ⟨by decide, by decide⟩
  | size max =>
    have hdigits : '\n' ∉ (toString max).toList :=
      lineEnd_notMem_of_marks (marks_toString_uint32 max)
    exact ⟨by simp [Constraint.annotationLine, toString_text, hdigits],
      by simp [Constraint.annotationLine, toString_text]⟩

/-- So is everything that a payload requires of an attribute. -/
lemma isAnnotationLine_of_mem_constraintsOn {p : Payload} {a : Attribute} :
    ∀ t ∈ (p.constraintsOn a).map Constraint.annotationLine, Code.IsAnnotationLine t :=
  List.forall_mem_map.mpr fun k _ => isAnnotationLine_constraint k

/-- The head of a payload is written line by line. -/
lemma isClassHead_payload (he : e.IsWordy) (p : Payload) :
    Code.IsClassHead (e.layerPackage "dto") (e.payloadImports p) []
      s!"public class {e.typeName}{p.ending}" where
  head := by
    cases p with
    | request => exact ArtifactKind.lineEnd_notMem_head he .request
    | response => exact ArtifactKind.lineEnd_notMem_head he .response
  annotations := List.forall_mem_nil _
  header := by
    have hending : IsWordText p.ending := by cases p <;> decide
    exact ⟨e.typeName ++ p.ending, he.typeName.append hending, String.append_assoc⟩

/-- The lines that are written in the body of a payload. -/
lemma textsOf_payloadBody (e : Entity) (p : Payload) :
    Code.textsOf (e.payloadBody p) =
      (e.attributes.flatMap fun a =>
        "" :: ((p.constraintsOn a).map Constraint.annotationLine ++ [a.member.declaration])) ++
      Code.textsOf ((e.attributes.map Attribute.member).flatMap Member.accessors) := by
  rw [payloadBody, Code.textsOf_append, textsOf_flatMap_declared, List.flatMap_map]

section Payloads

variable (he : e.IsWordy) (hlegible : e.IsLegible) (p : Payload)

include hlegible

/-- These lines are read as they are written. -/
lemma codeLines_payloadBody :
    (Code.textsOf (e.payloadBody p)).flatMap Code.codeLines =
      (e.attributes.flatMap fun a =>
        "" :: ((p.constraintsOn a).map Constraint.annotationLine ++ [a.member.declaration])) ++
      Code.textsOf ((e.attributes.map Attribute.member).flatMap Member.accessors) := by
  rw [textsOf_payloadBody]
  refine Code.flatMap_codeLines (List.forall_mem_append.mpr ⟨?_, fun t ht => ?_⟩)
  · exact isFlush_of_mem_flatMap (fun a _ => isAnnotationLine_of_mem_constraintsOn)
      fun a ha => Code.isFlush_declaration (hlegible _ (member_mem_modelMembers ha))
  · exact (isFlush_and_isSilent_of_mem_accessors hlegible.attributes t ht).1

include he

/-- A payload declares the attributes of its entity, each under what it requires of them. -/
lemma fields_payload :
    Code.fields (Code.render (e.payloadFile p)) =
      e.attributes.map fun a => ⟨(p.constraintsOn a).map Constraint.annotationLine, a.member⟩ := by
  have hends : ∀ l ∈ ["\x7d", ""], Code.IsSilent l :=
    List.forall_mem_cons.mpr ⟨⟨rfl, rfl⟩, List.forall_mem_singleton.mpr ⟨rfl, rfl⟩⟩
  have hrest : ∀ l ∈ Code.textsOf ((e.attributes.map Attribute.member).flatMap Member.accessors) ++
      ["\x7d", ""], Code.IsSilent l :=
    List.forall_mem_append.mpr
      ⟨fun t ht => (isFlush_and_isSilent_of_mem_accessors hlegible.attributes t ht).2, hends⟩
  have hfile : Code.fields (Code.render (e.payloadFile p)) =
      Code.fieldsIn [] ((Code.textsOf (e.payloadBody p)).flatMap Code.codeLines ++ ["\x7d", ""]) :=
    (isClassHead_payload he p).fields_render
  have hdeclared : ∀ a ∈ e.attributes,
      Code.declaredMember? a.member.declaration = some a.member :=
    fun a ha => Code.declaredMember?_declaration (hlegible _ (member_mem_modelMembers ha))
  rw [hfile, codeLines_payloadBody hlegible, List.append_assoc,
    Code.fieldsIn_flatMap_declared
      (fun a _ t ht => (isAnnotationLine_of_mem_constraintsOn t ht).marked) hdeclared,
    Code.fieldsIn_eq_nil hrest, List.append_nil]

/-- A payload has the methods that read and write the attributes of its entity, and no others. -/
lemma methods_payload :
    Code.methods (Code.render (e.payloadFile p)) =
      Code.accessorMethods (e.attributes.map Attribute.member) := by
  have hfile : Code.methods (Code.render (e.payloadFile p)) =
      Code.methodsIn ((Code.textsOf (e.payloadBody p)).flatMap Code.codeLines ++ ["\x7d", ""]) :=
    (isClassHead_payload he p).methods_render
  have hfields : ∀ l ∈ e.attributes.flatMap fun a =>
      "" :: ((p.constraintsOn a).map Constraint.annotationLine ++ [a.member.declaration]),
      ∀ below, Code.declaredMethod? l below = none :=
    declaredMethod?_of_mem_flatMap (fun a _ => isAnnotationLine_of_mem_constraintsOn)
      fun a _ => Code.getLast?_append_ne _ (by decide)
  have hends : Code.methodsIn ["\x7d", ""] = [] := rfl
  rw [hfile, codeLines_payloadBody hlegible, List.append_assoc,
    Code.methodsIn_append_of_eq_none hfields,
    Code.methodsIn_flatMap_accessors hlegible.attributes, hends,
    List.append_nil]

/-- A payload declares every attribute once if no two attributes have one name. -/
lemma declaresOnce_payload (hnodup : (e.attributes.map Attribute.fieldName).Nodup) :
    Code.DeclaresOnce (Code.render (e.payloadFile p)) (e.attributes.map Attribute.member) := by
  have hnames : (e.attributes.map Attribute.member).map Member.name =
      e.attributes.map Attribute.fieldName := List.map_map
  have hfields : (Code.fields (Code.render (e.payloadFile p))).map Field.member =
      e.attributes.map Attribute.member := by
    rw [fields_payload he hlegible p, List.map_map]
    rfl
  exact Code.declaresOnce hlegible.attributes (hnames ▸ hnodup) hfields
    (methods_payload he hlegible p)

/-- A payload reads and writes the attributes through methods of its own. -/
lemma hasAccessors_payload :
    Code.HasAccessors (Code.render (e.payloadFile p)) (e.attributes.map Attribute.member) where
  legible := hlegible.attributes
  last := ⟨[], methods_payload he hlegible p⟩

end Payloads

/-! ### The model -/

/-- The annotations of an attribute in the model. -/
def attributeAnnotations (e : Entity) (a : Attribute) : List String :=
  if a.isPrimaryKey then e.primaryKey.annotations else a.columnAnnotations

/-- The annotations of a key are lines that begin like annotations. -/
lemma isAnnotationLine_of_mem_keyAnnotations (k : PrimaryKey) :
    ∀ t ∈ k.annotations, Code.IsAnnotationLine t := by
  rw [PrimaryKey.annotations]
  refine List.forall_mem_cons.mpr ⟨⟨by decide, by decide⟩, ?_⟩
  split_ifs
  · exact List.forall_mem_singleton.mpr ⟨by decide, by decide⟩
  · exact List.forall_mem_nil _

/-- So are those of an attribute. -/
lemma isAnnotationLine_of_mem_attributeAnnotations (a : Attribute) :
    ∀ t ∈ e.attributeAnnotations a, Code.IsAnnotationLine t := by
  rw [attributeAnnotations]
  split_ifs
  · exact isAnnotationLine_of_mem_keyAnnotations e.primaryKey
  · intro t ht
    refine ⟨(a.isPlain_of_mem_columnAnnotations t ht).oneLine, ?_⟩
    rw [Attribute.columnAnnotations] at ht
    split_ifs at ht
    · exact absurd ht List.not_mem_nil
    · rw [List.mem_singleton.mp ht]
      simp

/-- So are those of a relationship field if no line end is in the name of its column or table. -/
lemma isAnnotationLine_of_mem_annotations {f : RelationshipField} (hf : f.IsWordy)
    (he : e.IsWordy) (hjoin : '\n' ∉ f.joinName.toList) :
    ∀ t ∈ f.annotations e.typeName, Code.IsAnnotationLine t := by
  intro t ht
  refine ⟨(hf.isPlain_of_mem_annotations he.typeName hjoin t ht).oneLine, ?_⟩
  revert t
  rw [RelationshipField.annotations]
  cases f.kind with
  | manyToOne =>
    exact List.forall_mem_cons.mpr
      ⟨by decide, List.forall_mem_singleton.mpr (by simp [toString_text])⟩
  | oneToMany => exact List.forall_mem_singleton.mpr (by simp [toString_text])
  | manyToMany =>
    cases f.side with
    | owning =>
      exact List.forall_mem_cons.mpr
        ⟨by decide, List.forall_mem_singleton.mpr (by simp [toString_text])⟩
    | inverse => exact List.forall_mem_singleton.mpr (by simp [toString_text])

/-- The key as a field of the model, if it is added. -/
def keyFields (e : Entity) : List Field :=
  e.addedKey.map fun k => ⟨k.annotations, k.member⟩

/-- The attributes as fields of the model. -/
def attributeFields (e : Entity) : List Field :=
  e.attributes.map fun a => ⟨e.attributeAnnotations a, a.member⟩

/-- The lines of a model that declare its key, if that is added, and its attributes. -/
def ownLines (e : Entity) : List String :=
  (e.addedKey.flatMap fun k => "" :: (k.annotations ++ [k.member.declaration])) ++
    e.attributes.flatMap fun a => "" :: (e.attributeAnnotations a ++ [a.member.declaration])

/-- The texts that declare the relationship fields of a model. -/
def relationshipTexts (e : Entity) : List String :=
  e.relationships.flatMap fun f => "" :: (f.annotations e.typeName ++ [f.declaration])

/-- The lines that open and close the constructor of a model. -/
def constructorLines (e : Entity) : List String :=
  ["", s!"public {e.typeName}()" ++ " \x7b", "\x7d"]

/-- The head of a model is written line by line. -/
lemma isClassHead_model (he : e.IsWordy) :
    Code.IsClassHead (e.layerPackage "model") e.modelImports ["@Entity"]
      s!"public class {e.typeName}" where
  head := ArtifactKind.lineEnd_notMem_head he .model
  annotations := List.forall_mem_singleton.mpr ⟨by decide, by decide⟩
  header := ⟨e.typeName, he.typeName, rfl⟩

/-- Without line ends in the names of joins, relationship fields are declared line by line. -/
lemma isFlush_of_mem_relationshipTexts (he : e.IsWordy) (hjoins : e.JoinsOneLine) :
    ∀ t ∈ e.relationshipTexts, Code.IsFlush t := by
  refine isFlush_of_mem_flatMap (fun f hf =>
    isAnnotationLine_of_mem_annotations (he.relationships f hf) he (hjoins f hf)) fun f hf => ?_
  refine ⟨((he.relationships f hf).isPlain_declaration).oneLine, ?_⟩
  rw [RelationshipField.declaration]
  cases f.collection with
  | none => simp [Member.declaration, toString_text]
  | some c => simp [Member.declarationWith, toString_text]

/-- The constructor of a model is no method. -/
lemma declaredMethod?_of_mem_constructorLines (he : e.IsWordy) :
    ∀ l ∈ e.constructorLines, ∀ below, Code.declaredMethod? l below = none := by
  have hbegins : Code.beginsMember s!"public {e.typeName}()" := by
    simp [Code.beginsMember, toString_text]
  have hlist : (s!"public {e.typeName}()").toList =
      "public".toList ++ ' ' :: (e.typeName.toList ++ "()".toList) := by
    simp [toString_text]
  have hpublic : ' ' ∉ "public".toList := by decide
  have hblank : ' ' ∉ e.typeName.toList ++ "()".toList := by
    simp [he.typeName.notMem ' ' (by decide)]
  have hopening : ∀ below,
      Code.declaredMethod? (s!"public {e.typeName}()" ++ " \x7b") below = none := by
    refine Code.declaredMethod?_eq_none_of_header (Code.header?_append_brace hbegins) ?_
    intro word rest hword type rest' htype
    rw [hlist, Code.cut?_append hpublic] at hword
    cases hword
    rw [Code.cut?_eq_none hblank] at htype
    cases htype
  exact List.forall_mem_cons.mpr ⟨Code.declaredMethod?_eq_none rfl, List.forall_mem_cons.mpr
    ⟨hopening, List.forall_mem_singleton.mpr (Code.declaredMethod?_eq_none rfl)⟩⟩

/-- Where a model declares its key and its attributes no method is opened. -/
lemma declaredMethod?_of_mem_ownLines :
    ∀ l ∈ e.ownLines, ∀ below, Code.declaredMethod? l below = none := by
  refine List.forall_mem_append.mpr ⟨?_, ?_⟩
  · exact declaredMethod?_of_mem_flatMap (fun k _ => isAnnotationLine_of_mem_keyAnnotations k)
      fun k _ => Code.getLast?_append_ne _ (by decide)
  · exact declaredMethod?_of_mem_flatMap
      (fun a _ => isAnnotationLine_of_mem_attributeAnnotations a)
      fun a _ => Code.getLast?_append_ne _ (by decide)

/-- Nor is one where it declares relationship fields line by line. -/
lemma declaredMethod?_of_mem_relationshipTexts (he : e.IsWordy) (hjoins : e.JoinsOneLine) :
    ∀ l ∈ e.relationshipTexts, ∀ below, Code.declaredMethod? l below = none := by
  refine declaredMethod?_of_mem_flatMap (fun f hf =>
    isAnnotationLine_of_mem_annotations (he.relationships f hf) he (hjoins f hf)) fun f _ => ?_
  rw [RelationshipField.declaration]
  cases f.collection with
  | none => exact Code.getLast?_append_ne _ (by decide)
  | some c => exact Code.getLast?_append_ne _ (by decide)

section Model

variable (he : e.IsWordy) (hlegible : e.IsLegible)

include hlegible

/-- The added key is legible like the other members. -/
lemma isLegible_of_mem_addedKey {k : PrimaryKey} (hk : k ∈ e.addedKey) : k.member.IsLegible :=
  hlegible _ (List.mem_append_left _ (List.mem_append_left _ (List.mem_map_of_mem hk)))

/-- So are relationship fields. -/
lemma isLegible_of_mem_relationships {f : RelationshipField} (hf : f ∈ e.relationships) :
    f.member.IsLegible :=
  hlegible _ (List.mem_append_right _ (List.mem_map_of_mem hf))

/-- The declaration of a relationship field declares it. -/
lemma declaredMember?_relationship {f : RelationshipField} (hf : f ∈ e.relationships) :
    Code.declaredMember? f.declaration = some f.member := by
  have hm := isLegible_of_mem_relationships hlegible hf
  rw [RelationshipField.declaration]
  cases f.collection with
  | none => exact Code.declaredMember?_declaration hm
  | some c => exact Code.declaredMember?_declarationWith hm c.implementation

/-- The lines that declare the key and the attributes of a model are not indented. -/
lemma isFlush_of_mem_ownLines : ∀ t ∈ e.ownLines, Code.IsFlush t := by
  refine List.forall_mem_append.mpr ⟨?_, ?_⟩
  · exact isFlush_of_mem_flatMap (fun k _ => isAnnotationLine_of_mem_keyAnnotations k)
      fun k hk => Code.isFlush_declaration (isLegible_of_mem_addedKey hlegible hk)
  · exact isFlush_of_mem_flatMap (fun a _ => isAnnotationLine_of_mem_attributeAnnotations a)
      fun a ha => Code.isFlush_declaration (hlegible _ (member_mem_modelMembers ha))

/-- They declare the key and the attributes. -/
lemma fieldsIn_ownLines_append (lines : List String) :
    Code.fieldsIn [] (e.ownLines ++ lines) =
      e.keyFields ++ e.attributeFields ++ Code.fieldsIn [] lines := by
  have hkey : ∀ k ∈ e.addedKey, Code.declaredMember? k.member.declaration = some k.member :=
    fun k hk => Code.declaredMember?_declaration (isLegible_of_mem_addedKey hlegible hk)
  have hattribute : ∀ a ∈ e.attributes,
      Code.declaredMember? a.member.declaration = some a.member :=
    fun a ha => Code.declaredMember?_declaration (hlegible _ (member_mem_modelMembers ha))
  rw [ownLines, List.append_assoc,
    Code.fieldsIn_flatMap_declared
      (fun k _ t ht => (isAnnotationLine_of_mem_keyAnnotations k t ht).marked) hkey,
    Code.fieldsIn_flatMap_declared
      (fun a _ t ht => (isAnnotationLine_of_mem_attributeAnnotations a t ht).marked) hattribute,
    keyFields, attributeFields, List.append_assoc]

include he

/-- The lines in the body of a model. -/
lemma codeLines_modelBody :
    (Code.textsOf e.modelBody).flatMap Code.codeLines =
      e.ownLines ++ (e.relationshipTexts.flatMap Code.codeLines ++
        (e.constructorLines ++ Code.textsOf (e.modelMembers.flatMap Member.accessors))) := by
  have htexts : Code.textsOf e.modelBody =
      e.ownLines ++ (e.relationshipTexts ++
        (e.constructorLines ++ Code.textsOf (e.modelMembers.flatMap Member.accessors))) := by
    have hattributes : Code.textsOf (e.attributes.flatMap e.modelAttribute) =
        e.attributes.flatMap fun a => "" :: (e.attributeAnnotations a ++ [a.member.declaration]) :=
      textsOf_flatMap_declared e.attributeAnnotations (fun a => a.member.declaration) e.attributes
    simp only [modelBody, Code.textsOf_append, textsOf_flatMap_declared, hattributes, ownLines,
      relationshipTexts, List.append_assoc]
    rfl
  have hconstructor : ∀ t ∈ e.constructorLines, Code.IsFlush t := by
    have hname := he.typeName.notMem '\n' (by decide)
    refine List.forall_mem_cons.mpr ⟨⟨by decide, by decide⟩, List.forall_mem_cons.mpr ⟨?_,
      List.forall_mem_singleton.mpr ⟨by decide, by decide⟩⟩⟩
    exact ⟨by simp [toString_text, hname], by simp [toString_text]⟩
  have haccessors : ∀ t ∈ Code.textsOf (e.modelMembers.flatMap Member.accessors),
      Code.IsFlush t :=
    fun t ht => (isFlush_and_isSilent_of_mem_accessors hlegible t ht).1
  rw [htexts, List.flatMap_append, List.flatMap_append, List.flatMap_append,
    Code.flatMap_codeLines (isFlush_of_mem_ownLines hlegible),
    Code.flatMap_codeLines hconstructor, Code.flatMap_codeLines haccessors]

/-- A model declares its key, if that is added, and its attributes before everything else. Without
line ends in the names of joins, the relationship fields follow and nothing else does. -/
lemma fields_model :
    ∃ others, Code.fields (ArtifactKind.model.render e) =
        e.keyFields ++ e.attributeFields ++ others ∧
      (e.JoinsOneLine →
        others = e.relationships.map fun f => ⟨f.annotations e.typeName, f.member⟩) := by
  have hfile : Code.fields (ArtifactKind.model.render e) =
      Code.fieldsIn [] ((Code.textsOf e.modelBody).flatMap Code.codeLines ++ ["\x7d", ""]) :=
    (isClassHead_model he).fields_render
  have hends : ∀ l ∈ ["\x7d", ""], Code.IsSilent l :=
    List.forall_mem_cons.mpr ⟨⟨rfl, rfl⟩, List.forall_mem_singleton.mpr ⟨rfl, rfl⟩⟩
  have hconstructor : ∀ l ∈ e.constructorLines, Code.IsSilent l :=
    List.forall_mem_cons.mpr ⟨⟨rfl, rfl⟩, List.forall_mem_cons.mpr
      ⟨Code.isSilent_of_take (by simp [toString_text]), List.forall_mem_singleton.mpr ⟨rfl, rfl⟩⟩⟩
  have hrest : ∀ l ∈ e.constructorLines ++
      Code.textsOf (e.modelMembers.flatMap Member.accessors) ++ ["\x7d", ""], Code.IsSilent l :=
    List.forall_mem_append.mpr ⟨List.forall_mem_append.mpr ⟨hconstructor,
      fun t ht => (isFlush_and_isSilent_of_mem_accessors hlegible t ht).2⟩, hends⟩
  rw [hfile, codeLines_modelBody he hlegible, List.append_assoc,
    fieldsIn_ownLines_append hlegible, List.append_assoc (e.relationshipTexts.flatMap _)]
  refine ⟨_, rfl, fun hjoins => ?_⟩
  rw [Code.flatMap_codeLines (isFlush_of_mem_relationshipTexts he hjoins),
    relationshipTexts, Code.fieldsIn_flatMap_declared
      (fun f hf t ht => (isAnnotationLine_of_mem_annotations (he.relationships f hf) he
        (hjoins f hf) t ht).marked)
      fun f hf => declaredMember?_relationship hlegible hf,
    Code.fieldsIn_eq_nil hrest, List.append_nil]

/-- A model has the methods that read and write its members behind all others. Without line ends in
the names of joins, it has no others. -/
lemma methods_model :
    ∃ others, Code.methods (ArtifactKind.model.render e) =
        others ++ Code.accessorMethods e.modelMembers ∧
      (e.JoinsOneLine → others = []) := by
  have hfile : Code.methods (ArtifactKind.model.render e) =
      Code.methodsIn ((Code.textsOf e.modelBody).flatMap Code.codeLines ++ ["\x7d", ""]) :=
    (isClassHead_model he).methods_render
  have hends : Code.methodsIn ["\x7d", ""] = [] := rfl
  have hlast : Code.methodsIn (Code.textsOf (e.modelMembers.flatMap Member.accessors) ++
      ["\x7d", ""]) = Code.accessorMethods e.modelMembers := by
    rw [Code.methodsIn_flatMap_accessors hlegible, hends, List.append_nil]
  rw [hfile, codeLines_modelBody he hlegible, List.append_assoc, List.append_assoc,
    List.append_assoc]
  by_cases hjoins : e.JoinsOneLine
  · refine ⟨[], ?_, fun _ => rfl⟩
    rw [Code.flatMap_codeLines (isFlush_of_mem_relationshipTexts he hjoins),
      Code.methodsIn_append_of_eq_none declaredMethod?_of_mem_ownLines,
      Code.methodsIn_append_of_eq_none (declaredMethod?_of_mem_relationshipTexts he hjoins),
      Code.methodsIn_append_of_eq_none (declaredMethod?_of_mem_constructorLines he), hlast,
      List.nil_append]
  · obtain ⟨others, hothers⟩ := Code.exists_methodsIn_append
      (e.ownLines ++ (e.relationshipTexts.flatMap Code.codeLines ++ e.constructorLines))
      (Code.textsOf (e.modelMembers.flatMap Member.accessors) ++ ["\x7d", ""])
    refine ⟨others, ?_, fun h => absurd h hjoins⟩
    rw [← hlast, ← hothers, List.append_assoc, List.append_assoc]

/-- A model reads and writes its members through methods of its own. -/
lemma hasAccessors_model :
    Code.HasAccessors (ArtifactKind.model.render e) e.modelMembers := by
  obtain ⟨others, hmethods, -⟩ := methods_model he hlegible
  exact ⟨hlegible, others, hmethods⟩

end Model

end Entity

end CrudScaffold

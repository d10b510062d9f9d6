import CrudScaffold.Proofs.Artifact.TypeFile
import CrudScaffold.Proofs.Java.Token
import CrudScaffold.Proofs.Naming.WordText

/-!
# The files of an entity can be read

An entity is made of names that consist of letters and digits, of a package and of types from a
fixed list, and none of these has a mark in it. So the marks of a line of a file are those of the
line with all names left out, and these are seen by looking at them. The one thing of another kind
in an entity is the name of a join table, which the model writes between two quotes.
-/

namespace CrudScaffold

open Naming

/-! ### What has no marks -/

/-- Letters and digits are not marks. -/
lemma Scan.isMark_of_isWordChar {c : Char} (h : isWordChar c) : isMark c = false := by
  have hmarks : ['"', '\\', '\n', '\r', '\x7b', '\x7d', '(', ')', '\x27', '/'].all
      fun d => !isWordChar d := by decide
  rw [isMark, decide_eq_false_iff_not]
  intro hc
  have hnot := List.all_eq_true.mp hmarks c hc
  rw [h] at hnot
  exact Bool.false_ne_true hnot

/-- A text of letters and digits has no marks. -/
lemma Naming.IsWordText.marks_eq_nil {s : String} (h : IsWordText s) : marks s = [] := by
  rw [marks, List.filter_eq_nil_iff]
  intro c hc
  rw [Scan.isMark_of_isWordChar (h c hc)]
  exact Bool.false_ne_true

/-- A text without marks fits between quotes. -/
lemma fitsText_of_marks_eq_nil {t : String} (h : marks t = []) : FitsText t := by
  have hmarks : ['"', '\\', '\n', '\r'].all Scan.isMark := by decide
  exact fun c hc hmem => List.filter_eq_nil_iff.mp h c hc (List.all_eq_true.mp hmarks c hmem)

@[simp] lemma marks_toString_uint32 (n : UInt32) : marks (toString n) = [] :=
  (isWordText_toString n.toNat).marks_eq_nil

/-- The types of attributes have no marks. -/
lemma JavaType.marks_ofTag (tag : TypeTag) : marks (ofTag tag).name = [] := by
  cases tag <;> decide

/-! ### Members -/

/-- A member whose type has no marks and whose name consists of letters and digits. -/
structure Member.IsWordy (m : Member) : Prop where
  type : marks m.type = []
  name : IsWordText m.name

namespace Member.IsWordy

variable {m : Member}

/-- Its declaration can be read. -/
lemma tokenizes_declaration (h : m.IsWordy) : Tokenizes m.declaration := by
  simp only [declaration, tokenizes_iff_marks, marks_append, marks_toString, h.type,
    h.name.marks_eq_nil]
  repeat rw [marks_ofList]
  decide

/-- So can the declaration of a collection. -/
lemma tokenizes_declarationWith (h : m.IsWordy) {collection : String}
    (hcollection : marks collection = []) : Tokenizes (m.declarationWith collection) := by
  simp only [declarationWith, tokenizes_iff_marks, marks_append, marks_toString, h.type,
    h.name.marks_eq_nil, hcollection]
  repeat rw [marks_ofList]
  decide

/-- So can its methods. -/
lemma isClean_accessors (h : m.IsWordy) : ∀ c ∈ m.accessors, c.IsClean := by
  simp only [accessors, reader, writer, getter, setter, List.forall_mem_cons, List.not_mem_nil,
    false_implies, implies_true, Code.isClean_line, Code.isClean_braces, Code.isClean_blank,
    tokenizes_iff_marks, marks_append, marks_toString, h.type, h.name.marks_eq_nil,
    h.name.upperFirst.marks_eq_nil]
  repeat rw [marks_ofList]
  decide

end Member.IsWordy

/-! ### Relationship fields -/

/-- A relationship field all of whose names consist of letters and digits. The name of a join table
is not among them. -/
structure RelationshipField.IsWordy (f : RelationshipField) : Prop where
  relatedType : IsWordText f.relatedType
  fieldName : IsWordText f.fieldName
  mappingField : IsWordText f.mappingField
  column : f.kind = .manyToOne → marks f.joinName = []

/-- A field that a join table is written for. -/
def RelationshipField.OwnsTable (f : RelationshipField) : Prop :=
  f.kind = .manyToMany ∧ f.side = .owning

/-- Between its quotes the line of a join table takes every name that fits. -/
lemma tokenizes_joinTable {table own other : String} (htable : FitsText table)
    (hown : marks own = []) (hother : marks other = []) :
    Tokenizes (s!"@JoinTable(name = \"{table}\", joinColumns = @JoinColumn(name = \"{own}\"), "
      ++ s!"inverseJoinColumns = @JoinColumn(name = \"{other}\"))") := by
  change Tokenizes ("@JoinTable(name = \"" ++ table ++ "\", joinColumns = @JoinColumn(name = \"" ++
    own ++ "\"), " ++ ("inverseJoinColumns = @JoinColumn(name = \"" ++ other ++ "\"))"))
  have hbefore : (Scan.code []).run (marks "@JoinTable(name = \"") = some (.text [')']) := by
    repeat rw [marks_ofList]
    decide
  simp only [String.append_assoc]
  refine tokenizes_fill hbefore htable ?_
  simp only [marks_append, hown, hother]
  repeat rw [marks_ofList]
  decide

namespace RelationshipField.IsWordy

variable {f : RelationshipField}

/-- It is declared as a member like others. -/
lemma isWordy_member (h : f.IsWordy) : f.member.IsWordy := by
  refine ⟨?_, h.fieldName⟩
  change marks f.type = []
  rw [type, collection]
  cases f.kind with
  | manyToOne => exact h.relatedType.marks_eq_nil
  | oneToMany =>
    simp only [Collection.list, marks_append, marks_toString, h.relatedType.marks_eq_nil]
    repeat rw [marks_ofList]
    decide
  | manyToMany =>
    simp only [Collection.set, marks_append, marks_toString, h.relatedType.marks_eq_nil]
    repeat rw [marks_ofList]
    decide

/-- Its declaration can be read. -/
lemma tokenizes_declaration (h : f.IsWordy) : Tokenizes f.declaration := by
  rw [declaration, collection]
  cases f.kind with
  | manyToOne => exact h.isWordy_member.tokenizes_declaration
  | oneToMany => exact h.isWordy_member.tokenizes_declarationWith (by decide)
  | manyToMany => exact h.isWordy_member.tokenizes_declarationWith (by decide)

/-- The columns of a join table have no marks. -/
lemma marks_joinColumns (h : f.IsWordy) {own : String} (hown : IsWordText own) :
    marks (f.joinColumns own).1 = [] ∧ marks (f.joinColumns own).2 = [] := by
  have hcolumn : marks "_id" = [] := by decide
  have hrelated : marks "related_" = [] := by decide
  rw [joinColumns]
  constructor
  · rw [marks_append, hown.lowercase.marks_eq_nil, hcolumn]
    rfl
  · split_ifs
    · rw [marks_append, marks_append, h.relatedType.lowercase.marks_eq_nil, hrelated, hcolumn]
      rfl
    · rw [marks_append, h.relatedType.lowercase.marks_eq_nil, hcolumn]
      rfl

/-- The annotations can be read if the name of the join table fits between quotes. -/
lemma tokenizes_of_mem_annotations (h : f.IsWordy) {own : String} (hown : IsWordText own)
    (htable : f.OwnsTable → FitsText f.joinName) : ∀ a ∈ f.annotations own, Tokenizes a := by
  rw [annotations]
  cases hkind : f.kind with
  | manyToOne =>
    simp only [List.forall_mem_cons, List.not_mem_nil, false_implies, implies_true,
      tokenizes_iff_marks, marks_append, marks_toString, h.column hkind]
    repeat rw [marks_ofList]
    decide
  | oneToMany =>
    simp only [List.forall_mem_cons, List.not_mem_nil, false_implies, implies_true,
      tokenizes_iff_marks, marks_append, marks_toString, h.mappingField.marks_eq_nil]
    repeat rw [marks_ofList]
    decide
  | manyToMany =>
    cases hside : f.side with
    | owning =>
      refine List.forall_mem_cons.mpr ⟨by decide, List.forall_mem_singleton.mpr ?_⟩
      obtain ⟨hcolumn, hother⟩ := h.marks_joinColumns hown
      exact tokenizes_joinTable (htable ⟨hkind, hside⟩) hcolumn hother
    | inverse =>
      simp only [List.forall_mem_cons, List.not_mem_nil, false_implies, implies_true,
        tokenizes_iff_marks, marks_append, marks_toString, h.mappingField.marks_eq_nil]
      repeat rw [marks_ofList]
      decide

end RelationshipField.IsWordy

/-! ### Attributes -/

namespace Attribute

/-- What is required of a column can be read. -/
lemma tokenizes_of_mem_columnAnnotations (a : Attribute) :
    ∀ line ∈ a.columnAnnotations, Tokenizes line := by
  have hlimit : ∀ n : UInt32, marks s!"length = {n}" = [] := by
    intro n
    simp only [marks_append, marks_toString_uint32]
    decide
  rw [columnAnnotations, columnRules]
  match a.isRequired, a.textLimit with
  | false, none => exact List.forall_mem_nil _
  | true, none => exact List.forall_mem_singleton.mpr (by decide)
  | false, some n =>
    refine List.forall_mem_singleton.mpr ?_
    change Tokenizes ("@Column(" ++ s!"length = {n}" ++ ")")
    rw [tokenizes_iff_marks, marks_append, marks_append, hlimit]
    repeat rw [marks_ofList]
    decide
  | true, some n =>
    refine List.forall_mem_singleton.mpr ?_
    change Tokenizes ("@Column(" ++ ("nullable = false" ++ ", " ++ s!"length = {n}") ++ ")")
    rw [tokenizes_iff_marks, marks_append, marks_append, marks_append, hlimit]
    repeat rw [marks_ofList]
    decide

end Attribute

/-- The annotation of a constraint can be read. -/
lemma Constraint.tokenizes_annotationLine (k : Constraint) : Tokenizes k.annotationLine := by
  cases k with
  | notNull => decide
  | notBlank => decide
  | size max =>
    simp only [annotationLine, tokenizes_iff_marks, marks_append, marks_toString_uint32]
    decide

/-! ### Entities -/

namespace Entity

/-- An entity all of whose names consist of letters and digits, in a package without marks and with
types that tags stand for. -/
structure IsWordy (e : Entity) : Prop where
  package : marks e.package = []
  typeName : IsWordText e.typeName
  typed : e.IsTyped
  attributes : ∀ a ∈ e.attributes, IsWordText a.fieldName
  key : IsWordText e.primaryKey.fieldName
  relationships : ∀ f ∈ e.relationships, f.IsWordy

/-- The names of the join tables that the model of an entity writes fit between quotes. -/
def TablesFit (e : Entity) : Prop := ∀ f ∈ e.relationships, f.OwnsTable → FitsText f.joinName

/-- Lines that can be read one by one can be declared together. -/
lemma isClean_declared {annotations : List String} {declaration : String}
    (hannotations : ∀ a ∈ annotations, Tokenizes a) (hdeclaration : Tokenizes declaration) :
    ∀ c ∈ declared annotations declaration, c.IsClean := by
  refine List.forall_mem_cons.mpr ⟨Code.isClean_blank, List.forall_mem_map.mpr fun a ha => .line ?_⟩
  rcases List.mem_append.mp ha with ha | ha
  · exact hannotations a ha
  · exact List.mem_singleton.mp ha ▸ hdeclaration

namespace IsWordy

variable {e : Entity}

/-- The type of the key has no marks. -/
lemma marks_keyType (he : e.IsWordy) : marks e.primaryKey.java.name = [] := by
  obtain ⟨tag, htag⟩ := he.typed.key
  exact htag ▸ JavaType.marks_ofTag tag

/-- The key is a member like others. -/
lemma isWordy_key (he : e.IsWordy) : e.primaryKey.member.IsWordy :=
  ⟨he.marks_keyType, he.key⟩

/-- The attributes are members like others. -/
lemma isWordy_attribute (he : e.IsWordy) {a : Attribute} (ha : a ∈ e.attributes) :
    a.member.IsWordy := by
  obtain ⟨tag, htag⟩ := he.typed.attributes a ha
  refine ⟨?_, he.attributes a ha⟩
  change marks a.java.name = []
  exact htag ▸ JavaType.marks_ofTag tag

/-- The key that is added to the attributes is the key of the entity. -/
lemma eq_of_mem_addedKey {k : PrimaryKey} (hk : k ∈ e.addedKey) : k = e.primaryKey := by
  rw [addedKey] at hk
  split_ifs at hk
  · exact List.mem_singleton.mp hk
  · exact absurd hk List.not_mem_nil

/-- All members of the model are alike. -/
lemma isWordy_of_mem_modelMembers (he : e.IsWordy) {m : Member} (hm : m ∈ e.modelMembers) :
    m.IsWordy := by
  rw [modelMembers, List.mem_append, List.mem_append, List.mem_map, List.mem_map,
    List.mem_map] at hm
  rcases hm with (⟨k, hk, rfl⟩ | ⟨a, ha, rfl⟩) | ⟨f, hf, rfl⟩
  · exact eq_of_mem_addedKey hk ▸ he.isWordy_key
  · exact he.isWordy_attribute ha
  · exact (he.relationships f hf).isWordy_member

/-! The bodies of the files -/

/-- The annotations of the key can be read. -/
lemma tokenizes_of_mem_keyAnnotations (k : PrimaryKey) : ∀ a ∈ k.annotations, Tokenizes a := by
  rw [PrimaryKey.annotations]
  split_ifs <;> decide

/-- The body of the model can be read if the names of its join tables fit between quotes. -/
lemma isClean_modelBody (he : e.IsWordy) (htables : e.TablesFit) :
    ∀ c ∈ e.modelBody, c.IsClean := by
  intro c hc
  simp only [modelBody, List.mem_append, List.mem_flatMap] at hc
  rcases hc with (((⟨k, hk, hc⟩ | ⟨a, ha, hc⟩) | ⟨f, hf, hc⟩) | hc) | ⟨m, hm, hc⟩
  · rw [eq_of_mem_addedKey hk] at hc
    exact isClean_declared (tokenizes_of_mem_keyAnnotations e.primaryKey)
      he.isWordy_key.tokenizes_declaration c hc
  · refine isClean_declared ?_ (he.isWordy_attribute ha).tokenizes_declaration c hc
    split_ifs
    · exact tokenizes_of_mem_keyAnnotations e.primaryKey
    · exact a.tokenizes_of_mem_columnAnnotations
  · have hwordy := he.relationships f hf
    exact isClean_declared (hwordy.tokenizes_of_mem_annotations he.typeName (htables f hf))
      hwordy.tokenizes_declaration c hc
  · revert c
    simp only [List.forall_mem_cons, List.not_mem_nil, false_implies, implies_true,
      Code.isClean_braces, Code.isClean_blank, tokenizes_iff_marks, marks_append, marks_toString,
      he.typeName.marks_eq_nil]
    repeat rw [marks_ofList]
    decide
  · exact (he.isWordy_of_mem_modelMembers hm).isClean_accessors c hc

/-- A payload can be read. -/
lemma isClean_payload (he : e.IsWordy) (p : Payload) :
    Code.IsClean (.braces s!"public class {e.typeName}{p.ending}" (e.payloadBody p)) := by
  have hending : marks p.ending = [] := by cases p <;> decide
  refine Code.isClean_braces.mpr ⟨?_, fun c hc => ?_⟩
  · simp only [tokenizes_iff_marks, marks_append, marks_toString, he.typeName.marks_eq_nil, hending]
    repeat rw [marks_ofList]
    decide
  · simp only [payloadBody, List.mem_append, List.mem_flatMap] at hc
    rcases hc with ⟨a, ha, hc⟩ | ⟨a, ha, hc⟩
    · refine isClean_declared (fun line hline => ?_)
        (he.isWordy_attribute ha).tokenizes_declaration c hc
      obtain ⟨k, -, rfl⟩ := List.mem_map.mp hline
      exact k.tokenizes_annotationLine
    · exact (he.isWordy_attribute ha).isClean_accessors c hc

/-- A method that copies the attributes of an entity can be read. -/
lemma isClean_conversion (he : e.IsWordy) {method sourceType source targetType target : String}
    (hmethod : marks method = []) (hsourceType : marks sourceType = [])
    (hsource : marks source = []) (htargetType : marks targetType = [])
    (htarget : marks target = []) :
    (e.conversion method sourceType source targetType target).IsClean := by
  refine Code.isClean_braces.mpr ⟨?_, List.forall_mem_cons.mpr ⟨?_, ?_⟩⟩
  · simp only [tokenizes_iff_marks, marks_append, marks_toString, hmethod, hsourceType, hsource,
      htargetType]
    repeat rw [marks_ofList]
    decide
  · simp only [Code.isClean_line, tokenizes_iff_marks, marks_append, marks_toString, htargetType,
      htarget]
    repeat rw [marks_ofList]
    decide
  · refine List.forall_mem_append.mpr ⟨List.forall_mem_map.mpr fun a ha => ?_, ?_⟩
    · have hfield := (he.attributes a ha).upperFirst.marks_eq_nil
      simp only [copyField, setter, getter, Code.isClean_line, tokenizes_iff_marks, marks_append,
        marks_toString, hsource, htarget, hfield]
      repeat rw [marks_ofList]
      decide
    · simp only [List.forall_mem_singleton, Code.isClean_line, tokenizes_iff_marks, marks_append,
        marks_toString, htarget]
      repeat rw [marks_ofList]
      decide

end IsWordy

end Entity

namespace ArtifactKind

variable {e : Entity}

/-- The name of a layer has no marks. -/
lemma marks_layer (kind : ArtifactKind) : marks kind.layer = [] := by
  cases kind <;> decide

/-- The types of an entity have names of letters and digits. -/
lemma isWordText_stem (he : e.IsWordy) (kind : ArtifactKind) :
    IsWordText (kind.stem e.typeName) := by
  have hending : IsWordText kind.ending := by cases kind <;> decide
  exact he.typeName.append hending

/-- The full name of a type of an entity has no marks. -/
lemma marks_ownType (he : e.IsWordy) (kind : ArtifactKind) : marks (ownType e kind) = [] := by
  simp only [ownType, Entity.qualified, marks_append, marks_toString, he.package, kind.marks_layer,
    (isWordText_stem he kind).marks_eq_nil]
  decide

/-- What a file of an entity imports has no marks. -/
lemma marks_of_mem_imports (he : e.IsWordy) (kind : ArtifactKind) :
    ∀ i ∈ kind.imports e, marks i = [] := by
  refine kind.forall_mem_imports he.typed (marks_ownType he) ?_ (by decide)
  cases kind <;> decide

/-- The code of a file of an entity can be read behind its head. -/
lemma isClean_file (he : e.IsWordy) (kind : ArtifactKind) {code : List Code}
    (hcode : ∀ c ∈ code, c.IsClean) :
    ∀ c ∈ preamble (e.layerPackage kind.layer) (kind.imports e) ++ code, c.IsClean := by
  have hpackage : marks (e.layerPackage kind.layer) = [] := by
    simp only [Entity.layerPackage, marks_append, marks_toString, he.package, kind.marks_layer]
    repeat rw [marks_ofList]
    decide
  exact List.forall_mem_append.mpr
    ⟨Code.isClean_preamble hpackage (kind.marks_of_mem_imports he), hcode⟩

/-- The code of a model can be read if the names of its join tables fit between quotes. -/
lemma isClean_model (he : e.IsWordy) (htables : e.TablesFit) : ∀ c ∈ model.code e, c.IsClean := by
  refine isClean_file he .model (List.forall_mem_cons.mpr ⟨.line (by decide), ?_⟩)
  refine List.forall_mem_singleton.mpr (Code.isClean_braces.mpr ⟨?_, he.isClean_modelBody htables⟩)
  simp only [tokenizes_iff_marks, marks_append, marks_toString, he.typeName.marks_eq_nil]
  repeat rw [marks_ofList]
  decide

/-- The code of a repository can be read. -/
lemma isClean_access (he : e.IsWordy) : ∀ c ∈ access.code e, c.IsClean := by
  refine isClean_file he .access ?_
  simp only [List.forall_mem_cons, List.not_mem_nil, false_implies, implies_true,
    Code.isClean_line, Code.isClean_braces, tokenizes_iff_marks, marks_append, marks_toString,
    he.typeName.marks_eq_nil, he.marks_keyType]
  repeat rw [marks_ofList]
  decide

/-- The code of a service can be read. -/
lemma isClean_logic (he : e.IsWordy) : ∀ c ∈ logic.code e, c.IsClean := by
  refine isClean_file he .logic ?_
  simp only [Entity.logicMethods, Entity.requireStored, setter, List.forall_mem_append,
    List.forall_mem_cons, List.not_mem_nil, false_implies, implies_true, Code.isClean_line,
    Code.isClean_braces, Code.isClean_blank, tokenizes_iff_marks, marks_append, marks_toString,
    he.typeName.marks_eq_nil, he.marks_keyType, he.key.upperFirst.marks_eq_nil]
  repeat rw [marks_ofList]
  decide

/-- The code of a controller can be read. -/
lemma isClean_api (he : e.IsWordy) : ∀ c ∈ api.code e, c.IsClean := by
  refine isClean_file he .api ?_
  simp only [Entity.apiMethods, Entity.resourcePath, List.forall_mem_append,
    List.forall_mem_cons, List.not_mem_nil, false_implies, implies_true, Code.isClean_line,
    Code.isClean_braces, Code.isClean_blank, tokenizes_iff_marks, marks_append, marks_toString,
    he.typeName.marks_eq_nil, he.marks_keyType, he.typeName.lowerFirst.marks_eq_nil]
  repeat rw [marks_ofList]
  decide

/-- The code of a mapper can be read. -/
lemma isClean_mapper (he : e.IsWordy) : ∀ c ∈ mapper.code e, c.IsClean := by
  have hname := he.typeName.marks_eq_nil
  have hrequest : marks (e.typeName ++ "Request") = [] := by
    rw [marks_append, hname]
    decide
  have hresponse : marks (e.typeName ++ "Response") = [] := by
    rw [marks_append, hname]
    decide
  have htoModel : (e.conversion "toModel" (e.typeName ++ "Request") "request" e.typeName
      "model").IsClean :=
    he.isClean_conversion (by decide) hrequest (by decide) hname (by decide)
  have htoResponse : (e.conversion "toResponse" e.typeName "model" (e.typeName ++ "Response")
      "response").IsClean :=
    he.isClean_conversion (by decide) hname (by decide) hresponse (by decide)
  refine isClean_file he .mapper ?_
  simp only [List.forall_mem_cons, List.not_mem_nil, false_implies, implies_true,
    Code.isClean_line, Code.isClean_braces, Code.isClean_blank, tokenizes_iff_marks, marks_append,
    marks_toString, hname, htoModel, htoResponse]
  repeat rw [marks_ofList]
  decide

/-- The code of a file of an entity can be read. -/
lemma isClean_code (he : e.IsWordy) (kind : ArtifactKind) (htables : kind = .model → e.TablesFit) :
    ∀ c ∈ kind.code e, c.IsClean := by
  cases kind with
  | model => exact isClean_model he (htables rfl)
  | access => exact isClean_access he
  | logic => exact isClean_logic he
  | api => exact isClean_api he
  | request =>
    exact isClean_file he .request (List.forall_mem_singleton.mpr (he.isClean_payload .request))
  | response =>
    exact isClean_file he .response (List.forall_mem_singleton.mpr (he.isClean_payload .response))
  | mapper => exact isClean_mapper he

end ArtifactKind

end CrudScaffold

import CrudScaffold.Proofs.Artifact.Model
import CrudScaffold.Proofs.Artifact.Token
import CrudScaffold.Proofs.Project.Footprint
import CrudScaffold.Proofs.Project.ImportClosure

/-!
# What a diagram can put into Java files

Ids, names and the name of the project are free text, and all of them leave something in the Java
files of a project: names become names of types and fields, of columns, tables and routes, and the
name of the project becomes a package. On the way everything but letters and digits is lost, so that
nothing of a diagram can end a text or open a bracket in a file
(`Snapshot.isWordy_of_mem_entities`).

There is one way around this. If a many-to-many relation asks for an association class by an id that
no class has, the id itself is the name of the join table, and the model writes it as it is. With a
quote in such an id the model cannot be read; all files can if those ids fit between quotes.
-/

namespace CrudScaffold

open Naming

/-- A package has no marks. -/
lemma Layout.marks_package (name : String) : marks (ofName name).package = [] := by
  rw [marks, List.filter_eq_nil_iff]
  intro c hc
  rcases mem_package name hc with rfl | hc
  · decide
  · rw [Scan.isMark_of_isWordChar hc]
    exact Bool.false_ne_true

/-! ### Java files -/

/-- The type that starts the application can be read. -/
lemma Project.isClean_application {p : Project} (hpackage : marks p.layout.package = [])
    (hname : IsWordText p.layout.applicationType) : ∀ c ∈ p.application, c.IsClean := by
  refine List.forall_mem_append.mpr ⟨Code.isClean_preamble hpackage (by decide +kernel), ?_⟩
  simp only [List.forall_mem_cons, List.not_mem_nil, false_implies, implies_true,
    Code.isClean_line, Code.isClean_braces, Code.isClean_blank, tokenizes_iff_marks, marks_append,
    marks_toString, hname.marks_eq_nil]
  decide +kernel

/-! ### Attributes and keys -/

namespace Entity

variable {c : ClassDef} {n : String} {fields : List RelationshipField} {package : String}

/-- The name of an attribute is made of the one that it has in the diagram. -/
lemma exists_fieldName_eq {a : Attribute} (ha : a ∈ (ofClass c n fields package).attributes) :
    ∃ d ∈ c.attributes, a.fieldName = Naming.fieldName d.name := by
  have hname : a.fieldName ∈ (keptAttributes c).map Attribute.fieldName := by
    rw [← map_fieldName_ofClass]
    exact List.mem_map_of_mem ha
  obtain ⟨b, hb, hab⟩ := List.mem_map.mp hname
  obtain ⟨d, hmem, hd, -⟩ := exists_of_mem_surveyed (keptAttributes_eq c ▸ hb)
  exact ⟨d, hmem, hab.symm.trans hd⟩

/-- The names of attributes consist of letters and digits. -/
lemma isWordText_fieldName {a : Attribute} (ha : a ∈ (ofClass c n fields package).attributes) :
    IsWordText a.fieldName := by
  obtain ⟨d, -, hd⟩ := exists_fieldName_eq ha
  rw [hd]
  exact Naming.isWordText_fieldName d.name

/-- So does the name of the key. -/
lemma isWordText_keyName : IsWordText (ofClass c n fields package).primaryKey.fieldName := by
  rcases primaryKey_cases c n fields package with ⟨a, ha, -, hkey⟩ | ⟨-, hkey⟩
  · rw [hkey]
    exact isWordText_fieldName ha
  · rw [hkey]
    decide

end Entity

/-! ### Relationship fields -/

namespace Link

variable {s : Snapshot} {l : Link} {f : RelationshipField} {names : ClassNames}

/-- The types at the ends of a link have names of letters and digits. -/
lemma isWordText_endType (hl : l ∈ all s (.ofSnapshot s)) (side : Side) :
    IsWordText (l.endType side) :=
  (ClassNames.isName_of_typeName? (typeName?_endId hl side)).isWordText

/-- The relation of a link is one of the diagram. -/
lemma relation_mem (hl : l ∈ all s names) : l.relation ∈ s.relations := by
  have hnumbered : ∀ (rs earlier : List RelationDef), ∀ r ∈ numberRepeats earlier rs, r.1 ∈ rs := by
    intro rs
    induction rs with
    | nil => exact fun _ _ h => absurd h List.not_mem_nil
    | cons d rs ih =>
      intro earlier r hr
      rcases List.mem_cons.mp hr with rfl | hr
      · exact List.mem_cons_self
      · exact List.mem_cons_of_mem d (ih _ r hr)
  obtain ⟨r, hr, hof⟩ := List.mem_filterMap.mp hl
  obtain ⟨hrelation, -⟩ := of?_eq_some_iff.mp hof
  exact hrelation ▸ hnumbered _ _ r hr

/-- What tells repeated relations apart is a number. -/
lemma isWordText_suffix (hl : l ∈ all s names) : IsWordText l.suffix := by
  obtain ⟨r, -, hr⟩ := List.mem_filterMap.mp hl
  obtain ⟨-, -, -, hsuffix⟩ := of?_eq_some_iff.mp hr
  exact hsuffix ▸ isWordText_repeatSuffix r.2

/-- The field at the owning end of a link refers to no other field. It names a column after itself
or a join table. -/
lemma owningField_eq_some (h : l.owningField names = some f) :
    f.mappedBy = none ∧
      (f.kind = .manyToOne → f.joinName = joinColumn f.fieldName) ∧
      (f.kind = .manyToMany →
        l.relation.kind = .associationNtoN ∧ f.joinName = l.joinTable names) := by
  rcases owningField_cases h with ⟨-, rfl⟩ | ⟨hkind, rfl⟩
  · exact ⟨rfl, fun _ => rfl, by rintro ⟨⟩⟩
  · exact ⟨rfl, by rintro ⟨⟩, fun _ => ⟨hkind, rfl⟩⟩

/-- The fields of a link have names of letters and digits. -/
lemma isWordText_fieldName (hl : l ∈ all s (.ofSnapshot s)) {side : Side}
    (h : l.field (.ofSnapshot s) side = some f) : IsWordText f.fieldName := by
  obtain ⟨-, -, -, htype, -, hname⟩ := field_eq_some h
  have hending : IsWordText f.kind.ending := by cases f.kind <;> decide
  rw [hname, htype]
  exact ((isWordText_endType hl _).lowerFirst.append hending).append (isWordText_suffix hl)

/-- The fields of a link are made of letters and digits, join tables apart. -/
lemma isWordy_field (hl : l ∈ all s (.ofSnapshot s)) {side : Side}
    (h : l.field (.ofSnapshot s) side = some f) : f.IsWordy := by
  obtain ⟨-, -, -, htype, hkind, -⟩ := field_eq_some h
  have hname := isWordText_fieldName hl h
  cases side with
  | owning =>
    obtain ⟨hmapped, hcolumn, -⟩ := owningField_eq_some h
    refine ⟨htype ▸ isWordText_endType hl _, hname, ?_, fun hk => ?_⟩
    · rw [RelationshipField.mappingField, hmapped]
      decide
    · rw [hcolumn hk, joinColumn, marks_append, hname.lowercase.marks_eq_nil]
      decide +kernel
  | inverse =>
    obtain ⟨g, hg, hmapped, -⟩ := exists_owningField h
    have howning : l.field (.ofSnapshot s) .owning = some g := hg
    refine ⟨htype ▸ isWordText_endType hl _, hname, ?_, fun hk => ?_⟩
    · rw [RelationshipField.mappingField, hmapped]
      exact isWordText_fieldName hl howning
    · rw [hk] at hkind
      cases hr : l.relation.kind <;> rw [hr] at hkind <;> cases hkind

end Link

/-! ### Join tables -/

namespace Snapshot

variable {s : Snapshot} {config : Config} {name : String}

/-- The ids of association classes that no class has fit between quotes, as far as many-to-many
relations between classes ask for them. -/
def AssociationIdsFit (s : Snapshot) : Prop :=
  ∀ r ∈ s.relations, r.kind = .associationNtoN → r.sourceId ∈ s.classIds → r.targetId ∈ s.classIds →
    ∀ id ∈ r.associationClassId, id ∉ s.classIds → FitsText id

/-- Whether ids of association classes fit can be decided. -/
instance (s : Snapshot) : Decidable s.AssociationIdsFit :=
  inferInstanceAs (Decidable (∀ r ∈ s.relations, r.kind = .associationNtoN →
    r.sourceId ∈ s.classIds → r.targetId ∈ s.classIds →
      ∀ id ∈ r.associationClassId, id ∉ s.classIds → FitsText id))

/-- Then the join table that a relation asks for has a name that fits between quotes. -/
lemma AssociationIdsFit.fitsText_of_joinTableName (h : s.AssociationIdsFit) {l : Link}
    (hl : l ∈ Link.all s (.ofSnapshot s)) (hkind : l.relation.kind = .associationNtoN)
    {table : String} (htable : joinTableName (.ofSnapshot s) l.relation = some table) :
    FitsText table := by
  have hwords : ∀ {t : String}, IsWordText t → FitsText t :=
    fun ht => fitsText_of_marks_eq_nil ht.marks_eq_nil
  have htype : ∀ side, (ClassNames.ofSnapshot s).typeName? (l.relation.endId side) =
      some (l.endType side) := Link.typeName?_endId hl
  have hsmall : ∀ side, FitsText (Text.lowercase (l.endType side)) :=
    fun side => hwords (Link.isWordText_endType hl side).lowercase
  have hend : ∀ side, l.relation.endId side ∈ s.classIds := fun side =>
    (ClassNames.typeName?_isSome_iff s _).mp (Option.isSome_iff_exists.mpr ⟨_, htype side⟩)
  rw [joinTableName, associationTable] at htable
  cases hid : l.relation.associationClassId with
  | none =>
    have hsource : (ClassNames.ofSnapshot s).typeName? l.relation.sourceId = _ := htype .owning
    have htarget : (ClassNames.ofSnapshot s).typeName? l.relation.targetId = _ := htype .inverse
    rw [hid, hsource, htarget] at htable
    obtain rfl := Option.some.inj htable
    exact ((hsmall .inverse).append (by decide)).append (hsmall .owning)
  | some id =>
    rw [hid, Option.map_some] at htable
    cases hclass : (ClassNames.ofSnapshot s).typeName? id with
    | some n =>
      rw [hclass] at htable
      obtain rfl := Option.some.inj htable
      exact hwords (ClassNames.isName_of_typeName? hclass).isWordText.lowercase
    | none =>
      rw [hclass] at htable
      obtain rfl := Option.some.inj htable
      refine h l.relation (Link.relation_mem hl) hkind (hend .owning) (hend .inverse) id hid ?_
      rw [← ClassNames.typeName?_isSome_iff, hclass]
      exact Bool.false_ne_true

/-- So does the join table of a link, which may have a number behind that name. -/
lemma AssociationIdsFit.fitsText_joinTable (h : s.AssociationIdsFit) {l : Link}
    (hl : l ∈ Link.all s (.ofSnapshot s)) (hkind : l.relation.kind = .associationNtoN) :
    FitsText (l.joinTable (.ofSnapshot s)) := by
  obtain ⟨table, htable, hjoin⟩ := Link.joinTable_eq hl
  have hfits := h.fitsText_of_joinTableName hl hkind htable
  have hsuffix : FitsText l.suffix :=
    fitsText_of_marks_eq_nil (Link.isWordText_suffix hl).marks_eq_nil
  rw [hjoin]
  split_ifs
  · exact hfits
  · exact (hfits.append (by decide)).append hsuffix

/-! ### Files -/

/-- The entities of a diagram are made of letters and digits. -/
lemma isWordy_of_mem_entities {e : Entity} (he : e ∈ s.entities (Layout.ofName name).package) :
    e.IsWordy := by
  obtain ⟨hn, hpackage, htyped⟩ := of_mem_entities he
  rw [entities_eq] at he
  obtain ⟨c, -, he⟩ := List.mem_filterMap.mp he
  obtain ⟨n, -, rfl⟩ := Option.map_eq_some_iff.mp he
  rw [entity_eq] at hn hpackage htyped ⊢
  refine ⟨?_, (isName_of_mem_typeNames hn).isWordText, htyped, fun a ha => ?_,
    Entity.isWordText_keyName, fun f hf => ?_⟩
  · rw [hpackage]
    exact Layout.marks_package name
  · exact Entity.isWordText_fieldName ha
  · obtain ⟨l, hl, hf⟩ := mem_relationshipFields.mp hf
    obtain ⟨side, -, hfield⟩ := Link.mem_fieldsOf.mp hf
    exact Link.isWordy_field hl hfield

/-- The join tables of its models have names that fit if the ids of association classes do. -/
lemma AssociationIdsFit.tablesFit (h : s.AssociationIdsFit) {package : String} {e : Entity}
    (he : e ∈ s.entities package) : e.TablesFit := by
  rintro f hf ⟨hkind, hside⟩
  rw [entities_eq] at he
  obtain ⟨c, -, he⟩ := List.mem_filterMap.mp he
  obtain ⟨n, -, rfl⟩ := Option.map_eq_some_iff.mp he
  rw [entity_eq] at hf
  obtain ⟨l, hl, hf⟩ := mem_relationshipFields.mp hf
  obtain ⟨side, -, hfield⟩ := Link.mem_fieldsOf.mp hf
  obtain ⟨hfside, -⟩ := Link.field_eq_some hfield
  obtain rfl : side = .owning := hfside.symm.trans hside
  obtain ⟨-, -, htable⟩ := Link.owningField_eq_some hfield
  obtain ⟨hrelation, hname⟩ := htable hkind
  exact hname ▸ h.fitsText_joinTable hl hrelation

/-- The Java files of a run can be read, models if the ids of association classes fit. -/
lemma tokenizes_of_mem_files {f : File} (hf : f ∈ s.files config name) (hjava : f.IsJava)
    (hids : (Layout.ofName name).InModelFolder f.path → s.AssociationIdsFit) :
    Tokenizes f.content := by
  rcases javaFile_cases hf hjava with rfl | ⟨e, he, kind, rfl⟩
  · exact Code.tokenizes_render (Project.isClean_application (Layout.marks_package name)
      (Layout.isName_applicationType name).isWordText)
  · refine Code.tokenizes_render (kind.isClean_code (isWordy_of_mem_entities he) ?_)
    rintro rfl
    exact (hids (Layout.inModelFolder_artifactPath _ _)).tablesFit he

/-- **Java files can be read.** Whatever a diagram with classes, the name of a project and its
settings are made of, every Java file of the project outside of the folder of the models can be
read: its texts end on the line they begin on with nothing in them that could end them earlier, and
its braces and parentheses are balanced. So can the models if the ids of the association classes
that many-to-many relations ask for in vain fit between quotes. -/
theorem generate_tokenizes (s : Snapshot) (config : Config) (name : String)
    (hs : s.isEmpty = false) :
    ∃ tree, generate s config name = .ok tree ∧
      (∀ f ∈ tree.files, f.IsJava → ¬ (Layout.ofName name).InModelFolder f.path →
        Tokenizes f.content) ∧
      (s.AssociationIdsFit → ∀ f ∈ tree.files, f.IsJava → Tokenizes f.content) := by
  refine ⟨_, generate_eq config name hs, fun f hf hjava hfolder => ?_, fun hids f hf hjava => ?_⟩
  · exact tokenizes_of_mem_files (FileTree.mem_of_mem_files_ofList hf) hjava
      fun h => absurd h hfolder
  · exact tokenizes_of_mem_files (FileTree.mem_of_mem_files_ofList hf) hjava fun _ => hids

/-- A diagram whose ids and names would end a text or a block if they were written as they are. -/
def quotedNames : Snapshot where
  classes := [
    { id := "\"", name := "Say \"hi\"); //", attributes := [{ name := "\" + x \x7b" }] },
    { id := "\\", name := "\\u0022\n" }]
  relations := [{
    id := "*/", kind := .associationNtoN, sourceId := "\"", targetId := "\\",
    associationClassId := some "said (to" }]

/-- All its Java files can be read. -/
theorem generate_tokenizes_quotedNames :
    quotedNames.isEmpty = false ∧ quotedNames.AssociationIdsFit ∧
    ∃ tree, generate quotedNames {} "x\"; \x7d" = .ok tree ∧
      "x/src/main/java/x/model/SayHi.java" ∈ tree.paths ∧
      ∀ f ∈ tree.files, f.IsJava → Tokenizes f.content := by
  have hs : quotedNames.isEmpty = false := rfl
  have hids : quotedNames.AssociationIdsFit := by decide +kernel
  obtain ⟨tree, htree, -, hjava⟩ := generate_tokenizes quotedNames {} "x\"; \x7d" hs
  refine ⟨hs, hids, tree, htree, ?_, hjava hids⟩
  have hpath : (Layout.ofName "x\"; \x7d").artifactPath .model "SayHi" =
      "x/src/main/java/x/model/SayHi.java" := by decide +kernel
  rw [generate_eq {} _ hs] at htree
  obtain rfl := Except.ok.inj htree
  rw [← hpath]
  exact artifactPath_mem_paths (by decide +kernel) .model

/-- A diagram in which items are related to items by an association class that is not there, and
whose id has a quote in it. -/
def quotedTable : Snapshot where
  classes := [{ id := "i", name := "Item" }]
  relations := [{
    id := "1", kind := .associationNtoN, sourceId := "i", targetId := "i",
    associationClassId := some "x\"y" }]

/-- The model of an item cannot be read: the quote ends the name of the join table, and the text
that the next quote begins is not ended on its line. -/
theorem not_tokenizes_quotedTable :
    quotedTable.isEmpty = false ∧
    ∃ tree content, generate quotedTable {} "Shop" = .ok tree ∧
      tree.get? "shop/src/main/java/shop/model/Item.java" = some content ∧
      ¬ Tokenizes content := by
  have hs : quotedTable.isEmpty = false := rfl
  have hpath : (Layout.ofName "Shop").artifactPath .model "Item" =
      "shop/src/main/java/shop/model/Item.java" := by
    rw [Layout.ofName_shop]
    decide
  have hpackage : (Layout.ofName "Shop").package = "shop" := by rw [Layout.ofName_shop]
  have hlast : quotedTable.lastNamed "Item" = some { id := "i", name := "Item" } := by
    decide +kernel
  have hget := get?_ofList_files quotedTable {} "Shop" .model "Item"
  rw [hpath, hpackage, hlast] at hget
  refine ⟨hs, _, _, generate_eq {} _ hs, hget, fun h => ?_⟩
  -- the line of the join table has a quote that no other one belongs to
  have htable :
      ∃ f ∈ (quotedTable.entity "shop" { id := "i", name := "Item" } "Item").relationships,
        ∃ line ∈ f.annotations "Item", line.toList.count '"' % 2 = 1 := by decide +kernel
  obtain ⟨f, hf, line, hline, hodd⟩ := htable
  have heven := Code.count_quote_of_shows (Entity.shows_relationship hf) h line
    (List.mem_cons_of_mem _ (List.mem_append_left _ hline))
  omega

end Snapshot

end CrudScaffold

import CrudScaffold.Proofs.Project.Members

/-!
# What a run warns of

A run reports what it does to the names, the relations and the attributes of a diagram and which
files it makes, and some of these reports are warnings. Each of them has one cause, and an attribute
that is dropped for one reason is not looked at for others. Still nothing is hidden: as soon as no
attribute is dropped, all of them are looked at for everything.

`Snapshot.IsFaultless` lists the causes without regard to how they are found, and
`Snapshot.report_isQuiet_iff` says that a run is free of warnings exactly if there are none.
-/

namespace CrudScaffold

open Naming

/-! ### Quiet reports -/

/-- Nothing that is reported is a warning. -/
def IsQuiet (events : List Event) : Prop := ∀ event ∈ events, event.isWarning = false

/-- Whether a report is quiet can be decided. -/
instance (events : List Event) : Decidable (IsQuiet events) :=
  inferInstanceAs (Decidable (∀ event ∈ events, event.isWarning = false))

section Quiet

variable {α : Type} {events : List Event}

@[simp] lemma isQuiet_append {before after : List Event} :
    IsQuiet (before ++ after) ↔ IsQuiet before ∧ IsQuiet after :=
  List.forall_mem_append

@[simp] lemma isQuiet_cons {event : Event} :
    IsQuiet (event :: events) ↔ event.isWarning = false ∧ IsQuiet events :=
  List.forall_mem_cons

@[simp] lemma isQuiet_flatMap {part : α → List Event} {l : List α} :
    IsQuiet (l.flatMap part) ↔ ∀ a ∈ l, IsQuiet (part a) :=
  List.forall_mem_flatMap

/-- Where everything is a warning, only silence is quiet. -/
lemma isQuiet_iff_eq_nil (h : ∀ event ∈ events, event.isWarning) :
    IsQuiet events ↔ events = [] := by
  constructor
  · intro hquiet
    refine List.eq_nil_iff_forall_not_mem.mpr fun event hevent => ?_
    have hwarning := h event hevent
    rw [hquiet event hevent] at hwarning
    exact Bool.false_ne_true hwarning
  · rintro rfl
    exact List.forall_mem_nil _

/-- Events of one harmless kind are quiet. -/
lemma isQuiet_map {f : α → Event} {l : List α} (h : ∀ a, (f a).isWarning = false) :
    IsQuiet (l.map f) :=
  List.forall_mem_map.mpr fun a _ => h a

end Quiet

/-! ### Names and ends of relations -/

/-- Nothing is said about the names of classes exactly if something is left of each of them. -/
lemma ClassNames.isQuiet_notices {s : Snapshot} :
    IsQuiet (notices s) ↔ ∀ c ∈ s.classes, typeName c.name ≠ "" := by
  have hwarning : ∀ event ∈ notices s, event.isWarning := by
    intro event hevent
    obtain ⟨events, hevents, hevent⟩ := List.mem_flatten.mp hevent
    obtain ⟨i, hi, rfl⟩ := List.mem_mapIdx.mp hevents
    split_ifs at hevent
    · rw [List.mem_singleton.mp hevent]
      rfl
    · exact absurd hevent List.not_mem_nil
  rw [isQuiet_iff_eq_nil hwarning, notices, List.flatten_eq_nil_iff]
  constructor
  · intro h c hc hempty
    obtain ⟨i, hi, rfl⟩ := List.getElem_of_mem hc
    have hnone := h _ (List.mem_mapIdx.mpr ⟨i, hi, rfl⟩)
    rw [hempty] at hnone
    exact List.cons_ne_nil _ _ hnone
  · intro h events hevents
    obtain ⟨i, hi, rfl⟩ := List.mem_mapIdx.mp hevents
    have hname : ¬ (typeName s.classes[i].name).isEmpty :=
      fun hempty => h _ (List.getElem_mem hi) (String.isEmpty_iff.mp hempty)
    exact if_neg hname

namespace RelationshipIndex

/-- Nothing is said about the ends of relations exactly if all of them are classes. -/
lemma isQuiet_danglingEnds {s : Snapshot} :
    IsQuiet (danglingEnds s (.ofSnapshot s)) ↔
      ∀ r ∈ s.relations, r.sourceId ∈ s.classIds ∧ r.targetId ∈ s.classIds := by
  have hcontains : ∀ id, (ClassNames.ofSnapshot s).contains id ↔ id ∈ s.classIds :=
    ClassNames.typeName?_isSome_iff s
  rw [danglingEnds, isQuiet_flatMap]
  refine forall₂_congr fun r _ => ?_
  have hwarning : ∀ ids : List String,
      IsQuiet (ids.map fun id => Event.unknownEndpoint r.id id) ↔ ids = [] := by
    intro ids
    rw [isQuiet_iff_eq_nil (List.forall_mem_map.mpr fun _ _ => rfl), List.map_eq_nil_iff]
  rw [hwarning, List.filter_eq_nil_iff, List.forall_mem_cons, List.forall_mem_singleton,
    ← hcontains, ← hcontains]
  simp

/-- Nothing is said about the relationship fields of a class exactly if they have different
names. -/
lemma isQuiet_repeatedNames {id : String} {fields : List RelationshipField} :
    IsQuiet (repeatedNames id [] fields) ↔ (fields.map RelationshipField.fieldName).Nodup := by
  rw [isQuiet_iff_eq_nil fun _ => isWarning_of_mem_repeatedNames, repeatedNames_eq_nil_iff]
  simp

end RelationshipIndex

/-! ### Attributes -/

@[simp] lemma Finding.not_isQuiet_notices_unusable {n raw : String} :
    ¬ IsQuiet (notices n (.unusable raw)) := by
  simp [notices, IsQuiet, Event.isWarning, Event.level]

@[simp] lemma Finding.not_isQuiet_notices_repeated {n raw name : String} :
    ¬ IsQuiet (notices n (.repeated raw name)) := by
  simp [notices, IsQuiet, Event.isWarning, Event.level]

@[simp] lemma Finding.isQuiet_notices_kept {n : String} {a : Attribute}
    {unknownTag extraKey : Bool} :
    IsQuiet (notices n (.kept a unknownTag extraKey)) ↔ unknownTag = false ∧ extraKey = false := by
  cases unknownTag <;> cases extraKey <;> simp [notices, IsQuiet, Event.isWarning, Event.level]

/-- A survey is quiet exactly if it drops nothing, knows all tags and meets one key at most. -/
lemma isQuiet_survey {seen : List String} {flagged : Bool} {defs : List AttributeDef} {n : String} :
    IsQuiet ((survey seen flagged defs).flatMap (Finding.notices n)) ↔
      (∀ d ∈ defs, fieldName d.name ≠ "" ∧ d.typeTag ≠ .unknown) ∧
        ((defs.map fun d => fieldName d.name).Nodup ∧
          ∀ m ∈ defs.map fun d => fieldName d.name, m ∉ seen) ∧
        defs.countP AttributeDef.isPrimaryKey + flagged.toNat ≤ 1 := by
  induction defs generalizing seen flagged with
  | nil => cases flagged <;> simp [survey, IsQuiet]
  | cons d defs ih =>
    rw [survey, List.map_cons, nodup_cons_and_notMem_iff, List.forall_mem_cons, List.countP_cons]
    by_cases hempty : (fieldName d.name).isEmpty
    · rw [if_pos hempty, List.flatMap_cons, isQuiet_append]
      exact iff_of_false (fun h => Finding.not_isQuiet_notices_unusable h.1)
        (fun h => h.1.1.1 (String.isEmpty_iff.mp hempty))
    · by_cases hseen : fieldName d.name ∈ seen
      · rw [if_neg hempty, if_pos hseen, List.flatMap_cons, isQuiet_append]
        exact iff_of_false (fun h => Finding.not_isQuiet_notices_repeated h.1)
          (fun h => h.2.1.1 hseen)
      · have hname : fieldName d.name ≠ "" := fun h => hempty (String.isEmpty_iff.mpr h)
        have htag : (d.typeTag == .unknown) = false ↔ d.typeTag ≠ .unknown := beq_eq_false_iff_ne
        -- a flag is one too many exactly if there has been one before
        have hcount : (d.isPrimaryKey && flagged) = false ∧
            defs.countP AttributeDef.isPrimaryKey + (flagged || d.isPrimaryKey).toNat ≤ 1 ↔
            defs.countP AttributeDef.isPrimaryKey + (if d.isPrimaryKey then 1 else 0) +
              flagged.toNat ≤ 1 := by
          cases d.isPrimaryKey <;> cases flagged <;> simp
        rw [if_neg hempty, if_neg hseen, List.flatMap_cons, isQuiet_append,
          Finding.isQuiet_notices_kept, ih, htag, ← hcount]
        constructor
        · rintro ⟨⟨hknown, hextra⟩, hrest, hnames, hkeys⟩
          exact ⟨⟨⟨hname, hknown⟩, hrest⟩, ⟨hseen, hnames⟩, hextra, hkeys⟩
        · rintro ⟨⟨⟨-, hknown⟩, hrest⟩, ⟨-, hnames⟩, hextra, hkeys⟩
          exact ⟨⟨hknown, hextra⟩, hrest, hnames, hkeys⟩

/-- Nothing is said about the attributes of a class exactly if all of them have names, different
ones, and known tags, and one is flagged at most. -/
lemma Entity.isQuiet_notices {c : ClassDef} {n : String} :
    IsQuiet (notices c n) ↔
      (∀ d ∈ c.attributes, fieldName d.name ≠ "" ∧ d.typeTag ≠ .unknown) ∧
        (c.attributes.map fun d => fieldName d.name).Nodup ∧
        c.attributes.countP AttributeDef.isPrimaryKey ≤ 1 := by
  have hserves :
      IsQuiet (if needsPromotion (keptAttributes c) then [.idServesAsKey n] else []) := by
    split_ifs
    · exact List.forall_mem_singleton.mpr rfl
    · exact List.forall_mem_nil _
  rw [notices, isQuiet_append, isQuiet_survey, iff_true_intro hserves, and_true]
  simp

/-! ### Files -/

/-- Nothing is said about files exactly if all of them lie at new paths. -/
lemma isQuiet_artifactNotices {made : List String} {artifacts : List (String × String)} :
    IsQuiet (artifactNotices made artifacts) ↔
      (artifacts.map Prod.fst).Nodup ∧ ∀ path ∈ artifacts.map Prod.fst, path ∉ made := by
  induction artifacts generalizing made with
  | nil => simp [artifactNotices, IsQuiet]
  | cons artifact artifacts ih =>
    obtain ⟨path, n⟩ := artifact
    have hrepeated : IsQuiet (if path ∈ made then [.repeatedTypeName path n] else []) ↔
        path ∉ made := by
      split_ifs with hmade
      · exact iff_of_false (fun h => Bool.noConfusion (h _ List.mem_cons_self)) (not_not.mpr hmade)
      · exact iff_of_true (List.forall_mem_nil _) hmade
    rw [artifactNotices, List.cons_append, isQuiet_cons, isQuiet_append, hrepeated, ih,
      List.map_cons, nodup_cons_and_notMem_iff]
    exact and_iff_right rfl

namespace Snapshot

/-- The files of the classes of a diagram lie at the paths of their types. -/
lemma map_fst_artifacts (s : Snapshot) (name : String) :
    (s.artifacts (Layout.ofName name)).map Prod.fst =
      s.typeNames.flatMap (Layout.ofName name).typePaths := by
  rw [artifacts, List.map_flatMap, ← map_typeName_entities s (Layout.ofName name).package,
    List.flatMap_map]
  simp only [List.map_map]
  rfl

/-- Nothing is said about the files of classes exactly if the types of classes are different. -/
lemma isQuiet_artifactNotices_artifacts {s : Snapshot} {name : String} :
    IsQuiet (artifactNotices (Layout.ofName name).ownPaths (s.artifacts (Layout.ofName name))) ↔
      s.typeNames.Nodup := by
  have hown : ∀ path ∈ s.typeNames.flatMap (Layout.ofName name).typePaths,
      path ∉ (Layout.ofName name).ownPaths :=
    fun path hpath hown => Layout.disjoint_ownPaths name s.typeNames hown hpath
  have hdisjoint : ∀ {n n' : String},
      List.Disjoint ((Layout.ofName name).typePaths n) ((Layout.ofName name).typePaths n') ↔
        n ≠ n' := by
    intro n n'
    refine ⟨?_, Layout.disjoint_typePaths⟩
    rintro h rfl
    exact h List.mem_cons_self List.mem_cons_self
  rw [isQuiet_artifactNotices, map_fst_artifacts, iff_true_intro hown, and_true,
    List.nodup_flatMap]
  have hpaths : ∀ n ∈ s.typeNames, ((Layout.ofName name).typePaths n).Nodup :=
    fun n _ => Layout.nodup_typePaths _ n
  rw [iff_true_intro hpaths, true_and]
  constructor
  · intro h
    exact h.imp fun hnames => hdisjoint.mp hnames
  · intro h
    exact h.imp fun hnames => hdisjoint.mpr hnames

/-! ### A run -/

/-- A diagram that a run has nothing to warn of. -/
structure IsFaultless (s : Snapshot) : Prop where
  /-- Something is left of the name of every class. -/
  classesNamed : ∀ c ∈ s.classes, typeName c.name ≠ ""
  /-- Both ends of every relation are classes, whatever its kind. -/
  endsKnown : ∀ r ∈ s.relations, r.sourceId ∈ s.classIds ∧ r.targetId ∈ s.classIds
  /-- The relationship fields of a class have different names. -/
  fieldsApart : ∀ c ∈ s.classes,
    ((relationshipFields c.id s (.ofSnapshot s)).map RelationshipField.fieldName).Nodup
  /-- Something is left of the name of every attribute. -/
  attributesNamed : ∀ c ∈ s.classes, ∀ d ∈ c.attributes, fieldName d.name ≠ ""
  /-- The attributes of a class have different field names. -/
  attributesApart : ∀ c ∈ s.classes, (c.attributes.map fun d => fieldName d.name).Nodup
  /-- No attribute has a tag that is not known. -/
  tagsKnown : ∀ c ∈ s.classes, ∀ d ∈ c.attributes, d.typeTag ≠ .unknown
  /-- A class flags one attribute as its key at most. -/
  oneKey : ∀ c ∈ s.classes, c.attributes.countP AttributeDef.isPrimaryKey ≤ 1
  /-- The classes have different type names. -/
  typesApart : s.typeNames.Nodup

/-- Nothing is said about the attributes of a diagram exactly if nothing is said about those of its
classes. -/
lemma isQuiet_attributeNotices {s : Snapshot} :
    IsQuiet s.attributeNotices ↔ ∀ c ∈ s.classes,
      (∀ d ∈ c.attributes, fieldName d.name ≠ "" ∧ d.typeTag ≠ .unknown) ∧
        (c.attributes.map fun d => fieldName d.name).Nodup ∧
        c.attributes.countP AttributeDef.isPrimaryKey ≤ 1 := by
  rw [attributeNotices, isQuiet_flatMap]
  refine forall₂_congr fun c hc => ?_
  obtain ⟨n, hn⟩ := exists_typeName? hc
  rw [hn]
  exact Entity.isQuiet_notices

/-- Nothing is said about the names of a diagram exactly if its classes have names, its relations
have ends and the relationship fields of each class are apart. -/
lemma isQuiet_nameNotices {s : Snapshot} :
    IsQuiet s.nameNotices ↔
      (∀ c ∈ s.classes, typeName c.name ≠ "") ∧
        (∀ r ∈ s.relations, r.sourceId ∈ s.classIds ∧ r.targetId ∈ s.classIds) ∧
        ∀ c ∈ s.classes,
          ((relationshipFields c.id s (.ofSnapshot s)).map RelationshipField.fieldName).Nodup := by
  rw [nameNotices, isQuiet_append, ClassNames.isQuiet_notices, RelationshipIndex.notices,
    isQuiet_append, RelationshipIndex.isQuiet_danglingEnds, isQuiet_flatMap]
  exact and_congr_right' (and_congr_right' (forall₂_congr fun c _ =>
    RelationshipIndex.isQuiet_repeatedNames))

/-- **Warnings of a run.** A run on a diagram with classes, at whatever stage it is begun, reports
no warning exactly if the diagram is faultless: every class has a usable name and every relation
known ends, within each class the relationship fields have different names and the attributes usable
and different ones, no tag is unknown, one attribute is flagged as key at most, and the type names
of the classes are different. -/
theorem report_isQuiet_iff (s : Snapshot) (stage : Stage) (config : Config) (name : String)
    (hs : s.isEmpty = false) :
    (∀ event ∈ report stage s config name, event.isWarning = false) ↔ s.IsFaultless := by
  change IsQuiet (report stage s config name) ↔ s.IsFaultless
  have hreport : IsQuiet (report stage s config name) ↔
      IsQuiet s.nameNotices ∧ IsQuiet s.attributeNotices ∧
        IsQuiet (artifactNotices (Layout.ofName name).ownPaths
          (s.artifacts (Layout.ofName name))) := by
    have hone : ∀ event : Event, event.isWarning = false → IsQuiet [event] :=
      fun _ h => List.forall_mem_singleton.mpr h
    have hbegun : IsQuiet [.stageChanged stage .validating,
      .stageChanged .validating .generating] :=
      isQuiet_cons.mpr ⟨rfl, hone _ rfl⟩
    have hdone : ∀ files, IsQuiet [.stageChanged .generating .assembled, .assembled files] :=
      fun _ => isQuiet_cons.mpr ⟨rfl, hone _ rfl⟩
    have hplaces : (s.project config name).ownFiles.map File.path =
        (Layout.ofName name).ownPaths := Project.map_path_ownFiles _
    have hown : IsQuiet ((Layout.ofName name).ownPaths.map .projectArtifact) :=
      isQuiet_map fun _ => rfl
    rw [report, if_neg (by simp [hs])]
    simp only [isQuiet_append, hplaces]
    constructor
    · rintro ⟨⟨⟨⟨⟨⟨-, hnames⟩, -⟩, hattributes⟩, -⟩, hfiles⟩, -⟩
      exact ⟨hnames, hattributes, hfiles⟩
    · rintro ⟨hnames, hattributes, hfiles⟩
      exact ⟨⟨⟨⟨⟨⟨hbegun, hnames⟩, hone _ rfl⟩, hattributes⟩, hown⟩, hfiles⟩, hdone _⟩
  rw [hreport, isQuiet_nameNotices, isQuiet_attributeNotices, isQuiet_artifactNotices_artifacts]
  constructor
  · rintro ⟨⟨hclasses, hends, hfields⟩, hattributes, htypes⟩
    exact {
      classesNamed := hclasses
      endsKnown := hends
      fieldsApart := hfields
      attributesNamed := fun c hc d hd => ((hattributes c hc).1 d hd).1
      attributesApart := fun c hc => (hattributes c hc).2.1
      tagsKnown := fun c hc d hd => ((hattributes c hc).1 d hd).2
      oneKey := fun c hc => (hattributes c hc).2.2
      typesApart := htypes }
  · intro h
    refine ⟨⟨h.classesNamed, h.endsKnown, h.fieldsApart⟩, fun c hc => ?_, h.typesApart⟩
    exact ⟨fun d hd => ⟨h.attributesNamed c hc d hd, h.tagsKnown c hc d hd⟩,
      h.attributesApart c hc, h.oneKey c hc⟩

/-- Orders, one kind of which is express, with the customers and items they refer to. -/
def orderDesk : Snapshot where
  classes := [
    { id := "o", name := "Order"
      attributes := [{ name := "Order number", typeTag := .int, isPrimaryKey := true },
        { name := "placed on", typeTag := .date, isRequired := true }] },
    { id := "e", name := "Express order" },
    { id := "c", name := "Customer", attributes := [{ name := "id" }, { name := "name" }] },
    { id := "i", name := "Item" }]
  relations := [⟨"r", "o", "c", .association, none⟩, ⟨"l", "o", "i", .associationNtoN, none⟩,
    ⟨"k", "e", "o", .inheritance, none⟩]

/-- There is nothing to warn of in these orders. -/
theorem report_isQuiet_orderDesk :
    orderDesk.isEmpty = false ∧ orderDesk.IsFaultless ∧
      ∀ event ∈ report .idle orderDesk {} "Shop", event.isWarning = false := by
  have hempty : orderDesk.isEmpty = false := rfl
  have hfaultless : orderDesk.IsFaultless := {
    classesNamed := by decide +kernel
    endsKnown := by decide
    fieldsApart := by decide +kernel
    attributesNamed := by decide +kernel
    attributesApart := by decide +kernel
    tagsKnown := by decide +kernel
    oneKey := by decide +kernel
    typesApart := by decide +kernel }
  exact ⟨hempty, hfaultless, (report_isQuiet_iff orderDesk .idle {} "Shop" hempty).mpr hfaultless⟩

end Snapshot

end CrudScaffold

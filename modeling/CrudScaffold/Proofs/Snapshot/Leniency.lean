import Mathlib.Data.List.Forall2
import Mathlib.Logic.Relation
import CrudScaffold.Proofs.Json.Grammar
import CrudScaffold.Proofs.Json.Record
import CrudScaffold.Proofs.Snapshot.RoundTrip

/-!
# What the reader of diagrams does not see

A diagram may be spelled in many ways. Blanks between tokens, the order of the members of a record,
members that the record does not know, and whether a record stands as an object or as the array of
its fields make no difference to what is read. Such variations are said of documents, by the grammar
that `IsDocument` is, so they hold of every text that is read at all.

The four records of a diagram differ in their fields only, so they are told apart by an index
(`Part`), and each change is one constructor for all of them (`Change`). A change inside a record
leaves the record around it as it is, since what stands in a field is read by itself.
-/

namespace CrudScaffold

open Json

/-! ### The records of a diagram -/

/-- The kinds of records that a diagram is made of. -/
inductive Part
  | diagram
  | classDef
  | attributeDef
  | relationDef
deriving DecidableEq

namespace Part

/-- What a record of the given kind is read as. -/
def Content : Part → Type
  | diagram => Snapshot
  | classDef => ClassDef
  | attributeDef => AttributeDef
  | relationDef => RelationDef

/-- What is known of a record of the given kind while it is read. -/
def Draft : Part → Type
  | diagram => SnapshotDraft
  | classDef => ClassDraft
  | attributeDef => AttributeDraft
  | relationDef => RelationDraft

/-- How a record of the given kind is read. -/
def record : (p : Part) → Record p.Draft p.Content
  | diagram => Snapshot.record
  | classDef => ClassDef.record
  | attributeDef => AttributeDef.record
  | relationDef => RelationDef.record

/-- The fields of a record in their declared order, each with the kind of records that it lists, if
it does. -/
def fields : Part → List (String × Option Part)
  | diagram => [("classes", some classDef), ("relations", some relationDef)]
  | classDef => [("id", none), ("name", none), ("attributes", some attributeDef)]
  | attributeDef =>
    [("name", none), ("typeTag", none), ("isPrimaryKey", none), ("isRequired", none),
      ("maxLength", none)]
  | relationDef =>
    [("id", none), ("sourceId", none), ("targetId", none), ("type", none),
      ("associationClassId", none)]

/-- The names of the fields of a record in their declared order. -/
def fieldNames (p : Part) : List String := p.fields.map (·.1)

/-- The slots of an attribute. -/
def attributeSlots : List (Slot AttributeDraft) :=
  [⟨"name", String, (·.name), fun d x => { d with name := x }, readString⟩,
    ⟨"typeTag", TypeTag, (·.typeTag), fun d x => { d with typeTag := x },
      readName TypeTag.ofName⟩,
    ⟨"isPrimaryKey", Bool, (·.isPrimaryKey), fun d x => { d with isPrimaryKey := x }, readBool⟩,
    ⟨"isRequired", Bool, (·.isRequired), fun d x => { d with isRequired := x }, readBool⟩,
    ⟨"maxLength", Option UInt32, (·.maxLength), fun d x => { d with maxLength := x },
      readOption readLength⟩]

/-- The slots of a class. -/
def classSlots : List (Slot ClassDraft) :=
  [⟨"id", String, (·.id), fun d x => { d with id := x }, readString⟩,
    ⟨"name", String, (·.name), fun d x => { d with name := x }, readString⟩,
    ⟨"attributes", List AttributeDef, (·.attributes), fun d x => { d with attributes := x },
      readList AttributeDef.record.read⟩]

/-- The slots of a relation. -/
def relationSlots : List (Slot RelationDraft) :=
  [⟨"id", String, (·.id), fun d x => { d with id := x }, readString⟩,
    ⟨"sourceId", String, (·.sourceId), fun d x => { d with sourceId := x }, readString⟩,
    ⟨"targetId", String, (·.targetId), fun d x => { d with targetId := x }, readString⟩,
    ⟨"type", RelationKind, (·.kind), fun d x => { d with kind := x },
      readName RelationKind.ofName⟩,
    ⟨"associationClassId", Option String, (·.associationClassId),
      fun d x => { d with associationClassId := x }, readOption readString⟩]

/-- The slots of a diagram. -/
def diagramSlots : List (Slot SnapshotDraft) :=
  [⟨"classes", List ClassDef, (·.classes), fun d x => { d with classes := x },
      readList ClassDef.record.read⟩,
    ⟨"relations", List RelationDef, (·.relations), fun d x => { d with relations := x },
      readList RelationDef.record.read⟩]

/-- A length that has been read is complete. -/
lemma complete_of_readLength {t : Tree} {n : UInt32} (h : readLength t = .ok n) : t.Complete := by
  obtain ⟨m, hm, -⟩ := map_eq_ok_iff.mp h
  exact complete_of_readNat32 hm

/-- Attributes are slotted. -/
lemma slotted_attributeDef : AttributeDef.record.Slotted attributeSlots where
  fields := rfl
  nodup := by decide
  apart := by simp [attributeSlots, Slot.Apart]
  get_set := by simp [attributeSlots]
  complete := by
    simp only [attributeSlots, List.forall_mem_cons]
    refine ⟨fun _ _ => complete_of_readString, fun _ _ => complete_of_readName,
      fun _ _ => complete_of_readBool, fun _ _ => complete_of_readBool,
      fun _ _ => complete_of_readOption fun _ => complete_of_readLength, List.forall_mem_nil _⟩
  member := by
    simp only [attributeSlots, List.forall_mem_cons]
    refine ⟨fun _ _ => rfl, fun _ _ => rfl, fun _ _ => rfl, fun _ _ => rfl, fun _ _ => rfl,
      List.forall_mem_nil _⟩
  skipped d name t hfields := by
    simp only [AttributeDef.record, List.mem_cons, List.not_mem_nil, or_false, not_or] at hfields
    obtain ⟨hname, htag, hkey, hrequired, hlength⟩ := hfields
    simp only [AttributeDef.record]
    rfl

/-- Classes are slotted. -/
lemma slotted_classDef : ClassDef.record.Slotted classSlots where
  fields := rfl
  nodup := by decide
  apart := by simp [classSlots, Slot.Apart]
  get_set := by simp [classSlots]
  complete := by
    simp only [classSlots, List.forall_mem_cons]
    exact ⟨fun _ _ => complete_of_readString, fun _ _ => complete_of_readString,
      fun _ _ => complete_of_readList fun _ _ => slotted_attributeDef.complete_of_read,
      List.forall_mem_nil _⟩
  member := by
    simp only [classSlots, List.forall_mem_cons]
    exact ⟨fun _ _ => rfl, fun _ _ => rfl, fun _ _ => rfl, List.forall_mem_nil _⟩
  skipped d name t hfields := by
    simp only [ClassDef.record, List.mem_cons, List.not_mem_nil, or_false, not_or] at hfields
    obtain ⟨hid, hname, hattributes⟩ := hfields
    simp only [ClassDef.record]
    rfl

/-- Relations are slotted. -/
lemma slotted_relationDef : RelationDef.record.Slotted relationSlots where
  fields := rfl
  nodup := by decide
  apart := by simp [relationSlots, Slot.Apart]
  get_set := by simp [relationSlots]
  complete := by
    simp only [relationSlots, List.forall_mem_cons]
    exact ⟨fun _ _ => complete_of_readString, fun _ _ => complete_of_readString,
      fun _ _ => complete_of_readString, fun _ _ => complete_of_readName,
      fun _ _ => complete_of_readOption fun _ => complete_of_readString, List.forall_mem_nil _⟩
  member := by
    simp only [relationSlots, List.forall_mem_cons]
    exact ⟨fun _ _ => rfl, fun _ _ => rfl, fun _ _ => rfl, fun _ _ => rfl, fun _ _ => rfl,
      List.forall_mem_nil _⟩
  skipped d name t hfields := by
    simp only [RelationDef.record, List.mem_cons, List.not_mem_nil, or_false, not_or] at hfields
    obtain ⟨hid, hsource, htarget, hkind, hassociation⟩ := hfields
    simp only [RelationDef.record]
    rfl

/-- Diagrams are slotted. -/
lemma slotted_diagram : Snapshot.record.Slotted diagramSlots where
  fields := rfl
  nodup := by decide
  apart := by simp [diagramSlots, Slot.Apart]
  get_set := by simp [diagramSlots]
  complete := by
    simp only [diagramSlots, List.forall_mem_cons]
    exact ⟨fun _ _ => complete_of_readList fun _ _ => slotted_classDef.complete_of_read,
      fun _ _ => complete_of_readList fun _ _ => slotted_relationDef.complete_of_read,
      List.forall_mem_nil _⟩
  member := by
    simp only [diagramSlots, List.forall_mem_cons]
    exact ⟨fun _ _ => rfl, fun _ _ => rfl, List.forall_mem_nil _⟩
  skipped d name t hfields := by
    simp only [Snapshot.record, List.mem_cons, List.not_mem_nil, or_false, not_or] at hfields
    obtain ⟨hclasses, hrelations⟩ := hfields
    simp only [Snapshot.record]
    rfl

/-- Every record of a diagram is slotted, whatever its kind. -/
lemma exists_slotted (p : Part) : ∃ slots, p.record.Slotted slots := by
  cases p with
  | diagram => exact ⟨_, slotted_diagram⟩
  | classDef => exact ⟨_, slotted_classDef⟩
  | attributeDef => exact ⟨_, slotted_attributeDef⟩
  | relationDef => exact ⟨_, slotted_relationDef⟩

@[simp] lemma fields_record (p : Part) : p.record.fields = p.fieldNames := by cases p <;> rfl

end Part

/-! ### Changes -/

/-- One change to the value of a record: its members in another order, one more member that it does
not know, its fields as an array, or a change to one of the records that it lists. -/
inductive Change : Part → Tree → Tree → Prop
  | permute {p : Part} {ms ms' : List (StringLiteral × Tree)} (h : ms.Perm ms') :
      Change p (.object ms none) (.object ms' none)
  | insert {p : Part} {front back : List (StringLiteral × Tree)} {key : StringLiteral}
      {name : String} {value : Tree} (hkey : key.decode = .ok name) (hname : name ∉ p.fieldNames) :
      Change p (.object (front ++ back) none) (.object (front ++ (key, value) :: back) none)
  | array {p : Part} {ms ms' : List (StringLiteral × Tree)} (h : ms.Perm ms')
      (hfields : List.Forall₂ (fun m name => m.1.decode = .ok name) ms' p.fieldNames) :
      Change p (.object ms none) (.array (ms'.map (·.2)) none)
  | member {p q : Part} {front back : List (StringLiteral × Tree)} {key : StringLiteral}
      {name : String} {before after : List Tree} {t t' : Tree} (hkey : key.decode = .ok name)
      (hfield : (name, some q) ∈ p.fields) (h : Change q t t') :
      Change p (.object (front ++ (key, .array (before ++ t :: after) none) :: back) none)
        (.object (front ++ (key, .array (before ++ t' :: after) none) :: back) none)
  | item {p q : Part} {front back : List Tree} {name : String} {before after : List Tree}
      {t t' : Tree} (hfield : p.fields[front.length]? = some (name, some q)) (h : Change q t t') :
      Change p (.array (front ++ .array (before ++ t :: after) none :: back) none)
        (.array (front ++ .array (before ++ t' :: after) none :: back) none)

/-- An item of a list may be replaced by one that is read as the same. -/
lemma readList_replace {α : Type} {read : Tree → Except Json.Error α} {before after : List Tree}
    {t t' : Tree} (h : ∀ a, read t = .ok a → read t' = .ok a) {l : List α}
    (hl : readList read (.array (before ++ t :: after) none) = .ok l) :
    readList read (.array (before ++ t' :: after) none) = .ok l := by
  have hitems : ∀ (before : List Tree) (values : List α),
      (before ++ t :: after).mapM read = .ok values →
        (before ++ t' :: after).mapM read = .ok values := by
    intro before
    induction before with
    | nil =>
      intro values hvalues
      simp only [List.nil_append, List.mapM_cons, bind_eq_ok_iff] at hvalues ⊢
      obtain ⟨a, ha, hrest⟩ := hvalues
      exact ⟨a, h a ha, hrest⟩
    | cons u before ih =>
      intro values hvalues
      simp only [List.cons_append, List.mapM_cons, bind_eq_ok_iff] at hvalues ⊢
      obtain ⟨a, ha, more, hmore, hrest⟩ := hvalues
      exact ⟨a, ha, more, ih more hmore, hrest⟩
  obtain ⟨values, hvalues, hrest⟩ := bind_eq_ok_iff.mp hl
  exact bind_eq_ok_iff.mpr ⟨values, hitems before values hvalues, hrest⟩

/-- A field of a record may be given by another value that is read as the same list. -/
lemma Part.member_replace {p q : Part} {name : String} (hfield : (name, some q) ∈ p.fields)
    {t t' : Tree}
    (h : ∀ l, readList q.record.read t = .ok l → readList q.record.read t' = .ok l)
    {d d' : p.Draft} (hd : p.record.member d name t = .ok d') :
    p.record.member d name t' = .ok d' := by
  have honce : ∀ {slot : Option (List q.Content)} {x : Option (List q.Content)},
      once name slot (readList q.record.read t) = .ok x →
        once name slot (readList q.record.read t') = .ok x := by
    intro slot x hx
    unfold once at hx ⊢
    split at hx
    · cases hx
    · rename_i hslot
      rw [if_neg hslot]
      obtain ⟨l, hl, hxl⟩ := map_eq_ok_iff.mp hx
      exact map_eq_ok_iff.mpr ⟨l, h l hl, hxl⟩
  cases p with
  | diagram =>
    simp only [Part.fields, List.mem_cons, Prod.mk.injEq, Option.some.injEq, List.not_mem_nil,
      or_false] at hfield
    obtain ⟨rfl, rfl⟩ | ⟨rfl, rfl⟩ := hfield
    · obtain ⟨x, hx, hset⟩ := bind_eq_ok_iff.mp hd
      exact bind_eq_ok_iff.mpr ⟨x, honce hx, hset⟩
    · obtain ⟨x, hx, hset⟩ := bind_eq_ok_iff.mp hd
      exact bind_eq_ok_iff.mpr ⟨x, honce hx, hset⟩
  | classDef =>
    simp only [Part.fields, List.mem_cons, Prod.mk.injEq, Option.some.injEq, List.not_mem_nil,
      reduceCtorEq, and_false, or_false, false_or] at hfield
    obtain ⟨rfl, rfl⟩ := hfield
    obtain ⟨x, hx, hset⟩ := bind_eq_ok_iff.mp hd
    exact bind_eq_ok_iff.mpr ⟨x, honce hx, hset⟩
  | attributeDef => simp [Part.fields] at hfield
  | relationDef => simp [Part.fields] at hfield

/-- A change to a complete value leaves what is read from it as it is. -/
lemma Change.read_eq {p : Part} {t t' : Tree} (h : Change p t t') (ht' : t'.Complete)
    {a : p.Content} (ha : p.record.read t = .ok a) : p.record.read t' = .ok a := by
  induction h with
  | @permute p ms ms' hperm =>
    obtain ⟨slots, hslots⟩ := p.exists_slotted
    obtain ⟨d, hd, -, hfinish⟩ := p.record.read_object_eq_ok_iff.mp ha
    exact p.record.read_object_eq_ok_iff.mpr ⟨d, hslots.readMembers_perm hperm hd, rfl, hfinish⟩
  | @insert p front back key name value hkey hname =>
    obtain ⟨slots, hslots⟩ := p.exists_slotted
    obtain ⟨d, hd, -, hfinish⟩ := p.record.read_object_eq_ok_iff.mp ha
    have hvalue : value.Complete :=
      ((Tree.complete_object.mp ht').1 (key, value) (by simp)).2
    rw [← p.fields_record] at hname
    refine p.record.read_object_eq_ok_iff.mpr ⟨d, ?_, rfl, hfinish⟩
    exact hslots.readMembers_insert (by rw [hkey]; rfl) hname hvalue hd
  | @array p ms ms' hperm hfields =>
    obtain ⟨slots, hslots⟩ := p.exists_slotted
    obtain ⟨d, hd, -, hfinish⟩ := p.record.read_object_eq_ok_iff.mp ha
    rw [← p.fields_record] at hfields
    refine p.record.read_array_eq_ok_iff.mpr ⟨d, ?_, hfinish⟩
    refine Record.readItems_of_readMembers ?_ (hslots.readMembers_perm hperm hd)
    exact List.Forall₂.imp (fun m name hname => by rw [hname]; rfl) hfields
  | @member p q front back key name before after t t' hkey hfield h ih =>
    obtain ⟨slots, hslots⟩ := p.exists_slotted
    obtain ⟨d, hd, -, hfinish⟩ := p.record.read_object_eq_ok_iff.mp ha
    have hlist :=
      ((Tree.complete_object.mp ht').1 (key, .array (before ++ t' :: after) none) (by simp)).2
    have hitem : t'.Complete := (Tree.complete_array.mp hlist).1 t' (by simp)
    refine p.record.read_object_eq_ok_iff.mpr ⟨d, ?_, rfl, hfinish⟩
    refine hslots.readMembers_replace (by rw [hkey]; rfl) (fun d d' hd => ?_) hd
    exact Part.member_replace hfield (fun l => readList_replace fun a => ih hitem) hd
  | @item p q front back name before after t t' hfield h ih =>
    obtain ⟨d, hd, hfinish⟩ := p.record.read_array_eq_ok_iff.mp ha
    have hlist := (Tree.complete_array.mp ht').1 (.array (before ++ t' :: after) none) (by simp)
    have hitem : t'.Complete := (Tree.complete_array.mp hlist).1 t' (by simp)
    refine p.record.read_array_eq_ok_iff.mpr ⟨d, ?_, hfinish⟩
    have hname : p.record.fields[front.length]? = some name := by
      rw [p.fields_record, Part.fieldNames, List.getElem?_map, hfield]
      rfl
    refine Record.readItems_replace (fun d d' hd => ?_) hname hd
    exact Part.member_replace (List.mem_of_getElem? hfield)
      (fun l => readList_replace fun a => ih hitem) hd

/-! ### Texts -/

/-- Two texts are documents of one value, so that they differ in blanks and in the spelling of
literals at most, or of two values that differ by one change. -/
def Varies (text text' : String) : Prop :=
  ∃ t t', IsDocument text t ∧ IsDocument text' t' ∧ (t = t' ∨ Change .diagram t t')

/-- A text is read as a record if it is a document of a value that is. -/
lemma ofText_eq_ok_iff {δ α : Type} {r : Record δ α} {slots : List (Slot δ)}
    (h : r.Slotted slots) {text : String} {a : α} :
    r.ofText text = .ok a ↔ ∃ t, IsDocument text t ∧ r.read t = .ok a := by
  constructor
  · intro ha
    unfold Record.ofText at ha
    rcases hparse : parse text with ⟨t, trailing⟩
    rw [hparse] at ha
    dsimp only at ha
    split at ha
    · cases ha
    · rename_i b hread
      cases trailing with
      | true => cases ha
      | false =>
        cases ha
        exact ⟨t, parse_eq_iff.mp ⟨hparse, h.complete_of_read hread⟩, hread⟩
  · rintro ⟨t, ht, hread⟩
    unfold Record.ofText
    rw [(parse_eq_iff.mpr ht).1]
    simp only [hread, Bool.false_eq_true, if_false]

/-- A document of a value is read as what the value is read as: it is a document of this one
only. -/
lemma ofText_iff_read {δ α : Type} {r : Record δ α} {slots : List (Slot δ)} (h : r.Slotted slots)
    {text : String} {t : Tree} (ht : IsDocument text t) {a : α} :
    r.ofText text = .ok a ↔ r.read t = .ok a := by
  rw [ofText_eq_ok_iff h]
  constructor
  · rintro ⟨u, hu, hread⟩
    obtain rfl : u = t :=
      congrArg Document.tree ((parse_eq_iff.mpr hu).1.symm.trans (parse_eq_iff.mpr ht).1)
    exact hread
  · exact fun hread => ⟨t, ht, hread⟩

/-- **The reader of diagrams looks at nothing but shape.** A text that is read is a JSON document,
and every text that comes from it by any number of variations is read as the same diagram: other
blanks between the tokens, and for the diagram or any class, attribute or relation in it other
orders of its members, additional members with names that are no fields of it, and the array of its
fields instead of an object that has each of them once. -/
theorem Snapshot.ofJson_of_varies {text : String} {s : Snapshot} (h : ofJson text = .ok s) :
    (∃ t, IsDocument text t) ∧
      ∀ text', Relation.ReflTransGen Varies text text' → ofJson text' = .ok s := by
  have hstep : ∀ {text text' : String}, Varies text text' → ofJson text = .ok s →
      ofJson text' = .ok s := by
    rintro text text' ⟨t, t', ht, ht', hchange⟩ hs
    obtain ⟨u, hu, hread⟩ := (ofText_eq_ok_iff Part.slotted_diagram).mp hs
    -- a text is a document of one value only, the one it is parsed as
    obtain rfl : u = t :=
      congrArg Document.tree ((parse_eq_iff.mpr hu).1.symm.trans (parse_eq_iff.mpr ht).1)
    refine (ofText_eq_ok_iff Part.slotted_diagram).mpr ⟨t', ht', ?_⟩
    rcases hchange with rfl | hchange
    · exact hread
    · exact hchange.read_eq ht'.2 hread
  constructor
  · obtain ⟨t, ht, -⟩ := (ofText_eq_ok_iff Part.slotted_diagram).mp h
    exact ⟨t, ht⟩
  · intro text' hvaries
    induction hvaries with
    | refl => exact h
    | tail _ hlast ih => exact hstep hlast ih

/-- The members of a class with the name Shop. -/
def shopMembers : List (StringLiteral × Tree) :=
  [(.ofString "id", .string (.ofString "c")), (.ofString "name", .string (.ofString "Shop"))]

/-- A member that no class has. -/
def extraMember : StringLiteral × Tree :=
  (.ofString "x", .array [.number ⟨false, ['1'], none, none⟩ none] none)

/-- The fields of a diagram of one class that has the given members. -/
def diagramMembers (ms : List (StringLiteral × Tree)) : List (StringLiteral × Tree) :=
  [(.ofString "classes", .array [.object ms none] none), (.ofString "relations", .array [] none)]

/-- A diagram of one class is read as before when the class gets a member that it does not know,
then has its members in the opposite order, and the diagram becomes the array of its fields, with
blanks here and there. -/
theorem ofJson_of_varies_shop :
    Snapshot.ofJson
        "\x7b\"classes\":[\x7b\"id\":\"c\",\"name\":\"Shop\"\x7d],\"relations\":[]\x7d" =
      .ok { classes := [{ id := "c", name := "Shop" }] } ∧
    Snapshot.ofJson " [[\x7b\"x\" : [1],\n\"name\":\"Shop\",\"id\":\"c\"\x7d],\t[]]" =
      .ok { classes := [{ id := "c", name := "Shop" }] } := by
  have hplain : IsDocument
      "\x7b\"classes\":[\x7b\"id\":\"c\",\"name\":\"Shop\"\x7d],\"relations\":[]\x7d"
      (.object (diagramMembers shopMembers) none) := parse_eq_iff.mp ⟨rfl, rfl⟩
  have hextra : IsDocument ("\x7b\"classes\":[\x7b\"id\":\"c\",\"name\":\"Shop\",\"x\":[1]\x7d]," ++
      "\"relations\":[]\x7d") (.object (diagramMembers (shopMembers ++ [extraMember])) none) :=
    parse_eq_iff.mp ⟨rfl, rfl⟩
  have hreverse : IsDocument
      ("\x7b\"classes\":[\x7b\"x\":[1],\"name\":\"Shop\",\"id\":\"c\"\x7d]," ++
        "\"relations\":[]\x7d")
      (.object (diagramMembers (shopMembers ++ [extraMember]).reverse) none) :=
    parse_eq_iff.mp ⟨rfl, rfl⟩
  have harray : IsDocument " [[\x7b\"x\" : [1],\n\"name\":\"Shop\",\"id\":\"c\"\x7d],\t[]]"
      (.array ((diagramMembers (shopMembers ++ [extraMember]).reverse).map (·.2)) none) :=
    parse_eq_iff.mp ⟨rfl, rfl⟩
  have hclass : ∀ {ms ms' : List (StringLiteral × Tree)},
      Change .classDef (.object ms none) (.object ms' none) →
        Change .diagram (.object (diagramMembers ms) none) (.object (diagramMembers ms') none) :=
    @fun ms ms' => @Change.member .diagram .classDef [] [_] _ _ [] [] _ _
      (StringLiteral.decode_ofString "classes") (by decide)
  have hinsert : Varies _ _ := ⟨_, _, hplain, hextra, .inr <| hclass <|
    @Change.insert .classDef shopMembers [] _ _ _ (StringLiteral.decode_ofString "x") (by decide)⟩
  have hpermute : Varies _ _ := ⟨_, _, hextra, hreverse, .inr <| hclass <|
    .permute (List.reverse_perm _).symm⟩
  have hlist : Varies _ _ := ⟨_, _, hreverse, harray, .inr <| .array (.refl _) <|
    .cons (StringLiteral.decode_ofString "classes")
      (.cons (StringLiteral.decode_ofString "relations") .nil)⟩
  have h := (ofText_eq_ok_iff Part.slotted_diagram).mpr ⟨_, hplain, rfl⟩
  exact ⟨h, (Snapshot.ofJson_of_varies h).2 _ (((Relation.ReflTransGen.single hinsert).tail
    hpermute).tail hlist)⟩

end CrudScaffold

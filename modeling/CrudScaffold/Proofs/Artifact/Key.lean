import Mathlib.Data.List.Infix
import CrudScaffold.Proofs.Artifact.Line
import CrudScaffold.Proofs.Entity.Key

/-!
# One key in all files of an entity

Four files of an entity speak of its key. The model marks one of its members as the key, the
repository takes the type of the key as an argument, and service and controller are called with
keys. They agree on it (`Entity.agreesOnKey`) unless a line end in the name of a join lets the model
write a line of its own that marks another one.
-/

namespace CrudScaffold

open Naming

/-! ### Lines of the model -/

/-- A text is written on one line, and this line does not mark a key. -/
structure IsPlain (t : String) : Prop where
  oneLine : '\n' ∉ t.toList
  noKey : Code.trimmed t ≠ "@Id"

/-- A text on one line is plain if it begins neither with a blank nor like the mark of a key. -/
lemma isPlain_of_take {t : String} (h : '\n' ∉ t.toList ∧ t.toList.head? ≠ some ' ' ∧
    t.toList.take 2 ≠ ['@', 'I']) : IsPlain t := by
  obtain ⟨hline, hblank, htake⟩ := h
  refine ⟨hline, fun hkey => htake ?_⟩
  rw [Code.trimmed_eq_self hblank] at hkey
  rw [hkey]
  decide

@[simp] lemma isPlain_empty : IsPlain "" := ⟨by decide, by decide⟩

@[simp] lemma isPlain_brace : IsPlain "\x7d" := ⟨by decide, by decide⟩

namespace Member.IsWordy

variable {m : Member}

/-- The declaration of a member is plain. -/
lemma isPlain_declaration (h : m.IsWordy) : IsPlain m.declaration := by
  have htype := lineEnd_notMem_of_marks h.type
  have hname := lineEnd_notMem_of_marks h.name.marks_eq_nil
  exact isPlain_of_take (by simp [declaration, toString_text, htype, hname])

/-- So is that of a collection. -/
lemma isPlain_declarationWith (h : m.IsWordy) {collection : String}
    (hcollection : '\n' ∉ collection.toList) : IsPlain (m.declarationWith collection) := by
  have htype := lineEnd_notMem_of_marks h.type
  have hname := lineEnd_notMem_of_marks h.name.marks_eq_nil
  exact isPlain_of_take (by simp [declarationWith, toString_text, htype, hname, hcollection])

/-- So are its methods. -/
lemma isPlain_accessors (h : m.IsWordy) : ∀ t ∈ Code.textsOf m.accessors, IsPlain t := by
  have htype := lineEnd_notMem_of_marks h.type
  have hname := lineEnd_notMem_of_marks h.name.marks_eq_nil
  have hupper := lineEnd_notMem_of_marks h.name.upperFirst.marks_eq_nil
  have hreads : IsPlain (s!"public {m.type} {getter m.name}()" ++ " \x7b") :=
    isPlain_of_take (by simp [getter, toString_text, htype, hupper])
  have hreturns : IsPlain s!"return {m.name};" :=
    isPlain_of_take (by simp [toString_text, hname])
  have hwrites : IsPlain (s!"public void {setter m.name}({m.type} {m.name})" ++ " \x7b") :=
    isPlain_of_take (by simp [setter, toString_text, htype, hname, hupper])
  have hassigns : IsPlain s!"this.{m.name} = {m.name};" :=
    isPlain_of_take (by simp [toString_text, hname])
  simp only [accessors, reader, writer, Code.blank, Code.braces, Code.textsOf, Code.texts,
    List.append_nil, List.cons_append, List.nil_append, List.forall_mem_cons, List.not_mem_nil,
    false_implies, implies_true, and_true]
  exact ⟨isPlain_empty, hreads, hreturns, isPlain_brace, isPlain_empty, hwrites, hassigns,
    isPlain_brace⟩

end Member.IsWordy

namespace RelationshipField.IsWordy

variable {f : RelationshipField}

/-- The declaration of a relationship field is plain. -/
lemma isPlain_declaration (h : f.IsWordy) : IsPlain f.declaration := by
  rw [declaration, collection]
  cases f.kind with
  | manyToOne => exact h.isWordy_member.isPlain_declaration
  | oneToMany => exact h.isWordy_member.isPlain_declarationWith (by decide)
  | manyToMany => exact h.isWordy_member.isPlain_declarationWith (by decide)

/-- So are its annotations if no line end is in the name of its column or table. -/
lemma isPlain_of_mem_annotations (h : f.IsWordy) {own : String} (hown : IsWordText own)
    (hjoin : '\n' ∉ f.joinName.toList) : ∀ a ∈ f.annotations own, IsPlain a := by
  have hmapping := lineEnd_notMem_of_marks h.mappingField.marks_eq_nil
  obtain ⟨hcolumn, hother⟩ := h.marks_joinColumns hown
  have hhere := lineEnd_notMem_of_marks hcolumn
  have hthere := lineEnd_notMem_of_marks hother
  rw [annotations]
  generalize f.joinColumns own = columns at hhere hthere ⊢
  cases f.kind with
  | manyToOne =>
    refine List.forall_mem_cons.mpr ⟨⟨by decide, by decide⟩, List.forall_mem_singleton.mpr ?_⟩
    exact isPlain_of_take (by simp [toString_text, hjoin])
  | oneToMany =>
    exact List.forall_mem_singleton.mpr (isPlain_of_take (by simp [toString_text, hmapping]))
  | manyToMany =>
    cases f.side with
    | owning =>
      refine List.forall_mem_cons.mpr ⟨⟨by decide, by decide⟩, List.forall_mem_singleton.mpr ?_⟩
      exact isPlain_of_take (by simp [toString_text, hjoin, hhere, hthere])
    | inverse =>
      exact List.forall_mem_singleton.mpr (isPlain_of_take (by simp [toString_text, hmapping]))

end RelationshipField.IsWordy

/-- What is required of a column is plain. -/
lemma Attribute.isPlain_of_mem_columnAnnotations (a : Attribute) :
    ∀ line ∈ a.columnAnnotations, IsPlain line := by
  have hdigits : ∀ n : UInt32, '\n' ∉ (toString n).toList :=
    fun n => lineEnd_notMem_of_marks (marks_toString_uint32 n)
  rw [columnAnnotations, columnRules]
  cases a.isRequired with
  | false =>
    cases a.textLimit with
    | none => exact List.forall_mem_nil _
    | some n =>
      refine List.forall_mem_singleton.mpr ?_
      change IsPlain ("@Column(" ++ s!"length = {n}" ++ ")")
      exact isPlain_of_take (by simp [toString_text, hdigits])
  | true =>
    cases a.textLimit with
    | none => exact List.forall_mem_singleton.mpr ⟨by decide, by decide⟩
    | some n =>
      refine List.forall_mem_singleton.mpr ?_
      change IsPlain ("@Column(" ++ ("nullable = false" ++ ", " ++ s!"length = {n}") ++ ")")
      exact isPlain_of_take (by simp [toString_text, hdigits])

/-! ### Keys that the model marks -/

/-- Some code is written line by line, and so many of its lines mark a key. -/
structure Code.MarksKeys (n : Nat) (code : List Code) : Prop where
  oneLine : ∀ t ∈ Code.textsOf code, '\n' ∉ t.toList
  marks : ((Code.textsOf code).map Code.trimmed).count "@Id" = n

namespace Code.MarksKeys

variable {m n : Nat} {a b body : List Code} {header : String}

/-- Plain code marks no key. -/
lemma of_isPlain (h : ∀ t ∈ textsOf a, IsPlain t) : MarksKeys 0 a := by
  refine ⟨fun t ht => (h t ht).oneLine, List.count_eq_zero.mpr fun hkey => ?_⟩
  obtain ⟨t, ht, he⟩ := List.mem_map.mp hkey
  exact (h t ht).noKey he

/-- Two pieces of code mark as many keys as both together. -/
lemma append (ha : MarksKeys m a) (hb : MarksKeys n b) : MarksKeys (m + n) (a ++ b) := by
  constructor
  · rw [textsOf_append]
    exact List.forall_mem_append.mpr ⟨ha.oneLine, hb.oneLine⟩
  · rw [textsOf_append, List.map_append, List.count_append, ha.marks, hb.marks]

/-- Code that is put together from blocks marks a key for each block that does. -/
lemma flatMap {α : Type} {p : α → Bool} {f : α → List Code} {l : List α}
    (h : ∀ x ∈ l, MarksKeys (if p x then 1 else 0) (f x)) :
    MarksKeys (l.countP p) (l.flatMap f) := by
  induction l with
  | nil => exact of_isPlain (List.forall_mem_nil _)
  | cons x l ih =>
    obtain ⟨hx, hrest⟩ := List.forall_mem_cons.mp h
    rw [List.flatMap_cons, List.countP_cons, Nat.add_comm]
    exact hx.append (ih hrest)

/-- A block marks the keys that its body marks. -/
lemma braces (h : MarksKeys n body) (hheader : IsPlain (header ++ " \x7b")) :
    MarksKeys n [.braces header body] := by
  have hopens : MarksKeys 0 [line (header ++ " \x7b")] :=
    of_isPlain (List.forall_mem_singleton.mpr hheader)
  have hcloses : MarksKeys 0 [line "\x7d"] :=
    of_isPlain (List.forall_mem_singleton.mpr isPlain_brace)
  have hall := (hopens.append h).append hcloses
  have htexts : textsOf [Code.braces header body] =
      textsOf ([line (header ++ " \x7b")] ++ body ++ [line "\x7d"]) := by
    simp [textsOf_append, textsOf, texts, Code.braces]
  rw [Nat.zero_add, Nat.add_zero] at hall
  exact ⟨htexts ▸ hall.oneLine, htexts ▸ hall.marks⟩

/-- In the text of some code the keys that it marks are found. -/
lemma count_render (h : MarksKeys n a) : (codeLines (render a)).count "@Id" = n := by
  have hend : [""].count "@Id" = 0 := by decide
  rw [codeLines_render h.oneLine, List.count_append, h.marks, hend, Nat.add_zero]

end Code.MarksKeys

namespace Entity

variable {e : Entity} {annotations : List String} {declaration : String}

@[simp] lemma textsOf_declared (annotations : List String) (declaration : String) :
    Code.textsOf (declared annotations declaration) = "" :: (annotations ++ [declaration]) :=
  Code.textsOf_map_line ("" :: (annotations ++ [declaration]))

/-- Under plain annotations no key is declared. -/
lemma marksKeys_declared (hannotations : ∀ a ∈ annotations, IsPlain a)
    (hdeclaration : IsPlain declaration) : Code.MarksKeys 0 (declared annotations declaration) := by
  refine .of_isPlain ?_
  rw [textsOf_declared]
  exact List.forall_mem_cons.mpr ⟨isPlain_empty,
    List.forall_mem_append.mpr ⟨hannotations, List.forall_mem_singleton.mpr hdeclaration⟩⟩

/-- Under the annotations of a key one key is declared. -/
lemma marksKeys_declared_key (k : PrimaryKey) (hdeclaration : IsPlain declaration) :
    Code.MarksKeys 1 (declared k.annotations declaration) := by
  have hkey : Code.MarksKeys 1 [.line "", .line "@Id"] := ⟨by decide, by decide⟩
  have hgenerated : Code.MarksKeys 0
      ((if k.isGenerated then ["@GeneratedValue(strategy = GenerationType.IDENTITY)"]
        else []).map .line) := by
    refine .of_isPlain ?_
    rw [Code.textsOf_map_line]
    split_ifs
    · exact List.forall_mem_singleton.mpr ⟨by decide, by decide⟩
    · exact List.forall_mem_nil _
  have hfield : Code.MarksKeys 0 [.line declaration] :=
    .of_isPlain (List.forall_mem_singleton.mpr hdeclaration)
  have hall := (hkey.append hgenerated).append hfield
  simpa [declared, PrimaryKey.annotations, Code.blank] using hall

/-- The names of the columns and tables of joins in an entity have no line end in them. -/
def JoinsOneLine (e : Entity) : Prop := ∀ f ∈ e.relationships, '\n' ∉ f.joinName.toList

/-- The body of a model marks the key that is added and those that attributes are. -/
lemma marksKeys_modelBody (he : e.IsWordy) (hjoins : e.JoinsOneLine) :
    Code.MarksKeys (e.addedKey.length + e.attributes.countP Attribute.isPrimaryKey)
      e.modelBody := by
  have hadded : Code.MarksKeys e.addedKey.length
      (e.addedKey.flatMap fun k => declared k.annotations k.member.declaration) := by
    rw [← List.countP_true]
    refine .flatMap fun k hk => marksKeys_declared_key k ?_
    exact IsWordy.eq_of_mem_addedKey hk ▸ he.isWordy_key.isPlain_declaration
  have hattributes : Code.MarksKeys (e.attributes.countP Attribute.isPrimaryKey)
      (e.attributes.flatMap e.modelAttribute) := by
    refine .flatMap fun a ha => ?_
    have hdeclaration := (he.isWordy_attribute ha).isPlain_declaration
    rw [modelAttribute]
    split_ifs
    · exact marksKeys_declared_key _ hdeclaration
    · exact marksKeys_declared a.isPlain_of_mem_columnAnnotations hdeclaration
  have hrelationships : Code.MarksKeys 0
      (e.relationships.flatMap fun f => declared (f.annotations e.typeName) f.declaration) := by
    have hnone : e.relationships.countP (fun _ => false) = 0 := congrFun List.countP_false _
    rw [← hnone]
    refine .flatMap fun f hf => marksKeys_declared ?_ (he.relationships f hf).isPlain_declaration
    exact (he.relationships f hf).isPlain_of_mem_annotations he.typeName (hjoins f hf)
  have hconstructor : Code.MarksKeys 0 [.blank, .braces s!"public {e.typeName}()" []] := by
    have hname := lineEnd_notMem_of_marks he.typeName.marks_eq_nil
    refine .of_isPlain ?_
    simp only [Code.textsOf, Code.texts, Code.blank, Code.braces, List.append_nil,
      List.cons_append, List.nil_append, List.forall_mem_cons, List.not_mem_nil, false_implies,
      implies_true, and_true]
    exact ⟨isPlain_empty, isPlain_of_take (by simp [toString_text, hname]), isPlain_brace⟩
  have haccessors : Code.MarksKeys 0 (e.modelMembers.flatMap Member.accessors) := by
    have hnone : e.modelMembers.countP (fun _ => false) = 0 := congrFun List.countP_false _
    rw [← hnone]
    exact .flatMap fun m hm => .of_isPlain (he.isWordy_of_mem_modelMembers hm).isPlain_accessors
  exact (((hadded.append hattributes).append hrelationships).append hconstructor).append haccessors

/-- The model marks the key that is added and those that attributes are. -/
lemma marksKeys_model (he : e.IsWordy) (hjoins : e.JoinsOneLine) :
    Code.MarksKeys (e.addedKey.length + e.attributes.countP Attribute.isPrimaryKey)
      (ArtifactKind.model.code e) := by
  have hhead : Code.MarksKeys 0 (preamble (e.layerPackage "model") e.modelImports) := by
    refine .of_isPlain fun l hl => ?_
    rw [Code.textsOf_preamble] at hl
    have hline := ArtifactKind.lineEnd_notMem_head he .model l hl
    rcases Code.mem_linesOf_preamble.mp hl with rfl | rfl | ⟨i, -, rfl⟩
    · exact isPlain_of_take ⟨hline, by simp [toString_text], by simp [toString_text]⟩
    · exact isPlain_empty
    · exact isPlain_of_take ⟨hline, by simp [toString_text], by simp [toString_text]⟩
  have hentity : Code.MarksKeys 0 [.line "@Entity"] := ⟨by decide, by decide⟩
  have hname := lineEnd_notMem_of_marks he.typeName.marks_eq_nil
  have hheader : IsPlain (s!"public class {e.typeName}" ++ " \x7b") :=
    isPlain_of_take (by simp [toString_text, hname])
  have hclass := (marksKeys_modelBody he hjoins).braces hheader
  have hall := hhead.append (hentity.append hclass)
  rwa [Nat.zero_add, Nat.zero_add] at hall

end Entity

namespace Entity

variable {e : Entity}

/-- The header of a repository has the type of the key behind that of the model. -/
lemma headers_access (he : e.IsWordy) :
    Code.headers (ArtifactKind.access.render e) =
      [s!"public interface {e.typeName}Access extends "
        ++ s!"JpaRepository<{e.typeName}, {e.primaryKey.java.name}>"] := by
  rw [ArtifactKind.render, Code.headers_render (ArtifactKind.lineEnd_notMem_access he)]
  change Code.codeHeaders (accessFile e) = _
  rw [accessFile, Code.codeHeaders_append, Code.codeHeaders_preamble, List.nil_append,
    Code.codeHeaders_cons_line (by decide), Code.codeHeaders_cons_braces]
  · rfl
  · simp [Code.beginsMember, toString_text]

/-- The headers of a service have the type of the key where they take one. -/
lemma headers_logic (he : e.IsWordy) :
    Code.headers (ArtifactKind.logic.render e) =
      [s!"public class {e.typeName}Logic",
        s!"public {e.typeName}Logic({e.typeName}Access access, {e.typeName}Mapper mapper)",
        s!"public void create({e.typeName}Request request)",
        s!"public {e.typeName}Response getById({e.primaryKey.java.name} id)",
        s!"public List<{e.typeName}Response> listAll()",
        s!"public void update({e.primaryKey.java.name} id, {e.typeName}Request request)",
        s!"public void delete({e.primaryKey.java.name} id)",
        s!"private ResponseStatusException notFound({e.primaryKey.java.name} id)"] := by
  rw [ArtifactKind.render, Code.headers_render (ArtifactKind.lineEnd_notMem_logic he)]
  change Code.codeHeaders (logicFile e) = _
  have hstored : ∀ code, Code.codeHeaders (requireStored :: code) = Code.codeHeaders code := by
    intro code
    rw [← List.singleton_append, Code.codeHeaders_append]
    rfl
  have hnil : Code.codeHeaders [] = [] := rfl
  simp (disch := first
    | decide
    | exact Code.getLast?_append_ne _ (by decide)
    | simp [Code.beginsMember, toString_text]) only
    [logicFile, logicMethods, Code.codeHeaders_append, Code.codeHeaders_preamble,
      Code.codeHeaders_cons_line, Code.codeHeaders_cons_braces, hstored, hnil, Code.blank,
      List.nil_append, List.append_nil, List.cons_append]

/-- The service sets the key before it saves what replaces an object. -/
lemma update_infix_logic (he : e.IsWordy) (hname : IsName e.typeName) :
    [s!"public void update({e.primaryKey.java.name} id, {e.typeName}Request request)" ++ " \x7b",
      "if (!access.existsById(id)) \x7b",
      "throw notFound(id);",
      "\x7d",
      s!"{e.typeName} model = mapper.toModel(request);",
      s!"model.{setter e.primaryKey.fieldName}(id);",
      "access.save(model);",
      "\x7d"] <:+: Code.codeLines (ArtifactKind.logic.render e) := by
  have hmethod : [Code.braces
      s!"public void update({e.primaryKey.java.name} id, {e.typeName}Request request)"
      [requireStored,
        .line s!"{e.typeName} model = mapper.toModel(request);",
        .line s!"model.{setter e.primaryKey.fieldName}(id);",
        .line "access.save(model);"]] <:+: e.logicMethods :=
    (List.singleton_infix_iff _ _).mpr (by simp [logicMethods])
  have hinfix := Code.infix_codeLines_of_infix_body (ArtifactKind.lineEnd_notMem_logic he)
    (List.infix_append_of_infix_right hmethod)
  have hheader : ∀ header, Code.beginsMember header →
      Code.trimmed (header ++ " \x7b") = header ++ " \x7b" :=
    fun _ hbegins => (Code.beginsMember_append hbegins _).2
  have hmodel : Code.trimmed s!"{e.typeName} model = mapper.toModel(request);" =
      s!"{e.typeName} model = mapper.toModel(request);" := by
    obtain ⟨c, cs, hcs, hblank⟩ := hname.exists_toList_eq_cons
    refine Code.trimmed_eq_self ?_
    simp [toString_text, hcs, hblank]
  have hsetter : Code.trimmed s!"model.{setter e.primaryKey.fieldName}(id);" =
      s!"model.{setter e.primaryKey.fieldName}(id);" :=
    Code.trimmed_eq_self (by simp [toString_text])
  have hbegins : Code.beginsMember
      s!"public void update({e.primaryKey.java.name} id, {e.typeName}Request request)" := by
    simp [Code.beginsMember, toString_text]
  simp only [Code.textsOf, Code.texts, Code.braces, requireStored, List.map_append, List.map_cons,
    List.map_nil, hheader _ hbegins, hmodel, hsetter] at hinfix
  exact hinfix

/-- The head of a controller has no annotation in it. -/
lemma at_notMem_apiHead (he : e.IsWordy) (hpackage : '@' ∉ e.package.toList) :
    ∀ l ∈ Code.linesOf 0 (preamble (e.layerPackage "api") e.apiImports), '@' ∉ l.toList := by
  have hname : '@' ∉ e.typeName.toList := fun h => absurd (he.typeName '@' h) (by decide)
  have himports : ∀ i ∈ e.apiImports, '@' ∉ i.toList := by
    refine ArtifactKind.api.forall_mem_imports he.typed (fun k => ?_) (by decide) (by decide)
    have hstem : '@' ∉ (k.stem e.typeName).toList :=
      fun h => absurd (ArtifactKind.isWordText_stem he k '@' h) (by decide)
    have hlayer : '@' ∉ k.layer.toList := by cases k <;> decide
    simp [ArtifactKind.ownType, qualified, toString_text, hpackage, hlayer, hstem]
  exact Code.notMem_preamble (by decide) (by simp [layerPackage, toString_text, hpackage]) himports

section Controller

variable {name key line : String} (hname : '@' ∉ name.toList)
  (hkey : '@' ∉ key.toList ∧ ' ' ∉ key.toList ∧ key.toList ≠ [])

include hkey in
/-- In a line of a controller the type of a path variable is found. -/
lemma wordsAt_pathVariable (before after : String) (hbefore : '@' ∉ before.toList)
    (hline : line = before ++ ("@" ++ ("PathVariable" ++ " " ++ key ++ " " ++ after))) :
    Code.wordsAt "PathVariable" line = key :: Code.wordsAt "PathVariable" after := by
  rw [hline]
  exact Code.wordsAt_append_word (by decide) hbefore hkey after

include hname in
/-- The body of a request is no path variable. -/
lemma wordsAt_requestBody (before : String) (hbefore : '@' ∉ before.toList)
    (hline : line = before ++
      ("@" ++ ("Valid " ++ ("@" ++ ("RequestBody " ++ name ++ "Request request) \x7b"))))) :
    Code.wordsAt "PathVariable" line = [] := by
  have hend : '@' ∉ ("RequestBody " ++ name ++ "Request request) \x7b").toList := by simp [hname]
  rw [hline, Code.wordsAt_append hbefore, Code.wordsAt_at_append (by simp),
    Code.wordsAt_append (by decide), Code.wordsAt_at_append (by simp), Code.wordsAt_eq_nil hend]

include hname in
/-- The method that takes a request has no path variable. -/
lemma wordsAt_create : Code.wordsAt "PathVariable"
    (s!"public ResponseEntity<Void> create(@Valid @RequestBody {name}Request request)" ++ " \x7b") =
      [] :=
  wordsAt_requestBody hname "public ResponseEntity<Void> create(" (by decide)
    (String.toList_injective (by simp [toString_text]))

include hname hkey in
/-- The method that reads an object is called with its key. -/
lemma wordsAt_getById : Code.wordsAt "PathVariable"
    (s!"public ResponseEntity<{name}Response> getById(@PathVariable {key} id)" ++ " \x7b") =
      [key] := by
  rw [wordsAt_pathVariable hkey s!"public ResponseEntity<{name}Response> getById(" "id) \x7b"
    (by simp [toString_text, hname]) (String.toList_injective (by simp [toString_text])),
    Code.wordsAt_eq_nil (by decide)]

include hname hkey in
/-- The method that replaces an object is called with its key and a request. -/
lemma wordsAt_update : Code.wordsAt "PathVariable"
    (s!"public ResponseEntity<Void> update(@PathVariable {key} id, "
      ++ s!"@Valid @RequestBody {name}Request request)" ++ " \x7b") = [key] := by
  rw [wordsAt_pathVariable hkey "public ResponseEntity<Void> update("
    s!"id, @Valid @RequestBody {name}Request request) \x7b" (by decide)
    (String.toList_injective (by simp [toString_text])),
    wordsAt_requestBody hname "id, " (by decide)
      (String.toList_injective (by simp [toString_text]))]

include hkey in
/-- The method that deletes an object is called with its key. -/
lemma wordsAt_delete : Code.wordsAt "PathVariable"
    (s!"public ResponseEntity<Void> delete(@PathVariable {key} id)" ++ " \x7b") = [key] := by
  rw [wordsAt_pathVariable hkey "public ResponseEntity<Void> delete(" "id) \x7b" (by decide)
    (String.toList_injective (by simp [toString_text])), Code.wordsAt_eq_nil (by decide)]

end Controller

/-- In a controller the type of the key stands behind every path variable. -/
lemma annotated_api (he : e.IsWordy) (hpackage : '@' ∉ e.package.toList) :
    Code.annotated "PathVariable" (ArtifactKind.api.render e) =
      [e.primaryKey.java.name, e.primaryKey.java.name, e.primaryKey.java.name] := by
  have hname : '@' ∉ e.typeName.toList := fun h => absurd (he.typeName '@' h) (by decide)
  have hlower : '@' ∉ (lowerFirst e.typeName).toList :=
    fun h => absurd (he.typeName.lowerFirst '@' h) (by decide)
  have hkey : '@' ∉ e.primaryKey.java.name.toList ∧ ' ' ∉ e.primaryKey.java.name.toList ∧
      e.primaryKey.java.name.toList ≠ [] := by
    obtain ⟨tag, htag⟩ := he.typed.key
    rw [htag]
    cases tag <;> decide
  have hhead : Code.codeAnnotated "PathVariable" (preamble (e.layerPackage "api") e.apiImports) =
      [] := by
    rw [Code.codeAnnotated, Code.textsOf_preamble, List.flatMap_eq_nil_iff]
    exact fun l hl => Code.wordsAt_eq_nil (at_notMem_apiHead he hpackage l hl)
  have hmapping : Code.wordsAt "PathVariable" s!"@RequestMapping(\"{e.resourcePath}\")" = [] := by
    have hline : s!"@RequestMapping(\"{e.resourcePath}\")" =
        "@" ++ ("RequestMapping(\"" ++ e.resourcePath ++ "\")") :=
      String.toList_injective (by simp [toString_text])
    have hroute : '@' ∉ ("RequestMapping(\"" ++ e.resourcePath ++ "\")").toList := by
      simp [resourcePath, hlower]
    rw [hline, Code.wordsAt_at_append (by simp), Code.wordsAt_eq_nil hroute]
  have hfixed : ∀ line ∈ ["@RestController", "@PostMapping", "@GetMapping",
      "@GetMapping(\"" ++ objectPath ++ "\")", "@PutMapping(\"" ++ objectPath ++ "\")",
      "@DeleteMapping(\"" ++ objectPath ++ "\")"], Code.wordsAt "PathVariable" line = [] := by
    decide
  rw [ArtifactKind.render, Code.annotated_render (ArtifactKind.lineEnd_notMem_api he)]
  change Code.codeAnnotated "PathVariable" (apiFile e) = _
  rw [apiFile, Code.codeAnnotated_append, hhead, List.nil_append, Code.codeAnnotated]
  -- all other lines have no annotation in them
  simp (disch := simp [toString_text, hname]) only
    [apiMethods, Code.textsOf, Code.texts, Code.braces, Code.blank, List.append_nil,
      List.nil_append, List.cons_append, List.flatMap_cons, List.flatMap_nil,
      wordsAt_create hname, wordsAt_getById hname hkey, wordsAt_update hname hkey,
      wordsAt_delete hkey, hmapping, hfixed, Code.wordsAt_eq_nil]

/-! ### Agreement on the key -/

/-- The key of an entity is the one that its attributes provide, and one of them is it at most. -/
structure IsKeyed (e : Entity) : Prop where
  key : e.primaryKey = keyOf e.attributes
  single : e.attributes.countP Attribute.isPrimaryKey ≤ 1

@[simp] lemma isKeyed_ofClass (c : ClassDef) (n : String) (fields : List RelationshipField)
    (package : String) : (ofClass c n fields package).IsKeyed :=
  ⟨rfl, countP_isPrimaryKey_ofClass⟩

namespace IsKeyed

/-- The key is either added, or one attribute is it. -/
lemma length_addedKey_add_countP (h : e.IsKeyed) :
    e.addedKey.length + e.attributes.countP Attribute.isPrimaryKey = 1 := by
  rcases keyOf_cases e.attributes with ⟨a, ha, hkey, heq⟩ | ⟨hnone, heq⟩
  · have hone : e.attributes.countP Attribute.isPrimaryKey = 1 :=
      Nat.le_antisymm h.single (List.countP_pos_iff.mpr ⟨a, ha, hkey⟩)
    have hadded : e.addedKey = [] := by
      rw [addedKey, h.key, heq]
      rfl
    rw [hadded, hone, List.length_nil]
  · have hzero : e.attributes.countP Attribute.isPrimaryKey = 0 := List.countP_eq_zero.mpr hnone
    have hadded : e.addedKey = [e.primaryKey] := by
      rw [addedKey, h.key, heq]
      rfl
    rw [hadded, hzero, List.length_singleton]

/-- Whether it is added or an attribute, the key is declared in the model under its annotations. -/
lemma declared_infix_modelBody (h : e.IsKeyed) :
    declared e.primaryKey.annotations e.primaryKey.member.declaration <:+: e.modelBody := by
  have hblock : declared e.primaryKey.annotations e.primaryKey.member.declaration <:+:
      e.addedKey.flatMap (fun k => declared k.annotations k.member.declaration) ++
        e.attributes.flatMap e.modelAttribute := by
    rcases keyOf_cases e.attributes with ⟨a, ha, hkey, heq⟩ | ⟨-, heq⟩
    · have hattribute : e.modelAttribute a =
          declared e.primaryKey.annotations e.primaryKey.member.declaration := by
        rw [modelAttribute, if_pos hkey, h.key, heq]
        rfl
      rw [← hattribute]
      exact List.infix_append_of_infix_right
        (List.infix_of_mem_flatten (List.mem_map_of_mem ha))
    · have hadded : e.addedKey = [e.primaryKey] := by
        rw [addedKey, h.key, heq]
        rfl
      rw [hadded, List.flatMap_singleton]
      exact (List.prefix_append _ _).isInfix
  rw [modelBody, List.append_assoc, List.append_assoc]
  exact hblock.trans (List.prefix_append _ _).isInfix

/-- Whether it is added or an attribute, the key is a member of the model. -/
lemma member_mem_modelMembers (h : e.IsKeyed) : e.primaryKey.member ∈ e.modelMembers := by
  refine List.mem_append_left _ (List.mem_append.mpr ?_)
  rcases keyOf_cases e.attributes with ⟨a, ha, -, heq⟩ | ⟨-, heq⟩
  · refine .inr ?_
    have hmember : e.primaryKey.member = a.member := by
      rw [h.key, heq]
      rfl
    exact hmember ▸ List.mem_map_of_mem ha
  · refine .inl ?_
    have hadded : e.addedKey = [e.primaryKey] := by
      rw [addedKey, h.key, heq]
      rfl
    exact hadded ▸ List.mem_cons_self

end IsKeyed

/-- A member of a model is written through a method of the model. -/
lemma writer_infix_modelBody {m : Member} (h : m ∈ e.modelMembers) :
    [m.writer] <:+: e.modelBody := by
  have hwriter : [m.writer] <:+: m.accessors := (List.singleton_infix_iff _ _).mpr (by
    simp [Member.accessors])
  rw [modelBody]
  exact List.infix_append_of_infix_right
    (hwriter.trans (List.infix_of_mem_flatten (List.mem_map_of_mem h)))

/-- The database generates the keys of two types. -/
lemma isGenerated_iff (he : e.IsTyped) : e.primaryKey.isGenerated ↔
    e.primaryKey.java.name = "Integer" ∨ e.primaryKey.java.name = "Long" := by
  obtain ⟨tag, htag⟩ := he.key
  rw [PrimaryKey.isGenerated, htag]
  cases tag <;> decide

/-- What is in the body of the model is read in its lines. -/
lemma infix_codeLines_model (he : e.IsWordy) (hjoins : e.JoinsOneLine) {part : List Code}
    (h : part <:+: e.modelBody) :
    (Code.textsOf part).map Code.trimmed <:+: Code.codeLines (ArtifactKind.model.render e) := by
  have hlines : ∀ t ∈ Code.textsOf e.modelFile, '\n' ∉ t.toList :=
    (marksKeys_model he hjoins).oneLine
  change _ <:+: Code.codeLines (Code.render e.modelFile)
  rw [modelFile] at hlines ⊢
  exact Code.infix_codeLines_of_infix_body hlines h

/-- In the model the key is declared under its annotations. -/
lemma declared_infix_model (he : e.IsWordy) (hkey : e.IsKeyed) (hjoins : e.JoinsOneLine) :
    (e.primaryKey.annotations ++ [e.primaryKey.member.declaration]) <:+:
      Code.codeLines (ArtifactKind.model.render e) := by
  have hpart : (e.primaryKey.annotations ++ [e.primaryKey.member.declaration]).map Code.line <:+:
      e.modelBody :=
    (List.suffix_cons _ _).isInfix.trans hkey.declared_infix_modelBody
  have htrimmed : ∀ t ∈ e.primaryKey.annotations ++ [e.primaryKey.member.declaration],
      Code.trimmed t = t := by
    refine List.forall_mem_append.mpr ⟨?_, List.forall_mem_singleton.mpr ?_⟩
    · rw [PrimaryKey.annotations]
      split_ifs <;> decide
    · exact Code.trimmed_eq_self (by simp [Member.declaration, toString_text])
  have hinfix := infix_codeLines_model he hjoins hpart
  rwa [Code.textsOf_map_line, List.map_congr_left htrimmed, List.map_id'] at hinfix

/-- In the model the key is set through a method. -/
lemma writer_infix_model (he : e.IsWordy) (hkey : e.IsKeyed) (hjoins : e.JoinsOneLine) :
    Code.textsOf [e.primaryKey.member.writer] <:+:
      Code.codeLines (ArtifactKind.model.render e) := by
  have hwriter := writer_infix_modelBody hkey.member_mem_modelMembers
  have hinfix := infix_codeLines_model he hjoins hwriter
  have htrimmed : ∀ t ∈ Code.textsOf [e.primaryKey.member.writer], Code.trimmed t = t := by
    simp only [Member.writer, Code.braces, Code.textsOf, Code.texts, List.append_nil,
      List.cons_append, List.nil_append, List.forall_mem_cons, List.not_mem_nil, false_implies,
      implies_true, and_true]
    exact ⟨Code.trimmed_eq_self (by simp [toString_text]),
      Code.trimmed_eq_self (by simp [toString_text]), by decide⟩
  rwa [List.map_congr_left htrimmed, List.map_id'] at hinfix

/-- The files of an entity agree on its key, a field of some name and type. -/
structure AgreesOnKey (e : Entity) (field type : String) : Prop where
  /-- One line of the model marks a key. -/
  marked : (Code.codeLines (ArtifactKind.model.render e)).count "@Id" = 1
  /-- It stands above the field, and between them only what integers are generated by. -/
  declared :
    ["@Id"] ++
        (if type = "Integer" ∨ type = "Long" then
          ["@GeneratedValue(strategy = GenerationType.IDENTITY)"] else []) ++
        [s!"private {type} {field};"] <:+:
      Code.codeLines (ArtifactKind.model.render e)
  /-- The model has a method that sets the field. -/
  setter :
    [s!"public void {Naming.setter field}({type} {field})" ++ " \x7b", s!"this.{field} = {field};",
        "\x7d"] <:+:
      Code.codeLines (ArtifactKind.model.render e)
  /-- The repository is one of objects with such keys. -/
  repository :
    Code.headers (ArtifactKind.access.render e) =
      [s!"public interface {e.typeName}Access extends JpaRepository<{e.typeName}, {type}>"]
  /-- The methods of the service take such keys. -/
  service :
    Code.headers (ArtifactKind.logic.render e) =
      [s!"public class {e.typeName}Logic",
        s!"public {e.typeName}Logic({e.typeName}Access access, {e.typeName}Mapper mapper)",
        s!"public void create({e.typeName}Request request)",
        s!"public {e.typeName}Response getById({type} id)",
        s!"public List<{e.typeName}Response> listAll()",
        s!"public void update({type} id, {e.typeName}Request request)",
        s!"public void delete({type} id)",
        s!"private ResponseStatusException notFound({type} id)"]
  /-- The service sets the field of what it saves in place of something else. -/
  update :
    [s!"public void update({type} id, {e.typeName}Request request)" ++ " \x7b",
        "if (!access.existsById(id)) \x7b", "throw notFound(id);", "\x7d",
        s!"{e.typeName} model = mapper.toModel(request);", s!"model.{Naming.setter field}(id);",
        "access.save(model);", "\x7d"] <:+:
      Code.codeLines (ArtifactKind.logic.render e)
  /-- All three paths with a variable in them take such keys. -/
  controller : Code.annotated "PathVariable" (ArtifactKind.api.render e) = [type, type, type]

/-- The files of an entity with one key agree on it. -/
lemma agreesOnKey (he : e.IsWordy) (hname : IsName e.typeName) (hpackage : '@' ∉ e.package.toList)
    (hkey : e.IsKeyed) (hjoins : e.JoinsOneLine) :
    e.AgreesOnKey e.primaryKey.fieldName e.primaryKey.java.name where
  marked := hkey.length_addedKey_add_countP ▸ (marksKeys_model he hjoins).count_render
  declared := by
    have hannotations : e.primaryKey.annotations = ["@Id"] ++
        (if e.primaryKey.java.name = "Integer" ∨ e.primaryKey.java.name = "Long" then
          ["@GeneratedValue(strategy = GenerationType.IDENTITY)"] else []) :=
      congrArg (List.cons "@Id") (if_congr (isGenerated_iff he.typed) rfl rfl)
    rw [← hannotations]
    exact declared_infix_model he hkey hjoins
  setter := writer_infix_model he hkey hjoins
  repository := by
    rw [headers_access he, List.singleton_inj]
    exact String.toList_injective (by simp [toString_text])
  service := headers_logic he
  update := update_infix_logic he hname
  controller := annotated_api he hpackage

end Entity

end CrudScaffold

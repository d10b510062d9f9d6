import CrudScaffold.Proofs.Artifact.Declaration
import CrudScaffold.Proofs.Artifact.Import
import CrudScaffold.Proofs.Java.Statement

/-!
# From a request to a response

The mapper turns a request into a model and a model into a response. It copies the attributes one by
one, and each of its statements calls one method of the object that it copies from and one of the
object that it copies to. Whether an attribute arrives depends on four files: the mapper has to call
methods that request, model and response have, and these have to read and write the field that they
are called after.

`Entity.MapsBackAndForth` puts together what is read in these files, and
`Entity.mapsBackAndForth` says that it is so for every entity.
-/

namespace CrudScaffold

open Naming

/-- The field that a statement sets in an object of the class that a text declares. -/
def Statement.assigned? (text : String) : Statement → Option String
  | .copy _ writer _ _ => (Code.lastMethod? text writer).bind Method.assigned?
  | _ => none

/-- A statement that copies a field sets what the method of the class sets. -/
lemma Statement.assigned?_copyField (text source target f : String) :
    (copyField source target f).assigned? text =
      (Code.lastMethod? text (setter f)).bind Method.assigned? := rfl

namespace Entity

variable {e : Entity}

/-! ### Statements of the mapper -/

/-- The lines of a method of the mapper. -/
def conversionLines (e : Entity) (source targetType target : String) : List String :=
  s!"{targetType} {target} = new {targetType}();" ::
    (e.attributes.map (fun a => copyField source target a.fieldName) ++ [s!"return {target};"])

/-- The statements of a method that copies the attributes of an entity from one object to
another. -/
def copying (e : Entity) (source targetType target : String) : List Statement :=
  .create targetType target ::
    ((e.attributes.map Attribute.fieldName).map (Statement.copyField source target) ++
      [.give target])

/-- The lines of a method of the mapper are the statements that copy the attributes. -/
lemma mapM_conversionLines (he : e.IsWordy) {source targetType target : String}
    (hsource : IsWordText source) (htype : IsWordText targetType) (htarget : IsWordText target) :
    (e.conversionLines source targetType target).mapM Statement.ofLine? =
      some (e.copying source targetType target) := by
  have hgetter : IsWordText "get" := by decide
  have hsetter : IsWordText "set" := by decide
  have hcopies : ∀ a ∈ e.attributes, Statement.ofLine? (copyField source target a.fieldName) =
      some (Statement.copyField source target a.fieldName) := by
    intro a ha
    have hupper := (he.attributes a ha).upperFirst
    exact Statement.ofLine?_copy htarget (hsetter.append hupper) hsource (hgetter.append hupper)
  have hgive : [s!"return {target};"].mapM Statement.ofLine? = some [.give target] := by
    rw [List.mapM_cons, Statement.ofLine?_give htarget]
    rfl
  rw [conversionLines, copying, List.mapM_cons, Statement.ofLine?_create htype htarget,
    List.mapM_append, Statement.mapM_ofLine? hcopies, hgive, List.map_map]
  rfl

/-- The lines of a method of the mapper. -/
lemma textsOf_conversion (e : Entity) (method sourceType source targetType target : String) :
    Code.textsOf [e.conversion method sourceType source targetType target] =
      (s!"public {targetType} {method}({sourceType} {source})" ++ " \x7b") ::
        (e.conversionLines source targetType target ++ ["\x7d"]) := by
  have hlines : (.line s!"{targetType} {target} = new {targetType}();" ::
      e.attributes.map (fun a => Code.line (copyField source target a.fieldName)) ++
        [.line s!"return {target};"]) =
      (e.conversionLines source targetType target).map Code.line := by
    simp [conversionLines]
  rw [conversion, hlines, Code.braces, Code.textsOf, Code.texts, Code.textsOf_map_line]
  exact List.append_nil _

/-- None of these lines is indented. -/
lemma isFlush_of_mem_conversion (he : e.IsWordy)
    {method sourceType source targetType target : String} (hmethod : IsWordText method)
    (hsourceType : IsWordText sourceType) (hsource : IsWordText source) (htype : IsName targetType)
    (htarget : IsName target) :
    ∀ t ∈ Code.textsOf [e.conversion method sourceType source targetType target],
      Code.IsFlush t := by
  have hend : ∀ {s : String}, IsWordText s → '\n' ∉ s.toList := fun h => h.notMem '\n' (by decide)
  have htypeEnd := hend htype.isWordText
  have htargetEnd := hend htarget.isWordText
  rw [textsOf_conversion, conversionLines]
  refine List.forall_mem_cons.mpr ⟨?_, List.forall_mem_append.mpr ⟨List.forall_mem_cons.mpr ⟨?_,
    List.forall_mem_append.mpr ⟨List.forall_mem_map.mpr fun a ha => ?_,
      List.forall_mem_singleton.mpr ?_⟩⟩, List.forall_mem_singleton.mpr ⟨by decide, by decide⟩⟩⟩
  · exact ⟨by simp [toString_text, htypeEnd, hend hmethod, hend hsourceType, hend hsource],
      by simp [toString_text]⟩
  · obtain ⟨c, cs, hcs, hblank⟩ := htype.exists_toList_eq_cons
    exact ⟨by simp [toString_text, htypeEnd, htargetEnd], by simp [toString_text, hcs, hblank]⟩
  · have hupper := hend (he.attributes a ha).upperFirst
    obtain ⟨c, cs, hcs, hblank⟩ := htarget.exists_toList_eq_cons
    exact ⟨by simp [copyField, getter, setter, toString_text, htargetEnd, hend hsource, hupper],
      by simp [copyField, toString_text, hcs, hblank]⟩
  · exact ⟨by simp [toString_text, htargetEnd], by simp [toString_text]⟩

/-- Such lines are read as a method. -/
lemma methodsIn_conversion_append (e : Entity) {method targetType : String}
    (hmethod : IsWordText method) (htype : IsWordText targetType)
    (sourceType source target : String) (lines : List String) :
    Code.methodsIn
        (Code.textsOf [e.conversion method sourceType source targetType target] ++ lines) =
      ⟨targetType, method, sourceType ++ " " ++ source,
          e.conversionLines source targetType target⟩ ::
        Code.methodsIn lines := by
  have hheader : (s!"public {targetType} {method}({sourceType} {source})").toList =
      Code.signature targetType method (sourceType ++ " " ++ source) := by
    simp [Code.signature_eq, toString_text]
  have hends : ∀ front ending : String, ending.toList.getLast? = some ';' →
      (front ++ ending).toList.getLast? = some ';' := by
    intro front ending hending
    rw [String.toList_append, List.getLast?_append, hending]
    rfl
  have hbody : ∀ l ∈ e.conversionLines source targetType target,
      l.toList.getLast? = some ';' := by
    refine List.forall_mem_cons.mpr ⟨hends _ "();" rfl, List.forall_mem_append.mpr
      ⟨List.forall_mem_map.mpr fun a _ => hends _ "());" rfl,
        List.forall_mem_singleton.mpr (hends _ ";" rfl)⟩⟩
  rw [textsOf_conversion, List.cons_append, List.append_assoc, List.singleton_append,
    Code.methodsIn_method (htype.notMem ' ' (by decide)) (hmethod.notMem '(' (by decide)) hheader
      hbody]

/-- The head of a mapper is written line by line. -/
lemma isClassHead_mapper (he : e.IsWordy) :
    Code.IsClassHead (e.layerPackage "mapping") e.mapperImports ["@Component"]
      s!"public class {e.typeName}Mapper" where
  head := ArtifactKind.lineEnd_notMem_head he .mapper
  annotations := List.forall_mem_singleton.mpr ⟨by decide, by decide⟩
  header := ⟨e.typeName ++ "Mapper", he.typeName.append (by decide), String.append_assoc⟩

/-- The method of the mapper that makes models of requests. -/
def requestMapping (e : Entity) : Method :=
  ⟨e.typeName, "toModel", e.typeName ++ "Request request",
    e.conversionLines "request" e.typeName "model"⟩

/-- The method of the mapper that makes responses of models. -/
def responseMapping (e : Entity) : Method :=
  ⟨e.typeName ++ "Response", "toResponse", e.typeName ++ " model",
    e.conversionLines "model" (e.typeName ++ "Response") "response"⟩

/-- The lines in the body of the mapper. -/
lemma codeLines_mapperBody (he : e.IsWordy) (hname : IsName e.typeName) :
    (Code.textsOf
      [.blank, e.conversion "toModel" (e.typeName ++ "Request") "request" e.typeName "model",
        .blank, e.conversion "toResponse" e.typeName "model" (e.typeName ++ "Response")
          "response"]).flatMap Code.codeLines =
      [""] ++ (Code.textsOf
        [e.conversion "toModel" (e.typeName ++ "Request") "request" e.typeName "model"] ++
      ([""] ++ Code.textsOf
        [e.conversion "toResponse" e.typeName "model" (e.typeName ++ "Response") "response"])) := by
  have hrequest : IsWordText (e.typeName ++ "Request") := he.typeName.append (by decide)
  have hwords : IsWordText "Response" ∧ IsWordText "model" ∧ IsWordText "response" := by decide
  have hresponse : IsName (e.typeName ++ "Response") := hname.append hwords.1
  have hword : IsName "model" ∧ IsName "response" :=
    ⟨⟨by decide, hwords.2.1⟩, ⟨by decide, hwords.2.2⟩⟩
  have hblank : ∀ t ∈ [""], Code.IsFlush t := List.forall_mem_singleton.mpr ⟨by decide, by decide⟩
  have htexts : Code.textsOf
      [.blank, e.conversion "toModel" (e.typeName ++ "Request") "request" e.typeName "model",
        .blank, e.conversion "toResponse" e.typeName "model" (e.typeName ++ "Response")
          "response"] =
      [""] ++ (Code.textsOf
        [e.conversion "toModel" (e.typeName ++ "Request") "request" e.typeName "model"] ++
      ([""] ++ Code.textsOf
        [e.conversion "toResponse" e.typeName "model" (e.typeName ++ "Response") "response"])) := by
    simp only [Code.textsOf, Code.texts, Code.blank, List.append_nil]
  rw [htexts]
  refine Code.flatMap_codeLines (List.forall_mem_append.mpr ⟨hblank, List.forall_mem_append.mpr
    ⟨?_, List.forall_mem_append.mpr ⟨hblank, ?_⟩⟩⟩)
  · exact isFlush_of_mem_conversion he (by decide) hrequest (by decide) hname hword.1
  · exact isFlush_of_mem_conversion he (by decide) he.typeName (by decide) hresponse hword.2

/-- The mapper has two methods. One makes models of requests and one makes responses of models. -/
lemma methods_mapper (he : e.IsWordy) (hname : IsName e.typeName) :
    Code.methods (ArtifactKind.mapper.render e) = [e.requestMapping, e.responseMapping] := by
  have hresponse : IsWordText (e.typeName ++ "Response") := he.typeName.append (by decide)
  have hfile : Code.methods (ArtifactKind.mapper.render e) = Code.methodsIn ((Code.textsOf
      [.blank, e.conversion "toModel" (e.typeName ++ "Request") "request" e.typeName "model",
        .blank, e.conversion "toResponse" e.typeName "model" (e.typeName ++ "Response")
          "response"]).flatMap Code.codeLines ++ ["\x7d", ""]) :=
    (isClassHead_mapper he).methods_render
  have hblank : ∀ l ∈ [""], ∀ below, Code.declaredMethod? l below = none :=
    List.forall_mem_singleton.mpr (Code.declaredMethod?_eq_none rfl)
  have hrequestParameter : e.typeName ++ "Request" ++ " " ++ "request" =
      e.typeName ++ "Request request" :=
    String.toList_injective (by simp)
  have hmodelParameter : e.typeName ++ " " ++ "model" = e.typeName ++ " model" :=
    String.toList_injective (by simp)
  have hend : Code.methodsIn ["\x7d", ""] = [] := rfl
  rw [hfile, codeLines_mapperBody he hname, List.append_assoc,
    Code.methodsIn_append_of_eq_none hblank, List.append_assoc,
    methodsIn_conversion_append e (by decide) he.typeName, List.append_assoc,
    Code.methodsIn_append_of_eq_none hblank,
    methodsIn_conversion_append e (by decide) hresponse, hrequestParameter, hmodelParameter, hend]
  rfl

/-! ### Classes that the mapper works on -/

/-- The texts of the classes whose objects the mapper reads and writes, by their names. -/
def classText? (e : Entity) (type : String) : Option String :=
  ([.request, .model, .response].map fun kind : ArtifactKind =>
    (kind.stem e.typeName, kind.render e)).lookup type

/-- These classes have different names, so the text of each of them is found. -/
lemma classText?_stem (e : Entity) {kind : ArtifactKind}
    (hkind : kind ∈ [.request, .model, .response]) :
    e.classText? (kind.stem e.typeName) = some (kind.render e) := by
  have hnodup : (([.request, .model, .response].map fun kind : ArtifactKind =>
      (kind.stem e.typeName, kind.render e)).map Prod.fst).Nodup := by
    rw [List.map_map]
    refine List.Nodup.map (fun k k' h => ArtifactKind.eq_of_stem_eq h) ?_
    decide
  exact lookup_eq_some_of_mem hnodup (List.mem_map_of_mem hkind)

/-- All of them have methods that read and write the attributes. -/
lemma offers_classText? (he : e.IsWordy) (hlegible : e.IsLegible) (kind : ArtifactKind)
    (hkind : kind ∈ [.request, .model, .response]) :
    Offers e.classText? (kind.stem e.typeName) (e.attributes.map Attribute.fieldName) := by
  have hown : (e.attributes.map Attribute.member).map Member.name =
      e.attributes.map Attribute.fieldName := List.map_map
  have hmodel : e.attributes.map Attribute.fieldName ⊆ e.modelMembers.map Member.name := by
    intro f hf
    obtain ⟨a, ha, rfl⟩ := List.mem_map.mp hf
    exact List.mem_map.mpr ⟨a.member, member_mem_modelMembers ha, rfl⟩
  have htext := classText?_stem e hkind
  have hkinds : kind = .request ∨ kind = .model ∨ kind = .response := by simpa using hkind
  rcases hkinds with rfl | rfl | rfl
  · exact ⟨_, _, htext, hasAccessors_payload he hlegible .request, hown ▸ List.Subset.refl _⟩
  · exact ⟨_, _, htext, hasAccessors_model he hlegible, hmodel⟩
  · exact ⟨_, _, htext, hasAccessors_payload he hlegible .response, hown ▸ List.Subset.refl _⟩

section Running

variable {α : Type} (he : e.IsWordy) (hlegible : e.IsLegible) (values : String → Option α)

include he hlegible

/-- A model is made of a request with the values of the attributes. -/
lemma call?_requestMapping :
    e.requestMapping.call? e.classText? ⟨e.typeName ++ "Request", values⟩ =
      some ⟨e.typeName, fun f =>
        if f ∈ e.attributes.map Attribute.fieldName then values f else none⟩ := by
  have hmodel : ArtifactKind.model.stem e.typeName = e.typeName := String.append_empty
  have hrequest : IsWordText (e.typeName ++ "Request") := he.typeName.append (by decide)
  have hparameters : e.requestMapping.parameters = e.typeName ++ "Request" ++ " " ++ "request" :=
    String.toList_injective (by simp [requestMapping])
  have hstatements : e.requestMapping.statements? = some (e.copying "request" e.typeName "model") :=
    mapM_conversionLines he (by decide) he.typeName (by decide)
  have hresult := offers_classText? he hlegible .model (by decide)
  rw [hmodel] at hresult
  exact Method.call?_of_copyFields hparameters (hrequest.notMem ' ' (by decide)) hstatements
    (by decide) (offers_classText? he hlegible .request (by decide)) hresult

/-- A response is made of a model with the values of the attributes. -/
lemma call?_responseMapping :
    e.responseMapping.call? e.classText? ⟨e.typeName, values⟩ =
      some ⟨e.typeName ++ "Response", fun f =>
        if f ∈ e.attributes.map Attribute.fieldName then values f else none⟩ := by
  have hmodel : ArtifactKind.model.stem e.typeName = e.typeName := String.append_empty
  have hresponse : IsWordText (e.typeName ++ "Response") := he.typeName.append (by decide)
  have hparameters : e.responseMapping.parameters = e.typeName ++ " " ++ "model" :=
    String.toList_injective (by simp [responseMapping])
  have hstatements : e.responseMapping.statements? =
      some (e.copying "model" (e.typeName ++ "Response") "response") :=
    mapM_conversionLines he (by decide) hresponse (by decide)
  have hargument := offers_classText? he hlegible .model (by decide)
  rw [hmodel] at hargument
  exact Method.call?_of_copyFields hparameters (he.typeName.notMem ' ' (by decide)) hstatements
    (by decide) hargument (offers_classText? he hlegible .response (by decide))

end Running

/-! ### There and back -/

/-- What a method of the mapper gives back. -/
def convert? {α : Type} (e : Entity) (method : String) (argument : Object α) :
    Option (Object α) := do
  let m ← Code.lastMethod? (ArtifactKind.mapper.render e) method
  m.call? e.classText? argument

/-- A request becomes a model and a model becomes a response, and all attributes arrive. -/
structure MapsBackAndForth (e : Entity) : Prop where
  /-- The mapper has two methods, which copy the attributes one by one. -/
  methods :
    (Code.methods (ArtifactKind.mapper.render e)).map
        (fun m => (m.type, m.name, m.parameters, m.statements?)) =
      [(e.typeName, "toModel", e.typeName ++ "Request request",
          some (e.copying "request" e.typeName "model")),
        (e.typeName ++ "Response", "toResponse", e.typeName ++ " model",
          some (e.copying "model" (e.typeName ++ "Response") "response"))]
  /-- What is called on a request is declared there once, with the type of the attribute. -/
  request : ∀ a ∈ e.attributes, (Code.methods (ArtifactKind.request.render e)).filter
      (fun m => m.name = getter a.fieldName) = [.reading a.member]
  /-- So is what is called on a response. -/
  response : ∀ a ∈ e.attributes, (Code.methods (ArtifactKind.response.render e)).filter
      (fun m => m.name = setter a.fieldName) = [.writing a.member]
  /-- What is called on a model is declared there with the type of the attribute. -/
  model : ∀ a ∈ e.attributes,
    .reading a.member ∈ Code.methods (ArtifactKind.model.render e) ∧
      .writing a.member ∈ Code.methods (ArtifactKind.model.render e)
  /-- If it is declared there more than once, and no line end is in the name of a join, every
  declaration reads or writes the same field. -/
  modelField : e.JoinsOneLine → ∀ a ∈ e.attributes,
    ∀ m ∈ Code.methods (ArtifactKind.model.render e),
      (m.name = getter a.fieldName → m.returned? = some a.fieldName) ∧
        (m.name = setter a.fieldName → m.assigned? = some a.fieldName)
  /-- The statements of the second method set the fields of a response one after the other. -/
  assigned :
    (e.copying "model" (e.typeName ++ "Response") "response").filterMap
        (Statement.assigned? (ArtifactKind.response.render e)) =
      (Code.fields (ArtifactKind.response.render e)).map fun f => f.member.name
  /-- No two of these fields have one name. -/
  assignedOnce : ((Code.fields (ArtifactKind.response.render e)).map fun f => f.member.name).Nodup
  /-- Whatever a request holds, both methods succeed, and the response that is made of the model
  that is made of the request holds the same of every attribute. -/
  roundTrip : ∀ (α : Type) (values : String → Option α), ∃ model response,
    e.convert? "toModel" ⟨e.typeName ++ "Request", values⟩ = some model ∧
      e.convert? "toResponse" model = some response ∧
      response.type = e.typeName ++ "Response" ∧
      ∀ a ∈ e.attributes, response.values a.fieldName = values a.fieldName

/-- The statements of the mapper, as they are read in it. -/
lemma statements_mapper (he : e.IsWordy) (hname : IsName e.typeName) :
    (Code.methods (ArtifactKind.mapper.render e)).map
        (fun m => (m.type, m.name, m.parameters, m.statements?)) =
      [(e.typeName, "toModel", e.typeName ++ "Request request",
          some (e.copying "request" e.typeName "model")),
        (e.typeName ++ "Response", "toResponse", e.typeName ++ " model",
          some (e.copying "model" (e.typeName ++ "Response") "response"))] := by
  have hrequest : e.requestMapping.statements? = some (e.copying "request" e.typeName "model") :=
    mapM_conversionLines he (by decide) he.typeName (by decide)
  have hresponse : e.responseMapping.statements? =
      some (e.copying "model" (e.typeName ++ "Response") "response") :=
    mapM_conversionLines he (by decide) (he.typeName.append (by decide)) (by decide)
  rw [methods_mapper he hname, List.map_cons, List.map_cons, hrequest, hresponse]
  rfl

/-- The methods of the mapper are found by their names. -/
lemma convert?_eq {α : Type} (he : e.IsWordy) (hname : IsName e.typeName) (argument : Object α) :
    e.convert? "toModel" argument = e.requestMapping.call? e.classText? argument ∧
      e.convert? "toResponse" argument = e.responseMapping.call? e.classText? argument := by
  constructor
  · rw [convert?, Code.lastMethod?, methods_mapper he hname]
    rfl
  · rw [convert?, Code.lastMethod?, methods_mapper he hname]
    rfl

/-- Statements that set their fields set the attributes one after the other. -/
lemma filterMap_copying {assigned : Statement → Option String} {source targetType target : String}
    (hcreate : assigned (.create targetType target) = none)
    (hgive : assigned (.give target) = none)
    (hcopy : ∀ a ∈ e.attributes,
      assigned (Statement.copyField source target a.fieldName) = some a.fieldName) :
    (e.copying source targetType target).filterMap assigned =
      e.attributes.map Attribute.fieldName := by
  have hcopies : e.attributes.filterMap
      (assigned ∘ Statement.copyField source target ∘ Attribute.fieldName) =
      e.attributes.map Attribute.fieldName := by
    rw [← List.filterMap_eq_map]
    exact List.filterMap_congr hcopy
  have hlast : [Statement.give target].filterMap assigned = [] := List.filterMap_cons_none hgive
  rw [copying, List.filterMap_cons_none hcreate, List.filterMap_append, List.map_map,
    List.filterMap_map, hcopies, hlast, List.append_nil]

/-- The statements that make a response set its fields one after the other. -/
lemma filterMap_assigned?_copying (he : e.IsWordy) (hlegible : e.IsLegible)
    (source targetType target : String) :
    (e.copying source targetType target).filterMap
        (Statement.assigned? (ArtifactKind.response.render e)) =
      e.attributes.map Attribute.fieldName := by
  have haccessors : Code.HasAccessors (ArtifactKind.response.render e)
      (e.attributes.map Attribute.member) := hasAccessors_payload he hlegible .response
  refine filterMap_copying rfl rfl fun a ha => ?_
  have hmember : a.member ∈ e.attributes.map Attribute.member := List.mem_map_of_mem ha
  have hfield := haccessors.assigned?_lastMethod? hmember
  rw [Statement.assigned?_copyField]
  exact hfield

/-- A method of a model that is called like one that reads or writes an attribute does so, if no
line end is in the name of a join. -/
lemma modelField_of_joinsOneLine (he : e.IsWordy) (hlegible : e.IsLegible)
    (hjoins : e.JoinsOneLine) {a : Attribute} (ha : a ∈ e.attributes) {m : Method}
    (hm : m ∈ Code.methods (ArtifactKind.model.render e)) :
    (m.name = getter a.fieldName → m.returned? = some a.fieldName) ∧
      (m.name = setter a.fieldName → m.assigned? = some a.fieldName) := by
  obtain ⟨others, hmethods, hothers⟩ := methods_model he hlegible
  rw [hmethods, hothers hjoins, List.nil_append] at hm
  have hmember : a.member ∈ e.modelMembers := member_mem_modelMembers ha
  constructor
  · intro hname
    obtain ⟨m', hm', hsame, rfl⟩ := Code.eq_of_getter_mem hlegible hmember hm hname
    rw [Method.returned?_reading (hlegible m' hm'), hsame]
    rfl
  · intro hname
    obtain ⟨m', hm', hsame, rfl⟩ := Code.eq_of_setter_mem hlegible hmember hm hname
    rw [Method.assigned?_writing (hlegible m' hm'), hsame]
    rfl

/-- The attributes of a legible entity with different names are mapped back and forth. -/
lemma mapsBackAndForth (he : e.IsWordy) (hname : IsName e.typeName) (hlegible : e.IsLegible)
    (hnodup : (e.attributes.map Attribute.fieldName).Nodup) : e.MapsBackAndForth := by
  have hrequest : Code.DeclaresOnce (ArtifactKind.request.render e)
      (e.attributes.map Attribute.member) := declaresOnce_payload he hlegible .request hnodup
  have hresponse : Code.DeclaresOnce (ArtifactKind.response.render e)
      (e.attributes.map Attribute.member) := declaresOnce_payload he hlegible .response hnodup
  have hfields : (Code.fields (ArtifactKind.response.render e)).map (fun f => f.member.name) =
      e.attributes.map Attribute.fieldName := by
    have hnames := congrArg (List.map Member.name) hresponse.declared
    rwa [List.map_map, List.map_map] at hnames
  refine {
    methods := statements_mapper he hname
    request := fun a ha => hrequest.reader a.member (List.mem_map_of_mem ha)
    response := fun a ha => hresponse.writer a.member (List.mem_map_of_mem ha)
    model := fun a ha => ?_
    modelField := fun hjoins a ha m hm => modelField_of_joinsOneLine he hlegible hjoins ha hm
    assigned := (filterMap_assigned?_copying he hlegible _ _ _).trans hfields.symm
    assignedOnce := hresponse.names
    roundTrip := fun α values => ?_ }
  · obtain ⟨others, hmethods, -⟩ := methods_model he hlegible
    have haccessors : ∀ k ∈ [Method.reading a.member, .writing a.member],
        k ∈ Code.methods (ArtifactKind.model.render e) := by
      intro k hk
      rw [hmethods]
      exact List.mem_append_right _
        (List.mem_flatMap.mpr ⟨a.member, member_mem_modelMembers ha, hk⟩)
    exact ⟨haccessors _ List.mem_cons_self,
      haccessors _ (List.mem_cons_of_mem _ List.mem_cons_self)⟩
  · have hconvert := fun argument : Object α => convert?_eq he hname argument
    refine ⟨_, _, (hconvert _).1.trans (call?_requestMapping he hlegible values),
      (hconvert _).2.trans (call?_responseMapping he hlegible _), rfl, fun a ha => ?_⟩
    have hmem : a.fieldName ∈ e.attributes.map Attribute.fieldName := List.mem_map_of_mem ha
    simp only [if_pos hmem]

end Entity

end CrudScaffold

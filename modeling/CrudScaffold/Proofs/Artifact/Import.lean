import CrudScaffold.Proofs.Artifact.Line
import CrudScaffold.Proofs.Java.Import

/-!
# Clashes among the imports of an entity

The files of an entity import each other and, next to them, types of libraries: some that every file
of their kind needs, and some for the fields, the key and the constraints of the entity. The simple
names of these library types are all different, and none of them ends like the name of a repository,
a service, a controller, a payload or a mapper. So there is one type of the entity that can meet a
library type, its model, which is called like the class in the diagram and nothing else.

`ArtifactKind.takenNames` collects the names that a model must not have for a file to be readable,
and `ArtifactKind.importsApart_render_iff` says that there are no other clashes.
-/

namespace CrudScaffold

open Naming

namespace ArtifactKind

variable {e : Entity} {kind : ArtifactKind} {i : String}

/-! ### Taken names -/

/-- The names that the types of libraries have in a file which calls the model of its entity by its
name. -/
def takenNames (e : Entity) (kind : ArtifactKind) : List String :=
  if kind = .model ∨ .model ∈ kind.uses then
    ((kind.libraryImports e).filter fun i => Code.IsSingle i).map Code.simpleName
  else []

/-- A name is taken by a library type that is imported where the model is known. -/
lemma mem_takenNames {n : String} : n ∈ kind.takenNames e ↔
    (kind = .model ∨ .model ∈ kind.uses) ∧
      ∃ i ∈ kind.libraryImports e, Code.IsSingle i ∧ Code.simpleName i = n := by
  rw [takenNames]
  split_ifs with hmodel
  · simp [hmodel, and_assoc]
  · simp [hmodel]

/-! ### Library types -/

/-- All library types that files of entities import one by one. -/
def libraryTypes : List String :=
  fieldTypes ++ constraintTypes ++
    ["jakarta.validation.Valid", "org.springframework.data.jpa.repository.JpaRepository",
      "org.springframework.http.HttpStatus", "org.springframework.http.ResponseEntity",
      "org.springframework.stereotype.Component", "org.springframework.stereotype.Repository",
      "org.springframework.stereotype.Service",
      "org.springframework.web.server.ResponseStatusException"]

/-- The simple names of the library types. -/
def libraryNames : List String :=
  ["BigDecimal", "LocalDate", "LocalDateTime", "ArrayList", "HashSet", "List", "Set", "NotBlank",
    "NotNull", "Size", "Valid", "JpaRepository", "HttpStatus", "ResponseEntity", "Component",
    "Repository", "Service", "ResponseStatusException"]

/-- These names are read off the full ones. -/
lemma map_simpleName_libraryTypes : libraryTypes.map Code.simpleName = libraryNames := by
  simp only [libraryTypes, fieldTypes, constraintTypes, List.map_cons, List.map_nil,
    List.cons_append, List.nil_append]
  repeat rw [Code.simpleName_ofList]
  decide

/-- These types are recognised by their full names. -/
lemma isLibraryType_of_mem : ∀ i ∈ libraryTypes, IsLibraryType i := by
  have hall : ∀ cs ∈ libraryTypes.map String.toList, '\n' ∉ cs ∧
      ∀ layer ∈ layers.map String.toList, layer ∉ cs.splitOn '.' := by
    simp only [libraryTypes, fieldTypes, constraintTypes, layers, List.map_cons, List.map_nil,
      List.cons_append, List.nil_append]
    repeat rw [String.toList_ofList]
    decide
  intro i hi
  obtain ⟨hend, hlayers⟩ := hall _ (List.mem_map_of_mem hi)
  exact ⟨hend, fun layer hlayer => hlayers _ (List.mem_map_of_mem hlayer)⟩

/-- A file imports no other single types from libraries. -/
lemma mem_libraryTypes (he : e.IsTyped) (h : i ∈ kind.libraryImports e) (hi : Code.IsSingle i) :
    i ∈ libraryTypes := by
  rcases List.mem_append.mp h with h | h
  · have hfixed : ∀ j ∈ kind.fixedImports, Code.IsSingle j → j ∈ libraryTypes := by
      cases kind <;> decide
    exact hfixed i h hi
  · refine List.mem_append_left _ (List.mem_append.mpr ?_)
    exact (mem_of_mem_fieldImports he h).imp_right And.right

/-- The names of library types tell them apart. -/
lemma simpleName_inj {j : String} (hi : i ∈ libraryTypes) (hj : j ∈ libraryTypes)
    (h : Code.simpleName i = Code.simpleName j) : i = j := by
  have hnodup : (libraryTypes.map Code.simpleName).Nodup := by
    rw [map_simpleName_libraryTypes]
    decide
  exact List.inj_on_of_nodup_map hnodup hi hj h

/-- Library types are not called like the types of an entity, models apart. -/
lemma simpleName_ne_stem {n : String} (hkind : kind ≠ .model) (hi : i ∈ libraryTypes) :
    Code.simpleName i ≠ kind.stem n := by
  have hending : kind.ending ∈ ["Access", "Logic", "Api", "Request", "Response", "Mapper"] := by
    cases kind
    · exact absurd rfl hkind
    all_goals decide
  have hnone : ∀ name ∈ libraryNames,
      ∀ ending ∈ ["Access", "Logic", "Api", "Request", "Response", "Mapper"],
        ¬ ending.toList <:+ name.toList := by
    decide
  have hname : Code.simpleName i ∈ libraryNames :=
    map_simpleName_libraryTypes ▸ List.mem_map_of_mem hi
  intro he
  refine hnone _ hname _ hending ⟨n.toList, ?_⟩
  rw [he, stem, String.toList_append]

/-- The names that a model can find taken. -/
def reservedNames : List String :=
  ["ArrayList", "BigDecimal", "Component", "HashSet", "HttpStatus", "JpaRepository", "List",
    "LocalDate", "LocalDateTime", "Repository", "ResponseStatusException", "Service", "Set"]

/-- Only these names are taken, whatever the entity is. -/
lemma mem_reservedNames (he : e.IsTyped) {n : String} (h : n ∈ kind.takenNames e) :
    n ∈ reservedNames := by
  obtain ⟨hmodel, i, hi, hsingle, rfl⟩ := mem_takenNames.mp h
  rcases List.mem_append.mp hi with hi | hi
  · have hfixed : ∀ kind ∈ all, kind = .model ∨ .model ∈ kind.uses → ∀ j ∈ kind.fixedImports,
        Code.IsSingle j → Code.simpleName j ∈ reservedNames := by
      decide
    exact hfixed kind (by cases kind <;> decide) hmodel i hi hsingle
  · have hfield : ∀ j ∈ fieldTypes, Code.simpleName j ∈ reservedNames := by decide
    rcases mem_of_mem_fieldImports he hi with hi | ⟨rfl, -⟩
    · exact hfield i hi
    · exact absurd hmodel (by decide)

/-! ### Clashes -/

/-- The head of a file and the annotations of its type are written line by line. -/
lemma lineEnd_notMem_of_mem_code (he : e.IsWordy) {a : String} (ha : Code.line a ∈ kind.code e) :
    '\n' ∉ a.toList := by
  have hfile : ∀ (annotations : List String) {header : String} {body : List Code},
      (∀ m ∈ annotations, '\n' ∉ m.toList) →
        Code.line a ∈ preamble (e.layerPackage kind.layer) (kind.imports e) ++
          (annotations.map .line ++ [.braces header body]) → '\n' ∉ a.toList := by
    intro annotations header body hannotations ha
    rcases List.mem_append.mp ha with ha | ha
    · exact lineEnd_notMem_head he kind a (Code.line_mem_preamble.mp ha)
    · rcases List.mem_append.mp ha with ha | ha
      · obtain ⟨m, hm, hline⟩ := List.mem_map.mp ha
        cases hline
        exact hannotations a hm
      · cases List.mem_singleton.mp ha
  cases kind with
  | model => exact hfile ["@Entity"] (by decide) ha
  | access => exact hfile ["@Repository"] (by decide) ha
  | logic => exact hfile ["@Service"] (by decide) ha
  | api =>
    refine hfile ["@RestController", s!"@RequestMapping(\"{e.resourcePath}\")"] ?_ ha
    have hroute := lineEnd_notMem_of_marks he.typeName.lowerFirst.marks_eq_nil
    refine List.forall_mem_cons.mpr ⟨by decide, List.forall_mem_singleton.mpr ?_⟩
    change '\n' ∉ ("@RequestMapping(\"" ++ ("/" ++ lowerFirst e.typeName) ++ "\")").toList
    simp [hroute]
  | request => exact hfile [] (List.forall_mem_nil _) ha
  | response => exact hfile [] (List.forall_mem_nil _) ha
  | mapper => exact hfile ["@Component"] (by decide) ha

/-- The name of a type of an entity has no dot, no star, no space and no line end in it. -/
lemma notMem_stem (he : e.IsWordy) (kind : ArtifactKind) :
    ∀ c ∈ ['.', '*', ' ', '\n'], c ∉ (kind.stem e.typeName).toList := by
  have hno : ['.', '*', ' ', '\n'].all fun c => !isWordChar c := by decide
  intro c hc hmem
  have hnot := List.all_eq_true.mp hno c hc
  rw [isWordText_stem he kind c hmem] at hnot
  exact Bool.false_ne_true hnot

/-- The simple name of a type of an entity is its name. -/
lemma simpleName_ownType (he : e.IsWordy) (kind : ArtifactKind) :
    Code.simpleName (ownType e kind) = kind.stem e.typeName :=
  Code.simpleName_append (e.package ++ "." ++ kind.layer) (notMem_stem he kind '.' (by decide))

/-- A type of an entity is imported by itself. -/
lemma isSingle_ownType (he : e.IsWordy) (kind : ArtifactKind) : Code.IsSingle (ownType e kind) := by
  rintro ⟨front, hfront⟩
  obtain ⟨parts, hlist⟩ : ∃ parts, (ownType e kind).toList =
      parts ++ '.' :: (kind.stem e.typeName).toList := by
    change ∃ parts, (e.package ++ "." ++ kind.layer ++ "." ++ kind.stem e.typeName).toList = _
    exact ⟨(e.package ++ "." ++ kind.layer).toList, by simp⟩
  have hlast : ('.' :: (kind.stem e.typeName).toList).getLast? = some '*' := by
    have hends := congrArg List.getLast? (hfront.trans hlist)
    simpa using hends.symm
  rcases List.mem_cons.mp (List.mem_of_getLast? hlast) with hdot | hmem
  · exact absurd hdot (by decide)
  · exact notMem_stem he kind '*' (by decide) hmem

/-- The files of an entity declare types of different names. -/
lemma eq_of_stem_eq {k k' : ArtifactKind} {n : String} (h : k.stem n = k'.stem n) : k = k' := by
  have hending : k.ending = k'.ending := (String.append_right_inj n).mp h
  revert hending
  cases k <;> cases k' <;> decide

/-- If the name of the model is free in a file, no library type that the file imports is called like
the file or like a type of the entity that it imports. -/
lemma simpleName_ne_of_notMem_takenNames (he : e.IsTyped) (hfree : e.typeName ∉ kind.takenNames e)
    {k : ArtifactKind} (hk : k = kind ∨ k ∈ kind.uses) (hi : i ∈ kind.libraryImports e)
    (hsingle : Code.IsSingle i) : Code.simpleName i ≠ k.stem e.typeName := by
  by_cases hmodel : k = .model
  · subst hmodel
    intro hname
    refine hfree (mem_takenNames.mpr ⟨hk.imp_left Eq.symm, i, hi, hsingle, ?_⟩)
    rw [hname, stem, ending, String.append_empty]
  · exact simpleName_ne_stem hmodel (mem_libraryTypes he hi hsingle)

/-- The imports of a file are apart exactly if no library type has the name of its model there. -/
lemma importsApart_render_iff (he : e.IsWordy) (kind : ArtifactKind) :
    Code.ImportsApart (kind.render e) ↔ e.typeName ∉ kind.takenNames e := by
  have hname : ∀ c ∈ (kind.stem e.typeName).toList, c ≠ ' ' ∧ c ≠ '\n' := by
    intro c hc
    constructor
    · rintro rfl
      exact notMem_stem he kind ' ' (by decide) hc
    · rintro rfl
      exact notMem_stem he kind '\n' (by decide) hc
  have hself : kind ∉ kind.uses := by cases kind <;> decide
  rw [render, (kind.isTypeFile_code e).importsApart_render_iff
    (fun a ha => lineEnd_notMem_of_mem_code he ha) hname, imports_eq]
  constructor
  · rintro ⟨himports, hdeclared⟩ htaken
    obtain ⟨hmodel, i, hi, hsingle, htype⟩ := mem_takenNames.mp htaken
    have hstem : Code.simpleName i = ArtifactKind.model.stem e.typeName := by
      rw [htype, stem, ending, String.append_empty]
    rcases hmodel with rfl | huses
    · exact hdeclared i (List.mem_append_right _ hi) hsingle hstem
    · have hown : ownType e .model ∈ kind.uses.map (ownType e) := List.mem_map_of_mem huses
      have hsame : i = ownType e .model :=
        himports i (List.mem_append_right _ hi) _ (List.mem_append_left _ hown) hsingle
          (isSingle_ownType he .model) (hstem.trans (simpleName_ownType he .model).symm)
      have hlibrary := isLibraryType_of_mem i (mem_libraryTypes he.typed hi hsingle)
      exact hlibrary.ne_layerType (ArtifactKind.model.layer_mem_layers) hsame
  · intro hfree
    -- an imported type of the entity is not called like an imported library type
    have happart : ∀ j ∈ kind.uses.map (ownType e), ∀ i ∈ kind.libraryImports e, Code.IsSingle i →
        Code.simpleName i ≠ Code.simpleName j := by
      intro j hj i hi hsingle
      obtain ⟨k, hk, rfl⟩ := List.mem_map.mp hj
      rw [simpleName_ownType he]
      exact simpleName_ne_of_notMem_takenNames he.typed hfree (.inr hk) hi hsingle
    refine ⟨fun i hi j hj hsi hsj hname => ?_, fun i hi hsi hname => ?_⟩
    · rcases List.mem_append.mp hi with hi | hi <;> rcases List.mem_append.mp hj with hj | hj
      · obtain ⟨k, -, rfl⟩ := List.mem_map.mp hi
        obtain ⟨k', -, rfl⟩ := List.mem_map.mp hj
        rw [simpleName_ownType he, simpleName_ownType he] at hname
        rw [eq_of_stem_eq hname]
      · exact absurd hname.symm (happart i hi j hj hsj)
      · exact absurd hname (happart j hj i hi hsi)
      · exact simpleName_inj (mem_libraryTypes he.typed hi hsi) (mem_libraryTypes he.typed hj hsj)
          hname
    · rcases List.mem_append.mp hi with hi | hi
      · obtain ⟨k, hk, rfl⟩ := List.mem_map.mp hi
        rw [simpleName_ownType he] at hname
        exact hself (eq_of_stem_eq hname ▸ hk)
      · exact simpleName_ne_of_notMem_takenNames he.typed hfree (.inl rfl) hi hsi hname

end ArtifactKind

end CrudScaffold

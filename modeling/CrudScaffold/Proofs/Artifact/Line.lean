import CrudScaffold.Proofs.Artifact.Token
import CrudScaffold.Proofs.Java.Line

/-!
# The files of an entity are written line by line

What an entity is made of has no line end in it, so every piece of code of a repository, a service
or a controller is one line of its file. The model is another matter: it writes the names of join
columns and join tables as they are, and a line end in one of them would begin a line of its own.
Without such names the model is written line by line too.
-/

namespace CrudScaffold

open Naming

/-- A line end is a mark. -/
lemma lineEnd_notMem_iff_marks {t : String} : '\n' ∉ t.toList ↔ '\n' ∉ marks t := by
  have hmark : Scan.isMark '\n' = true := by decide
  rw [marks, List.mem_filter, hmark, eq_self_iff_true, and_true]

/-- Texts whose marks are no line ends have no line end in them. -/
lemma lineEnd_notMem_of_map_marks {texts : List String} (h : ∀ m ∈ texts.map marks, '\n' ∉ m) :
    ∀ t ∈ texts, '\n' ∉ t.toList :=
  fun t ht => lineEnd_notMem_iff_marks.mpr (h (marks t) (List.mem_map_of_mem ht))

/-- What has no marks has no line end in it. -/
lemma lineEnd_notMem_of_marks {t : String} (h : marks t = []) : '\n' ∉ t.toList := by
  rw [lineEnd_notMem_iff_marks, h]
  exact List.not_mem_nil

namespace ArtifactKind

variable {e : Entity}

/-- The head of a file of an entity is written line by line. -/
lemma lineEnd_notMem_head (he : e.IsWordy) (kind : ArtifactKind) :
    ∀ l ∈ Code.linesOf 0 (preamble (e.layerPackage kind.layer) (kind.imports e)),
      '\n' ∉ l.toList := by
  have hlayer : '\n' ∉ kind.layer.toList := by cases kind <;> decide
  have hpackage : '\n' ∉ (e.layerPackage kind.layer).toList := by
    change '\n' ∉ (e.package ++ "." ++ kind.layer).toList
    simp [lineEnd_notMem_of_marks he.package, hlayer]
  exact Code.notMem_preamble (by decide) hpackage
    fun i hi => lineEnd_notMem_of_marks (kind.marks_of_mem_imports he i hi)

/-- A file is written line by line if what stands behind its head is. -/
lemma lineEnd_notMem_file (he : e.IsWordy) (kind : ArtifactKind) {code : List Code}
    (hcode : ∀ t ∈ Code.textsOf code, '\n' ∉ t.toList) :
    ∀ t ∈ Code.textsOf (preamble (e.layerPackage kind.layer) (kind.imports e) ++ code),
      '\n' ∉ t.toList := by
  rw [Code.textsOf_append, Code.textsOf_preamble]
  exact List.forall_mem_append.mpr ⟨lineEnd_notMem_head he kind, hcode⟩

/-- A repository is written line by line. -/
lemma lineEnd_notMem_access (he : e.IsWordy) :
    ∀ t ∈ Code.textsOf (access.code e), '\n' ∉ t.toList := by
  refine lineEnd_notMem_file he .access (lineEnd_notMem_of_map_marks ?_)
  simp only [Code.textsOf, Code.texts, Code.braces, List.append_nil, List.nil_append,
    List.cons_append, List.map_cons, List.map_nil, marks_append, marks_toString,
    he.typeName.marks_eq_nil, he.marks_keyType]
  repeat rw [marks_ofList]
  decide

/-- A service is written line by line. -/
lemma lineEnd_notMem_logic (he : e.IsWordy) :
    ∀ t ∈ Code.textsOf (logic.code e), '\n' ∉ t.toList := by
  refine lineEnd_notMem_file he .logic (lineEnd_notMem_of_map_marks ?_)
  simp only [Entity.logicMethods, Entity.requireStored, setter, Code.textsOf, Code.texts,
    Code.braces, Code.blank, List.append_nil, List.nil_append, List.cons_append, List.map_cons,
    List.map_nil, marks_append, marks_toString, he.typeName.marks_eq_nil, he.marks_keyType,
    he.key.upperFirst.marks_eq_nil]
  repeat rw [marks_ofList]
  decide

/-- A controller is written line by line. -/
lemma lineEnd_notMem_api (he : e.IsWordy) : ∀ t ∈ Code.textsOf (api.code e), '\n' ∉ t.toList := by
  refine lineEnd_notMem_file he .api (lineEnd_notMem_of_map_marks ?_)
  simp only [Entity.apiMethods, Entity.resourcePath, Code.textsOf, Code.texts, Code.braces,
    Code.blank, List.append_nil, List.nil_append, List.cons_append, List.map_cons, List.map_nil,
    marks_append, marks_toString, he.typeName.marks_eq_nil, he.marks_keyType,
    he.typeName.lowerFirst.marks_eq_nil]
  repeat rw [marks_ofList]
  decide

end ArtifactKind

end CrudScaffold

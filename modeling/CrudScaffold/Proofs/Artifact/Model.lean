import CrudScaffold.Artifact.Kind
import CrudScaffold.Proofs.Java.Source

/-!
# What the model declares

Every relationship field of an entity is declared in the file of its model, under its annotations
and after a blank line. What is written of a field depends on its kind and its side only: a
reference and the owner of a join table name the column or table, and everything else names the
field at the other end.
-/

namespace CrudScaffold

namespace RelationshipField

variable {f : RelationshipField}

/-- A field of many objects is declared as a collection that is empty at first. -/
lemma declaration_of_collection {c : Collection} (h : f.collection = some c) :
    f.declaration = "private " ++ (c.type ++ "<" ++ f.relatedType ++ ">") ++ " " ++ f.fieldName ++
      " = new " ++ c.implementation ++ "<>();" := by
  simp only [declaration, type, member, h]
  rfl

/-- The many objects of a one-to-many field are declared as a list. -/
lemma declaration_of_oneToMany (h : f.kind = .oneToMany) :
    f.declaration = s!"private List<{f.relatedType}> {f.fieldName} = new ArrayList<>();" := by
  rw [declaration_of_collection (c := .list) (by rw [collection, h])]
  change _ = "private List<" ++ f.relatedType ++ "> " ++ f.fieldName ++ " = new ArrayList<>();"
  refine String.toList_injective ?_
  simp [Collection.list]

/-- The many objects of a many-to-many field are declared as a set. -/
lemma declaration_of_manyToMany (h : f.kind = .manyToMany) :
    f.declaration = s!"private Set<{f.relatedType}> {f.fieldName} = new HashSet<>();" := by
  rw [declaration_of_collection (c := .set) (by rw [collection, h])]
  change _ = "private Set<" ++ f.relatedType ++ "> " ++ f.fieldName ++ " = new HashSet<>();"
  refine String.toList_injective ?_
  simp [Collection.set]

/-- The owning end of a many-to-many link stands under the join table with its two columns. -/
lemma annotations_of_joinTable (own : String) (h : f.kind = .manyToMany) (hside : f.side = .owning) :
    f.annotations own = ["@ManyToMany",
      s!"@JoinTable(name = \"{f.joinName}\", joinColumns = @JoinColumn(name = \"{(f.joinColumns own).1}\"), inverseJoinColumns = @JoinColumn(name = \"{(f.joinColumns own).2}\"))"] := by
  rw [annotations, h, hside]
  refine congrArg (fun line => ["@ManyToMany", line]) ?_
  change "@JoinTable(name = \"" ++ f.joinName ++ "\", joinColumns = @JoinColumn(name = \"" ++
      (f.joinColumns own).1 ++ "\"), " ++ ("inverseJoinColumns = @JoinColumn(name = \"" ++
      (f.joinColumns own).2 ++ "\"))") =
    "@JoinTable(name = \"" ++ f.joinName ++ "\", joinColumns = @JoinColumn(name = \"" ++
      (f.joinColumns own).1 ++ "\"), inverseJoinColumns = @JoinColumn(name = \"" ++
      (f.joinColumns own).2 ++ "\"))"
  refine String.toList_injective ?_
  simp

end RelationshipField

namespace Entity

/-- A relationship field is declared in the body of the model. -/
lemma declared_infix_modelBody {e : Entity} {f : RelationshipField} (h : f ∈ e.relationships) :
    declared (f.annotations e.typeName) f.declaration <:+: e.modelBody := by
  have hf : declared (f.annotations e.typeName) f.declaration <:+:
      e.relationships.flatMap fun f => declared (f.annotations e.typeName) f.declaration :=
    List.infix_of_mem_flatten (List.mem_map_of_mem h)
  refine hf.trans ?_
  rw [modelBody, List.append_assoc]
  exact List.infix_append _ _ _

/-- A relationship field is declared in the text of the model, under its annotations. -/
lemma shows_relationship {e : Entity} {f : RelationshipField} (h : f ∈ e.relationships) :
    Code.Shows (ArtifactKind.model.render e) 1
      ("" :: (f.annotations e.typeName ++ [f.declaration])) := by
  have hhead : ArtifactKind.model.code e =
      (preamble (e.layerPackage "model") e.modelImports ++ [.line "@Entity"]) ++
        [.braces s!"public class {e.typeName}" e.modelBody] := by
    simp [ArtifactKind.code, modelFile]
  rw [ArtifactKind.render, hhead]
  exact Code.shows_of_infix_body (declared_infix_modelBody h)

end Entity

end CrudScaffold

import CrudScaffold.Proofs.Artifact.Declaration
import CrudScaffold.Proofs.Project.Injection

/-!
# Members of the models of a diagram

Methods are called after the fields that they read and write, with a capital letter where the field
has a small one. Two fields could therefore meet in one method, if there were a field whose name
begins with a capital. The names of attributes, of keys and of relationship fields all begin with a
small letter or a digit, so the declarations in the files of a diagram can be read back. This and
what else there is to know about an entity of a diagram is put together in `Entity.IsReadable`.
-/

namespace CrudScaffold

open Naming

namespace Entity

variable {c : ClassDef} {n : String} {fields : List RelationshipField} {package : String}

/-- The names of attributes do not begin with capitals. -/
lemma isSmall_fieldName {a : Attribute} (ha : a ∈ (ofClass c n fields package).attributes) :
    IsSmall a.fieldName := by
  obtain ⟨d, -, hd⟩ := exists_fieldName_eq ha
  rw [hd]
  exact isSmall_lowerFirst (Naming.typeName d.name)

/-- Neither does the name of the key. -/
lemma isSmall_keyName : IsSmall (ofClass c n fields package).primaryKey.fieldName := by
  rcases primaryKey_cases c n fields package with ⟨a, ha, -, hkey⟩ | ⟨-, hkey⟩
  · rw [hkey]
    exact isSmall_fieldName ha
  · rw [hkey]
    decide

end Entity

/-- The names of relationship fields begin with the name of a type, which is not empty. -/
lemma Link.isSmall_fieldName {s : Snapshot} {l : Link} {f : RelationshipField}
    (hl : l ∈ all s (.ofSnapshot s)) {side : Side} (h : l.field (.ofSnapshot s) side = some f) :
    IsSmall f.fieldName := by
  obtain ⟨-, -, -, htype, -, hname⟩ := field_eq_some h
  have hend : IsName f.relatedType :=
    htype ▸ ClassNames.isName_of_typeName? (typeName?_endId hl side.opposite)
  have hne : f.relatedType ≠ "" := by
    obtain ⟨c, cs, hcs, -⟩ := hend.exists_toList_eq_cons
    rintro hempty
    rw [hempty] at hcs
    exact List.cons_ne_nil c cs hcs.symm
  rw [hname, String.append_assoc]
  exact isSmall_lowerFirst_append hne _

namespace Snapshot

variable {s : Snapshot} {name : String} {e : Entity}

/-- The members of the models of a diagram can be read. -/
lemma isLegible_of_mem_entities (he : e ∈ s.entities (Layout.ofName name).package) :
    e.IsLegible := by
  refine (isWordy_of_mem_entities he).isLegible fun m hm => ?_
  rw [entities_eq] at he
  obtain ⟨c, -, he⟩ := List.mem_filterMap.mp he
  obtain ⟨n, -, rfl⟩ := Option.map_eq_some_iff.mp he
  rw [entity_eq] at hm
  rw [Entity.modelMembers, List.mem_append, List.mem_append, List.mem_map, List.mem_map,
    List.mem_map] at hm
  rcases hm with (⟨k, hk, rfl⟩ | ⟨a, ha, rfl⟩) | ⟨f, hf, rfl⟩
  · rw [Entity.IsWordy.eq_of_mem_addedKey hk]
    exact Entity.isSmall_keyName
  · exact Entity.isSmall_fieldName ha
  · obtain ⟨l, hl, hf⟩ := mem_relationshipFields.mp hf
    obtain ⟨side, -, hfield⟩ := Link.mem_fieldsOf.mp hf
    exact Link.isSmall_fieldName hl hfield

/-- The attributes of an entity of a diagram have different names. -/
lemma nodup_fieldName_of_mem_entities {package : String} (he : e ∈ s.entities package) :
    (e.attributes.map Attribute.fieldName).Nodup := by
  rw [entities_eq] at he
  obtain ⟨c, -, he⟩ := List.mem_filterMap.mp he
  obtain ⟨n, -, rfl⟩ := Option.map_eq_some_iff.mp he
  exact Entity.nodup_fieldName_ofClass

end Snapshot

/-! ### The entities of a diagram -/

/-- An entity whose files can be read back: they are made of words, and what they declare and mark
can be told apart. -/
structure Entity.IsReadable (e : Entity) : Prop where
  wordy : e.IsWordy
  legible : e.IsLegible
  name : IsName e.typeName
  package : '@' ∉ e.package.toList
  key : e.IsKeyed
  nodup : (e.attributes.map Attribute.fieldName).Nodup

/-- Every class of a diagram has a type name, and under it a readable entity. -/
lemma Snapshot.exists_isReadable {s : Snapshot} {c : ClassDef} (hc : c ∈ s.classes)
    (name : String) :
    let package := (Layout.ofName name).package
    ∃ n, (ClassNames.ofSnapshot s).typeName? c.id = some n ∧
      s.entity package c n ∈ s.entities package ∧ (s.entity package c n).IsReadable := by
  intro package
  obtain ⟨n, hn⟩ := exists_typeName? hc
  have hmem : s.entity package c n ∈ s.entities package := entity_mem_entities hc hn package
  have hpackage : '@' ∉ (s.entity package c n).package.toList := by
    rw [(of_mem_entities hmem).2.1]
    exact Layout.at_notMem_package name
  refine ⟨n, hn, hmem, ?_⟩
  exact {
    wordy := isWordy_of_mem_entities hmem
    legible := isLegible_of_mem_entities hmem
    name := ClassNames.isName_of_typeName? hn
    package := hpackage
    key := Entity.isKeyed_ofClass c n _ package
    nodup := nodup_fieldName_of_mem_entities hmem }

end CrudScaffold

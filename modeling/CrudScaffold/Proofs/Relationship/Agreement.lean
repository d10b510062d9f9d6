import CrudScaffold.Proofs.Relationship.Index
import CrudScaffold.Proofs.Text.Utf8

/-!
# The index and the relations

The fields of a class can be had in two ways: from the index, which is built once and lists the ids
of the classes, and from the relations themselves, which can be asked about any id. Both give the
same. For an id that the index lists this is so because an entry depends on its id alone, so that it
does not matter which of several classes with one id has left it there. For any other id the index
has nothing, and neither have the relations: both ends of a link are classes.
-/

namespace CrudScaffold

/-- **The index agrees with the relations.** For every diagram and every id, be it the id of one
class, of several or of none, the index has the fields that the relations of the diagram give to the
id. The index lists the id of each class once and no other, in the order of their bytes, each with
these fields. -/
theorem RelationshipIndex.build_agrees (s : Snapshot) :
    let names := ClassNames.ofSnapshot s
    let index := build s names
    (∀ id, index.fieldsFor id = relationshipFields id s names) ∧
      (index.entries.map Prod.fst).Pairwise (fun id id' => Text.bytes id < Text.bytes id') ∧
      (∀ id, (index.entries.map Prod.fst).count id = if id ∈ s.classIds then 1 else 0) ∧
      ∀ e ∈ index.entries, e.2 = relationshipFields e.1 s names := by
  intro names index
  refine ⟨fieldsFor_build s, ?_, fun id => ?_, fun e he => ?_⟩
  · exact List.pairwise_map.mpr ((pairwise_entries_build s names).imp Text.bytes_lt_bytes)
  · split_ifs with hid
    · exact List.count_eq_one_of_mem (nodup_ids_build s names) (mem_ids_build.mpr hid)
    · exact List.count_eq_zero_of_not_mem (mem_ids_build.not.mpr hid)
  · obtain ⟨-, hfields⟩ := mem_entries_build he
    rw [hfields]
    exact fieldsFor_build s e.1

/-- Two classes with one id and a relation to a class that is not there. -/
example :
    (RelationshipIndex.build
      { classes := [⟨"b", "Item", []⟩, ⟨"a", "Order", []⟩, ⟨"b", "Product", []⟩]
        relations :=
          [⟨"1", "b", "a", .association, none⟩, ⟨"2", "a", "c", .association, none⟩] }
      ⟨[("b", "Item"), ("a", "Order"), ("b", "Product")]⟩).entries.map
        (fun e => (e.1, e.2.map RelationshipField.fieldName)) =
      [("a", ["productList"]), ("b", ["order"])] := by
  decide +kernel

end CrudScaffold

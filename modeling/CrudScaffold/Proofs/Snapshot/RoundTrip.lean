import CrudScaffold.Proofs.Json.Reader
import CrudScaffold.Snapshot.Printer
import CrudScaffold.Snapshot.Reader

/-!
# Diagrams are read back

The text of a diagram is read as the diagram. A record is written with its fields in declared order,
each once, and a field that is not given is left out; the reader fills its draft in the same order
and takes what is missing from the defaults. Tags and kinds are written by their names, which name
nothing else, the catch-all ones included.
-/

namespace CrudScaffold

open Json

/-- A length is read back. -/
lemma readLength_tree (n : UInt32) : readLength (Value.tree (.number n.toNat)) = .ok n := by
  rw [readLength, readNat32_tree n.toNat_lt]
  simp [Except.map]

/-- An attribute is read back. -/
lemma AttributeDef.read_toValue (a : AttributeDef) : record.read a.toValue.tree = .ok a := by
  obtain ⟨name, typeTag, isPrimaryKey, isRequired, maxLength⟩ := a
  cases maxLength with
  | none =>
    refine (record.read_tree_object
      (d := ⟨some name, some typeTag, some isPrimaryKey, some isRequired, none⟩) ?_).trans rfl
    simp only [List.append_nil, Record.readMembers_memberTrees_cons, record, once, readString_tree,
      readName_tree, TypeTag.ofName_name, readBool_tree]
    rfl
  | some n =>
    have hlength : readOption readLength (Value.tree (.number n.toNat)) = .ok (some n) :=
      readOption_tree Tree.noConfusion (readLength_tree n)
    refine (record.read_tree_object (d := ⟨some name, some typeTag, some isPrimaryKey,
      some isRequired, some (some n)⟩) ?_).trans rfl
    simp only [List.cons_append, List.nil_append, Record.readMembers_memberTrees_cons, record, once,
      readString_tree, readName_tree, TypeTag.ofName_name, readBool_tree, hlength]
    rfl

/-- A class is read back with its attributes. -/
lemma ClassDef.read_toValue (c : ClassDef) : record.read c.toValue.tree = .ok c := by
  obtain ⟨id, name, attributes⟩ := c
  have hattributes := readList_tree (l := attributes) fun a _ => a.read_toValue
  refine (record.read_tree_object (d := ⟨some id, some name, some attributes⟩) ?_).trans rfl
  simp only [Record.readMembers_memberTrees_cons, record, once, readString_tree, hattributes]
  rfl

/-- A relation is read back. -/
lemma RelationDef.read_toValue (r : RelationDef) : record.read r.toValue.tree = .ok r := by
  obtain ⟨id, sourceId, targetId, kind, associationClassId⟩ := r
  cases associationClassId with
  | none =>
    refine (record.read_tree_object
      (d := ⟨some id, some sourceId, some targetId, some kind, none⟩) ?_).trans rfl
    simp only [List.append_nil, Record.readMembers_memberTrees_cons, record, once, readString_tree,
      readName_tree, RelationKind.ofName_name]
    rfl
  | some classId =>
    have hclass : readOption readString (Value.tree (.string classId)) = .ok (some classId) :=
      readOption_tree Tree.noConfusion (readString_tree classId)
    refine (record.read_tree_object
      (d := ⟨some id, some sourceId, some targetId, some kind, some (some classId)⟩) ?_).trans rfl
    simp only [List.cons_append, List.nil_append, Record.readMembers_memberTrees_cons, record, once,
      readString_tree, readName_tree, RelationKind.ofName_name, hclass]
    rfl

/-- A diagram is read back from its tree. -/
lemma Snapshot.read_toValue (s : Snapshot) : record.read s.toValue.tree = .ok s := by
  obtain ⟨classes, relations⟩ := s
  have hclasses := readList_tree (l := classes) fun c _ => c.read_toValue
  have hrelations := readList_tree (l := relations) fun r _ => r.read_toValue
  refine (record.read_tree_object (d := ⟨some classes, some relations⟩) ?_).trans rfl
  simp only [Record.readMembers_memberTrees_cons, record, once, hclasses, hrelations]
  rfl

/-- **Diagrams are read back.** The text of a diagram is one complete document, and it is read as
the same diagram, whatever characters its texts have, whatever tags and kinds it has, and whatever
is left out of it. -/
theorem Snapshot.ofJson_toJson (s : Snapshot) :
    parse s.toJson = ⟨s.toValue.tree, false⟩ ∧ ofJson s.toJson = .ok s :=
  ⟨parse_pretty s.toValue, Record.ofText_pretty s.read_toValue⟩

end CrudScaffold

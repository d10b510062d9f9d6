import CrudScaffold.Proofs.List
import CrudScaffold.Proofs.Naming
import CrudScaffold.Relationship.Index

/-!
# What the relationship index holds

The index is built by putting in the fields of one class after the other, and a class with the id of
an earlier one takes its place. Since the fields depend on the id alone, nothing is lost: the fields
of an id are those that the links of the diagram give to it, whether or not the id is listed. The
fields of one link are described once, by its owning and its inverse end.
-/

namespace CrudScaffold

open Naming

/-! ### Sides -/

/-- The other end of a link. -/
def Side.opposite : Side → Side
  | .owning => .inverse
  | .inverse => .owning

/-- The class at an end of a relation. -/
def RelationDef.endId (r : RelationDef) : Side → String
  | .owning => r.sourceId
  | .inverse => r.targetId

/-- The kind of field that a kind of relation gives to the class at one of its ends. -/
def RelationKind.fieldKind? : RelationKind → Side → Option RelationshipKind
  | .association, .owning => some .manyToOne
  | .association, .inverse => some .oneToMany
  | .associationNtoN, _ => some .manyToMany
  | _, _ => none

/-- What the name of a field ends in because of its kind. -/
def RelationshipKind.ending : RelationshipKind → String
  | .manyToOne => ""
  | .oneToMany => "List"
  | .manyToMany => "Set"

/-- The kind of the field at an end tells the kind of the relation. -/
lemma RelationKind.fieldKind?_inj {k k' : RelationKind} {side : Side} {r : RelationshipKind}
    (h : k.fieldKind? side = some r) (h' : k'.fieldKind? side = some r) : k = k' := by
  cases side <;> cases k <;> cases h <;> cases k' <;> simp_all [fieldKind?]

/-! ### Links -/

namespace Link

variable {names : ClassNames} {s : Snapshot} {l : Link} {f : RelationshipField} {id : String}

/-- A link is a relation both ends of which have a name. -/
lemma of?_eq_some_iff {r : RelationDef × Nat} :
    of? names r = some l ↔
      l.relation = r.1 ∧ names.typeName? r.1.sourceId = some l.sourceType ∧
        names.typeName? r.1.targetId = some l.targetType ∧ l.suffix = repeatSuffix r.2 := by
  obtain ⟨relation, sourceType, targetType, suffix⟩ := l
  unfold of?
  split
  · rename_i S T hS hT
    simp only [Option.some.injEq, hS, hT, Link.mk.injEq, eq_comm]
  · rename_i hno
    constructor
    · rintro ⟨⟩
    · rintro ⟨-, hS, hT, -⟩
      exact absurd hT (hno _ _ hS)

/-- The type at an end of a link. -/
def endType (l : Link) : Side → String
  | .owning => l.sourceType
  | .inverse => l.targetType

/-- The field that a link gives to the class at one of its ends. -/
def field (names : ClassNames) (l : Link) : Side → Option RelationshipField
  | .owning => l.owningField names
  | .inverse => l.inverseField names

/-- The types at the ends of a link of a diagram are the names of the classes there. -/
lemma typeName?_endId (h : l ∈ all s names) (side : Side) :
    names.typeName? (l.relation.endId side) = some (l.endType side) := by
  obtain ⟨r, -, hr⟩ := List.mem_filterMap.mp h
  obtain ⟨hrel, hS, hT, -⟩ := of?_eq_some_iff.mp hr
  cases side with
  | owning => exact hrel ▸ hS
  | inverse => exact hrel ▸ hT

/-- The join table of a link is that of its relation, with the number of a repeated relation. -/
lemma joinTable_eq (hl : l ∈ all s names) :
    ∃ table, joinTableName names l.relation = some table ∧
      l.joinTable names = if l.suffix.isEmpty then table else table ++ "_" ++ l.suffix := by
  have hsource : names.typeName? l.relation.sourceId = some l.sourceType :=
    typeName?_endId hl .owning
  have htarget : names.typeName? l.relation.targetId = some l.targetType :=
    typeName?_endId hl .inverse
  rw [joinTableName, joinTable, hsource, htarget]
  cases associationTable names l.relation with
  | none => exact ⟨_, rfl, rfl⟩
  | some table => exact ⟨table, rfl, rfl⟩

/-- The field that a link gives to a class because of one of its ends. -/
def fieldAt (names : ClassNames) (id : String) (l : Link) (side : Side) :
    List RelationshipField :=
  if l.relation.endId side = id then (l.field names side).toList else []

/-- A class has from a link the fields of both ends. -/
lemma fieldsOf_eq (names : ClassNames) (id : String) (l : Link) :
    l.fieldsOf names id = l.fieldAt names id .owning ++ l.fieldAt names id .inverse :=
  rfl

/-- A class has from a link the fields of the ends that it stands at. -/
lemma mem_fieldsOf :
    f ∈ l.fieldsOf names id ↔ ∃ side, l.relation.endId side = id ∧ l.field names side = some f := by
  have hside : ∀ side, f ∈ l.fieldAt names id side ↔
      l.relation.endId side = id ∧ l.field names side = some f := by
    intro side
    unfold fieldAt
    split_ifs <;> simp [*]
  rw [fieldsOf_eq, List.mem_append, hside, hside]
  constructor
  · rintro (h | h)
    · exact ⟨.owning, h⟩
    · exact ⟨.inverse, h⟩
  · rintro ⟨_ | _, h⟩
    · exact .inl h
    · exact .inr h

/-- A link gives its source a reference if it is an association, and a set if it is many-to-many. -/
lemma owningField_cases (h : l.owningField names = some f) :
    l.relation.kind = .association ∧
      f = {
        ownerClassId := l.relation.sourceId
        kind := .manyToOne
        side := .owning
        relatedClassId := l.relation.targetId
        relatedType := l.targetType
        fieldName := l.referenceName
        joinName := joinColumn l.referenceName
        mappedBy := none } ∨
    l.relation.kind = .associationNtoN ∧
      f = {
        ownerClassId := l.relation.sourceId
        kind := .manyToMany
        side := .owning
        relatedClassId := l.relation.targetId
        relatedType := l.targetType
        fieldName := l.targetSetName
        joinName := l.joinTable names
        mappedBy := none } := by
  unfold owningField at h
  split at h
  · exact .inl ⟨‹_›, (Option.some.inj h).symm⟩
  · exact .inr ⟨‹_›, (Option.some.inj h).symm⟩
  · cases h

/-- A link gives its target a list if it is an association, and a set if it is many-to-many. Each
goes with the field at the source. -/
lemma inverseField_cases (h : l.inverseField names = some f) :
    l.relation.kind = .association ∧
      f = {
        ownerClassId := l.relation.targetId
        kind := .oneToMany
        side := .inverse
        relatedClassId := l.relation.sourceId
        relatedType := l.sourceType
        fieldName := lowerFirst l.sourceType ++ "List" ++ l.suffix
        joinName := joinColumn l.referenceName
        mappedBy := some l.referenceName } ∨
    l.relation.kind = .associationNtoN ∧
      f = {
        ownerClassId := l.relation.targetId
        kind := .manyToMany
        side := .inverse
        relatedClassId := l.relation.sourceId
        relatedType := l.sourceType
        fieldName := lowerFirst l.sourceType ++ "Set" ++ l.suffix
        joinName := l.joinTable names
        mappedBy := some l.targetSetName } := by
  unfold inverseField at h
  split at h
  · exact .inl ⟨‹_›, (Option.some.inj h).symm⟩
  · rename_i hkind
    split_ifs at h
    exact .inr ⟨hkind, (Option.some.inj h).symm⟩
  · cases h

/-- What the field at an end of a link says of it. -/
lemma field_eq_some {side : Side} (h : l.field names side = some f) :
    f.side = side ∧ f.ownerClassId = l.relation.endId side ∧
      f.relatedClassId = l.relation.endId side.opposite ∧
      f.relatedType = l.endType side.opposite ∧
      l.relation.kind.fieldKind? side = some f.kind ∧
      f.fieldName = lowerFirst f.relatedType ++ f.kind.ending ++ l.suffix := by
  cases side with
  | owning =>
    rcases owningField_cases h with ⟨hkind, rfl⟩ | ⟨hkind, rfl⟩
    · refine ⟨rfl, rfl, rfl, rfl, hkind ▸ rfl, ?_⟩
      rw [RelationshipKind.ending, String.append_empty, referenceName]
    · exact ⟨rfl, rfl, rfl, rfl, hkind ▸ rfl, rfl⟩
  | inverse =>
    rcases inverseField_cases h with ⟨hkind, rfl⟩ | ⟨hkind, rfl⟩
    · exact ⟨rfl, rfl, rfl, rfl, hkind ▸ rfl, rfl⟩
    · exact ⟨rfl, rfl, rfl, rfl, hkind ▸ rfl, rfl⟩

/-- Whatever refers to its owning end has one: the two ends of a link agree on the field that owns
the mapping and on the column or table that joins them. -/
lemma exists_owningField (h : l.inverseField names = some f) :
    ∃ g, l.owningField names = some g ∧ f.mappedBy = some g.fieldName ∧
      f.joinName = g.joinName := by
  rcases inverseField_cases h with ⟨hkind, rfl⟩ | ⟨hkind, rfl⟩
  · simp [owningField, hkind]
  · simp [owningField, hkind]

/-- Associations have an owning end. -/
lemma isSome_owningField (h : (l.relation.kind.fieldKind? .owning).isSome) :
    (l.owningField names).isSome := by
  unfold owningField
  split
  · rfl
  · rfl
  · cases hk : l.relation.kind <;> simp_all [RelationKind.fieldKind?]

/-- Associations have an inverse end, unless they are many-to-many and lead back to their
source. -/
lemma isSome_inverseField (h : (l.relation.kind.fieldKind? .inverse).isSome)
    (hself : l.relation.kind = .associationNtoN → l.relation.sourceId ≠ l.relation.targetId) :
    (l.inverseField names).isSome := by
  unfold inverseField
  split
  · rfl
  · rename_i hk
    simp [RelationDef.isSelfRelation, hself hk]
  · cases hk : l.relation.kind <;> simp_all [RelationKind.fieldKind?]

/-- A many-to-many link of a class with itself has no inverse end. -/
lemma inverseField_eq_none (hk : l.relation.kind = .associationNtoN)
    (hself : l.relation.sourceId = l.relation.targetId) : l.inverseField names = none := by
  simp [inverseField, hk, RelationDef.isSelfRelation, hself]

end Link

/-- A field that an id has because of a diagram comes from a link at one of its ends. -/
lemma mem_relationshipFields {s : Snapshot} {names : ClassNames} {id : String}
    {f : RelationshipField} :
    f ∈ relationshipFields id s names ↔ ∃ l ∈ Link.all s names, f ∈ l.fieldsOf names id :=
  List.mem_flatMap

/-! ### Entries of the index -/

namespace RelationshipIndex

/-- An entry that is put in is found under its id, and the others as before. -/
lemma lookup_insertEntry (id q : String) (fields : List RelationshipField)
    (entries : List (String × List RelationshipField)) :
    (insertEntry id fields entries).lookup q =
      if q = id then some fields else entries.lookup q := by
  induction entries with
  | nil => rw [insertEntry, lookup_cons_ite]
  | cons e entries ih =>
    obtain ⟨id', fields'⟩ := e
    rw [insertEntry]
    by_cases hlt : id < id'
    · rw [if_pos hlt, lookup_cons_ite]
    · rw [if_neg hlt]
      by_cases heq : id = id'
      · rw [if_pos heq, lookup_cons_ite, lookup_cons_ite, heq]
        by_cases hq : q = id' <;> simp [hq]
      · -- the entry goes further back, behind one with another id
        rw [if_neg heq, lookup_cons_ite, lookup_cons_ite, ih]
        by_cases hq : q = id <;> simp [hq, heq]

/-- Nothing is put in but the new entry. -/
lemma mem_insertEntry {id : String} {fields : List RelationshipField}
    {e : String × List RelationshipField} {entries : List (String × List RelationshipField)}
    (h : e ∈ insertEntry id fields entries) : e = (id, fields) ∨ e ∈ entries := by
  induction entries with
  | nil => exact .inl (List.mem_singleton.mp h)
  | cons e' entries ih =>
    obtain ⟨id', fields'⟩ := e'
    rw [insertEntry] at h
    split_ifs at h with hlt heq
    · exact List.mem_cons.mp h
    · exact (List.mem_cons.mp h).imp_right (List.mem_cons_of_mem _)
    · rcases List.mem_cons.mp h with rfl | h
      · exact .inr (by simp)
      · exact (ih h).imp_right (List.mem_cons_of_mem _)

/-- The entries stay in the order of their ids. -/
lemma pairwise_insertEntry (id : String) (fields : List RelationshipField)
    {entries : List (String × List RelationshipField)}
    (h : entries.Pairwise fun e e' => e.1 < e'.1) :
    (insertEntry id fields entries).Pairwise fun e e' => e.1 < e'.1 := by
  induction entries with
  | nil => exact List.pairwise_singleton _ _
  | cons e entries ih =>
    obtain ⟨id', fields'⟩ := e
    obtain ⟨hhead, htail⟩ := List.pairwise_cons.mp h
    rw [insertEntry]
    split_ifs with hlt heq
    · refine List.pairwise_cons.mpr ⟨fun e he => ?_, h⟩
      rcases List.mem_cons.mp he with rfl | he
      · exact hlt
      · exact String.lt_trans hlt (hhead e he)
    · subst heq
      exact List.pairwise_cons.mpr ⟨hhead, htail⟩
    · -- the entry goes further back, where all ids are greater, and so is its own
      refine List.pairwise_cons.mpr ⟨fun e he => ?_, ih htail⟩
      rcases mem_insertEntry he with rfl | he
      · exact Std.lt_of_le_of_ne (String.not_lt.mp hlt) (Ne.symm heq)
      · exact hhead e he

/-- Entries that are put in for some ids, each with the fields of its id. -/
lemma lookup_foldl_insertEntry (fields : String → List RelationshipField) (q : String)
    (ids : List String) (entries : List (String × List RelationshipField)) :
    (ids.foldl (fun entries id => insertEntry id (fields id) entries) entries).lookup q =
      if q ∈ ids then some (fields q) else entries.lookup q := by
  induction ids generalizing entries with
  | nil => simp
  | cons id ids ih =>
    rw [List.foldl_cons, ih, lookup_insertEntry]
    by_cases hq : q = id
    · subst hq
      simp
    · simp [hq]

/-- Nothing else gets into the entries. -/
lemma mem_foldl_insertEntry {fields : String → List RelationshipField} {ids : List String}
    {entries : List (String × List RelationshipField)} {e : String × List RelationshipField}
    (h : e ∈ ids.foldl (fun entries id => insertEntry id (fields id) entries) entries) :
    (e.1 ∈ ids ∧ e.2 = fields e.1) ∨ e ∈ entries := by
  induction ids generalizing entries with
  | nil => exact .inr h
  | cons id ids ih =>
    rcases ih h with ⟨hid, hf⟩ | he
    · exact .inl ⟨List.mem_cons_of_mem id hid, hf⟩
    · rcases mem_insertEntry he with rfl | he
      · exact .inl ⟨by simp, rfl⟩
      · exact .inr he

/-- The entries of the index are put in for the ids of the classes. -/
lemma entries_build (s : Snapshot) (names : ClassNames) :
    (build s names).entries =
      s.classIds.foldl (fun entries id =>
        insertEntry id (relationshipFields id s names) entries) [] := by
  rw [Snapshot.classIds, List.foldl_map]
  rfl

/-- The entries of the index are in the order of their ids. -/
lemma pairwise_entries_build (s : Snapshot) (names : ClassNames) :
    (build s names).entries.Pairwise fun e e' => e.1 < e'.1 := by
  rw [entries_build]
  refine List.foldlRecOn s.classIds _ List.Pairwise.nil fun entries hentries id _ => ?_
  exact pairwise_insertEntry id _ hentries

/-- No id is listed twice in the index. -/
lemma nodup_ids_build (s : Snapshot) (names : ClassNames) :
    ((build s names).entries.map Prod.fst).Nodup :=
  List.pairwise_map.mpr ((pairwise_entries_build s names).imp String.ne_of_lt)

/-- The ids that the index lists are those of the classes. -/
lemma mem_ids_build {s : Snapshot} {names : ClassNames} {id : String} :
    id ∈ (build s names).entries.map Prod.fst ↔ id ∈ s.classIds := by
  have hlisted : id ∈ (build s names).entries.map Prod.fst ↔
      ((build s names).entries.lookup id).isSome := by
    rw [List.lookup_isSome_iff, List.mem_map]
    exact exists_congr fun e => and_congr_right' (by rw [beq_iff_eq, eq_comm])
  rw [hlisted, entries_build, lookup_foldl_insertEntry]
  split_ifs with h <;> simp [h]

/-- Nobody but a class has fields because of a diagram. -/
lemma relationshipFields_eq_nil {s : Snapshot} {id : String} (h : id ∉ s.classIds) :
    relationshipFields id s (.ofSnapshot s) = [] := by
  refine List.eq_nil_iff_forall_not_mem.mpr fun f hf => ?_
  obtain ⟨l, hl, hf⟩ := mem_relationshipFields.mp hf
  obtain ⟨side, rfl, -⟩ := Link.mem_fieldsOf.mp hf
  refine h ((ClassNames.typeName?_isSome_iff s _).mp ?_)
  rw [Link.typeName?_endId hl side]
  rfl

/-- The index holds for every id the fields that the links of the diagram give to it. -/
lemma fieldsFor_build (s : Snapshot) (id : String) :
    (build s (.ofSnapshot s)).fieldsFor id = relationshipFields id s (.ofSnapshot s) := by
  rw [fieldsFor, entries_build, lookup_foldl_insertEntry]
  by_cases h : id ∈ s.classIds
  · rw [if_pos h]
    rfl
  · rw [if_neg h, relationshipFields_eq_nil h]
    rfl

/-- An entry of the index belongs to a class and holds the fields of its id. -/
lemma mem_entries_build {s : Snapshot} {e : String × List RelationshipField}
    (h : e ∈ (build s (.ofSnapshot s)).entries) :
    e.1 ∈ s.classIds ∧ e.2 = (build s (.ofSnapshot s)).fieldsFor e.1 := by
  rw [entries_build] at h
  rw [fieldsFor_build]
  exact (mem_foldl_insertEntry h).resolve_right List.not_mem_nil

end RelationshipIndex

end CrudScaffold

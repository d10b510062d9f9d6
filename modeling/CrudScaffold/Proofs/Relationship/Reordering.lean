import Mathlib.Data.List.FinRange
import CrudScaffold.Proofs.Relationship.Pairing

/-!
# Relations in another order

The order of the relations of a diagram shows in two ways: the fields of a class are listed in it,
and a relation that repeats others is told apart by their number. The second way is the only one
that matters. As long as relations that repeat each other keep their order, all numbers stay with
their relations, and every class has the same fields, listed in another order.

What stays is found by picking. The relations of one kind from one class to another are the same
list before and after (`filter_eq_of_place`), so the same is picked from the numbered relations
(`filter_numberRepeats`), whatever kind and classes are picked. Lists from which the same is always
picked are permutations of each other, and so are the links and fields that are made of them.
-/

namespace CrudScaffold

/-! ### Picking from lists in another order -/

section Picking

variable {α : Type*}

/-- Elements are picked from a list by their places. -/
lemma filter_eq_map_finRange (p : α → Bool) (l : List α) :
    l.filter p = ((List.finRange l.length).filter fun i => p (l.get i)).map l.get := by
  conv_lhs => rw [← List.map_get_finRange l, List.filter_map]
  rfl

/-- If all elements of a list get new places, and those that are picked keep their order among each
other, they are picked in the same order as before. -/
lemma filter_eq_of_place {l l' : List α} (place : Fin l.length ≃ Fin l'.length)
    (hget : ∀ i, l'.get (place i) = l.get i) {p : α → Bool}
    (horder : ∀ i j, i < j → p (l.get i) → p (l.get j) → place i < place j) :
    l.filter p = l'.filter p := by
  have hplaces : ((List.finRange l.length).filter fun i => p (l.get i)).map place =
      (List.finRange l'.length).filter fun j => p (l'.get j) := by
    -- both sides are ascending and hold the places of the same elements
    apply @List.Perm.eq_of_pairwise _ (· < ·)
    · intro i j _ _ hij hji
      exact absurd hij hji.asymm
    · rw [List.pairwise_map]
      refine ((List.pairwise_lt_finRange _).filter _).imp_of_mem fun {i j} hi hj hij => ?_
      exact horder i j hij (List.mem_filter.mp hi).2 (List.mem_filter.mp hj).2
    · exact (List.pairwise_lt_finRange _).filter _
    · rw [List.perm_ext_iff_of_nodup (((List.nodup_finRange _).filter _).map place.injective)
        ((List.nodup_finRange _).filter _)]
      intro j
      obtain ⟨i, rfl⟩ := place.surjective j
      simp only [List.mem_map_of_injective place.injective, List.mem_filter, List.mem_finRange,
        hget]
  rw [filter_eq_map_finRange, filter_eq_map_finRange p l', ← hplaces, List.map_map]
  exact List.map_congr_left fun i _ => (hget i).symm

end Picking

/-! ### Numbers, links and fields -/

/-- Relations get new places, at which those that repeat each other keep their order. -/
structure RelationDef.KeepsRepeats {rs rs' : List RelationDef}
    (place : Fin rs.length ≃ Fin rs'.length) : Prop where
  getElem_place : ∀ i, rs'[place i] = rs[i]
  place_lt : ∀ i j, i < j → rs[i].repeats rs[j] → place i < place j

section Reordering

variable {rs rs' : List RelationDef} {place : Fin rs.length ≃ Fin rs'.length}

/-- The relations of one kind from one class to another are the same as before. -/
lemma RelationDef.KeepsRepeats.filter_joins (h : KeepsRepeats place) (kind : RelationKind)
    (a b : String) : rs.filter (·.joins kind a b) = rs'.filter (·.joins kind a b) := by
  refine filter_eq_of_place place h.getElem_place fun i j hij hi hj => h.place_lt i j hij ?_
  change rs[i].joins kind a b at hi
  rwa [repeats_eq_joins hi]

/-- Every relation keeps its number. -/
lemma RelationDef.KeepsRepeats.perm_numberRepeats (h : KeepsRepeats place) :
    (numberRepeats [] rs).Perm (numberRepeats [] rs') := by
  rw [List.perm_iff_count]
  intro r
  have hpicked : r.1.joins r.1.kind r.1.sourceId r.1.targetId := decide_eq_true ⟨rfl, rfl, rfl⟩
  have hcount : ∀ rs, (numberRepeats [] rs).count r =
      ((rs.filter (·.joins r.1.kind r.1.sourceId r.1.targetId)).zipIdx 0).count r := by
    intro rs
    have hnumbered := filter_numberRepeats r.1.kind r.1.sourceId r.1.targetId [] rs
    rw [List.countP_nil] at hnumbered
    rw [← hnumbered]
    exact (List.count_filter (a := r) hpicked).symm
  rw [hcount, hcount, h.filter_joins]

/-- A class has the same fields as before. -/
lemma RelationDef.KeepsRepeats.perm_relationshipFields (h : KeepsRepeats place)
    (classes : List ClassDef) (id : String) (names : ClassNames) :
    (relationshipFields id ⟨classes, rs⟩ names).Perm
      (relationshipFields id ⟨classes, rs'⟩ names) :=
  (h.perm_numberRepeats.filterMap _).flatMap_right _

end Reordering

/-! ### Entries of the index -/

namespace RelationshipIndex

/-- Two lists of entries have the same ids in the same order, and the same fields for each id. -/
abbrev SameFields (entries entries' : List (String × List RelationshipField)) : Prop :=
  List.Forall₂ (fun e e' => e.1 = e'.1 ∧ e.2.Perm e'.2) entries entries'

/-- An entry is put in at the same place of lists with the same ids. -/
lemma sameFields_insertEntry (id : String) {fields fields' : List RelationshipField}
    (hfields : fields.Perm fields') {entries entries' : List (String × List RelationshipField)}
    (h : SameFields entries entries') :
    SameFields (insertEntry id fields entries) (insertEntry id fields' entries') := by
  induction h with
  | nil => exact .cons ⟨rfl, hfields⟩ .nil
  | @cons e e' entries entries' he h ih =>
    obtain ⟨other, otherFields⟩ := e
    obtain ⟨other', otherFields'⟩ := e'
    obtain ⟨rfl, hother⟩ := he
    rw [insertEntry, insertEntry]
    split_ifs
    · exact .cons ⟨rfl, hfields⟩ (.cons ⟨rfl, hother⟩ h)
    · exact .cons ⟨rfl, hfields⟩ h
    · exact .cons ⟨rfl, hother⟩ ih

/-- Entries that are put in for the same ids stay alike. -/
lemma sameFields_foldl_insertEntry {fields fields' : String → List RelationshipField}
    (hfields : ∀ id, (fields id).Perm (fields' id)) (ids : List String)
    {entries entries' : List (String × List RelationshipField)} (h : SameFields entries entries') :
    SameFields (ids.foldl (fun entries id => insertEntry id (fields id) entries) entries)
      (ids.foldl (fun entries id => insertEntry id (fields' id) entries) entries') := by
  induction ids generalizing entries entries' with
  | nil => exact h
  | cons id ids ih => exact ih (sameFields_insertEntry id (hfields id) h)

end RelationshipIndex

/-- **The order of relations matters among repeats only.** Two diagrams with the same classes, whose
relations are the same in two orders that agree on all relations of one kind from one class to
another, give every class the same fields, each as many times: same names, same columns and tables,
same references to the other end. -/
theorem RelationshipIndex.sameFields_of_keepsRepeats (classes : List ClassDef)
    {rs rs' : List RelationDef} (place : Fin rs.length ≃ Fin rs'.length)
    (h : RelationDef.KeepsRepeats place) :
    let s : Snapshot := ⟨classes, rs⟩
    let s' : Snapshot := ⟨classes, rs'⟩
    let index := build s (.ofSnapshot s)
    let index' := build s' (.ofSnapshot s')
    SameFields index.entries index'.entries ∧
      ∀ id, (index.fieldsFor id).Perm (index'.fieldsFor id) := by
  intro s s' index index'
  have hfields : ∀ id, (relationshipFields id s (.ofSnapshot s)).Perm
      (relationshipFields id s' (.ofSnapshot s')) :=
    fun id => h.perm_relationshipFields classes id _
  constructor
  · rw [entries_build, entries_build]
    exact sameFields_foldl_insertEntry hfields s.classIds .nil
  · intro id
    rw [fieldsFor_build, fieldsFor_build]
    exact hfields id

/-- The diagram with repeated relations, its first two relations exchanged. -/
def Snapshot.exchangedRelations : Snapshot where
  classes := repeatedRelations.classes
  relations :=
    [⟨"r2", "i", "t", .associationNtoN, none⟩, ⟨"r1", "i", "o", .association, none⟩,
      ⟨"r3", "i", "ghost", .association, none⟩, ⟨"r4", "i", "o", .association, none⟩,
      ⟨"r5", "o", "o", .association, none⟩, ⟨"r6", "t", "t", .associationNtoN, none⟩]

/-- An item refers to two orders and has a set of tags, whichever of its relations comes first. -/
theorem RelationshipIndex.sameFields_of_keepsRepeats_exchanged :
    let s := Snapshot.repeatedRelations
    let s' := Snapshot.exchangedRelations
    let index := build s (.ofSnapshot s)
    let index' := build s' (.ofSnapshot s')
    let place : Fin 6 ≃ Fin 6 := Equiv.swap 0 1
    @RelationDef.KeepsRepeats s.relations s'.relations place ∧
      SameFields index.entries index'.entries ∧
      (index.fieldsFor "i").Perm (index'.fieldsFor "i") ∧
      index.fieldsFor "i" ≠ index'.fieldsFor "i" := by
  intro s s' index index' place
  have hkeeps : @RelationDef.KeepsRepeats s.relations s'.relations place := ⟨by decide, by decide⟩
  obtain ⟨hentries, hfields⟩ :=
    @sameFields_of_keepsRepeats s.classes s.relations s'.relations place hkeeps
  exact ⟨hkeeps, hentries, hfields "i", by decide⟩

end CrudScaffold

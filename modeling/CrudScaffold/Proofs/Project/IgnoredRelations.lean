import CrudScaffold.Proofs.Project.Footprint

/-!
# Relations that are passed over

A relation gives fields to nobody if one of its ends is not a class, or if it is not an association.
Such a relation is still counted when repeated relations are numbered, and nevertheless leaves no
trace: whatever repeats it has the same ends and the same kind, and so is passed over with it.
-/

namespace CrudScaffold

open Naming

/-- A relation that gives fields to nobody: one of its ends is not a class, or it is not an
association. -/
def Snapshot.Ignores (s : Snapshot) (r : RelationDef) : Prop :=
  r.sourceId ∉ s.classIds ∨ r.targetId ∉ s.classIds ∨
    (r.kind ≠ .association ∧ r.kind ≠ .associationNtoN)

instance (s : Snapshot) : DecidablePred s.Ignores := fun r =>
  inferInstanceAs (Decidable (r.sourceId ∉ s.classIds ∨ r.targetId ∉ s.classIds ∨
    (r.kind ≠ .association ∧ r.kind ≠ .associationNtoN)))

/-- A diagram without the relations that give fields to nobody. -/
def Snapshot.essential (s : Snapshot) : Snapshot :=
  { s with relations := s.relations.filter fun r => ¬ s.Ignores r }

/-! ### Numbers -/

@[simp] lemma RelationDef.repeats_iff {a b : RelationDef} :
    a.repeats b ↔ a.kind = b.kind ∧ a.sourceId = b.sourceId ∧ a.targetId = b.targetId := by
  simp [repeats, and_assoc]

/-- A relation is passed over with those that it repeats. -/
lemma Snapshot.ignores_congr {s : Snapshot} {a b : RelationDef} (h : a.repeats b) :
    s.Ignores a ↔ s.Ignores b := by
  obtain ⟨hkind, hsource, htarget⟩ := RelationDef.repeats_iff.mp h
  rw [Ignores, Ignores, hkind, hsource, htarget]

/-- Relations from which nothing is made can be left out before numbers are given, if all that
repeats one of them is left out with it. -/
lemma flatMap_numberRepeats_filter {α : Type*} {make : RelationDef × Nat → List α}
    {keep : RelationDef → Bool} (hmake : ∀ r, keep r = false → ∀ n, make (r, n) = [])
    (hkeep : ∀ a b, a.repeats b → keep a = keep b) (earlier relations : List RelationDef) :
    (numberRepeats (earlier.filter keep) (relations.filter keep)).flatMap make =
      (numberRepeats earlier relations).flatMap make := by
  induction relations generalizing earlier with
  | nil => rfl
  | cons r relations ih =>
    rw [numberRepeats, List.flatMap_cons, ← ih]
    cases hr : keep r with
    | true =>
      -- whatever `r` repeats is kept, so `r` has the same number
      have hcount : (earlier.filter keep).countP r.repeats = earlier.countP r.repeats := by
        rw [List.countP_filter]
        refine List.countP_congr fun a _ => ?_
        rw [Bool.and_eq_true]
        exact ⟨And.left, fun ha => ⟨ha, hkeep r a ha ▸ hr⟩⟩
      rw [List.filter_cons_of_pos hr, List.filter_cons_of_pos hr, numberRepeats, List.flatMap_cons,
        hcount]
    | false =>
      have hne : ¬ keep r = true := Bool.eq_false_iff.mp hr
      rw [List.filter_cons_of_neg hne, List.filter_cons_of_neg hne, hmake r hr, List.nil_append]

/-! ### Fields -/

/-- Only associations give fields. -/
lemma Link.fieldsOf_eq_nil {l : Link} (names : ClassNames) (id : String)
    (h : l.relation.kind ≠ .association) (h' : l.relation.kind ≠ .associationNtoN) :
    l.fieldsOf names id = [] := by
  refine List.eq_nil_iff_forall_not_mem.mpr fun f hf => ?_
  obtain ⟨side, -, hfield⟩ := mem_fieldsOf.mp hf
  obtain ⟨-, -, -, -, hkind, -⟩ := field_eq_some hfield
  revert hkind
  cases hk : l.relation.kind with
  | association => exact absurd hk h
  | associationNtoN => exact absurd hk h'
  | _ => cases side <;> rintro ⟨⟩

/-- The fields that a numbered relation gives to a class. -/
def Link.fieldsFrom (names : ClassNames) (id : String) (r : RelationDef × Nat) :
    List RelationshipField :=
  (of? names r).toList.flatMap (fieldsOf names id)

/-- The fields of a class are those that the numbered relations give to it. -/
lemma relationshipFields_eq_flatMap (id : String) (s : Snapshot) (names : ClassNames) :
    relationshipFields id s names =
      (numberRepeats [] s.relations).flatMap (Link.fieldsFrom names id) := by
  rw [relationshipFields, Link.fieldsAmong, Link.all, List.filterMap_eq_flatMap_toList,
    List.flatMap_assoc]
  rfl

namespace Snapshot

/-- A relation that is passed over gives no field. -/
lemma Ignores.fieldsFrom_eq_nil {s : Snapshot} {r : RelationDef} (h : s.Ignores r) (id : String)
    (n : Nat) : Link.fieldsFrom (.ofSnapshot s) id (r, n) = [] := by
  refine List.flatMap_eq_nil_iff.mpr fun l hl => ?_
  obtain ⟨hrelation, hsource, htarget, -⟩ := Link.of?_eq_some_iff.mp (Option.mem_toList.mp hl)
  have hlisted : ∀ {id n}, (ClassNames.ofSnapshot s).typeName? id = some n → id ∈ s.classIds :=
    fun hid => (ClassNames.typeName?_isSome_iff s _).mp (Option.isSome_of_eq_some hid)
  rcases h with h | h | ⟨h, h'⟩
  · exact absurd (hlisted hsource) h
  · exact absurd (hlisted htarget) h
  · exact l.fieldsOf_eq_nil _ id (hrelation ▸ h) (hrelation ▸ h')

/-- Every class has the same fields without the relations that are passed over. -/
lemma relationshipFields_essential (s : Snapshot) (id : String) :
    relationshipFields id s.essential (.ofSnapshot s) =
      relationshipFields id s (.ofSnapshot s) := by
  rw [relationshipFields_eq_flatMap, relationshipFields_eq_flatMap]
  refine flatMap_numberRepeats_filter (fun r hr n => ?_) (fun a b hab => ?_) [] s.relations
  · exact Ignores.fieldsFrom_eq_nil (by simpa using hr) id n
  · rw [decide_eq_decide, ignores_congr hab]

/-! ### Runs -/

/-- Nothing is made from the relations that are passed over. -/
lemma files_essential (s : Snapshot) (config : Config) (name : String) :
    s.essential.files config name = s.files config name := by
  have hnames : ClassNames.ofSnapshot s.essential = ClassNames.ofSnapshot s := rfl
  have hentity : s.essential.entity = s.entity := by
    funext package c n
    rw [entity_eq, entity_eq, hnames, relationshipFields_essential]
  have hentities : s.essential.entities = s.entities := by
    funext package
    rw [entities_eq, entities_eq, hentity]
    rfl
  rw [files, files, project, project, hentities]

/-- A run gives the same result without the relations that are passed over. -/
lemma generate_congr_essential (s : Snapshot) (config : Config) (name : String) :
    generate s.essential config name = generate s config name := by
  rw [generate, generate, files_essential]
  rfl

/-- A relation that is passed over may stand anywhere. -/
lemma essential_insert {s : Snapshot} {r : RelationDef} (h : s.Ignores r)
    (before after : List RelationDef) :
    essential { s with relations := before ++ r :: after } =
      essential { s with relations := before ++ after } := by
  have hignores : ∀ relations, ({ s with relations } : Snapshot).Ignores = s.Ignores :=
    fun _ => rfl
  simp only [essential, hignores, List.filter_append,
    List.filter_cons_of_neg (p := fun r => decide (¬ s.Ignores r)) (by simpa using h)]

end Snapshot

/-- **Relations that are passed over.** A relation between ids of which one is not a class, or one
that is not an association, changes nothing wherever it is put among the relations of a diagram: a
run gives the same result, be it a tree or an error. So a run gives the same result without all of
them. -/
theorem Snapshot.generate_ignored (s : Snapshot) (config : Config) (name : String) :
    (∀ r, s.Ignores r → ∀ before after, s.relations = before ++ after →
      generate { s with relations := before ++ r :: after } config name = generate s config name) ∧
    generate s.essential config name = generate s config name := by
  refine ⟨fun r hr before after hrelations => ?_, s.generate_congr_essential config name⟩
  calc generate { s with relations := before ++ r :: after } config name
      = generate (essential { s with relations := before ++ r :: after }) config name :=
        (generate_congr_essential _ config name).symm
    _ = generate (essential { s with relations := before ++ after }) config name := by
        rw [essential_insert hr]
    _ = generate { s with relations := before ++ after } config name :=
        generate_congr_essential _ config name
    _ = generate s config name := by rw [← hrelations]

/-- A diagram in which an item refers to an order twice. -/
def Snapshot.itemOfTwoOrders : Snapshot where
  classes := [{ id := "i", name := "Item" }, { id := "o", name := "Order" }]
  relations := [⟨"sold", "i", "o", .association, none⟩, ⟨"returned", "i", "o", .association, none⟩]

/-- A reference to a class that is not there and an inheritance between the two references leave the
number of the second one as it is. -/
theorem Snapshot.generate_ignored_itemOfTwoOrders :
    itemOfTwoOrders.Ignores ⟨"lost", "i", "x", .association, none⟩ ∧
    itemOfTwoOrders.Ignores ⟨"kind", "i", "o", .inheritance, none⟩ ∧
    generate { itemOfTwoOrders with relations := [⟨"sold", "i", "o", .association, none⟩,
        ⟨"lost", "i", "x", .association, none⟩, ⟨"returned", "i", "o", .association, none⟩] }
      {} "Shop" = generate itemOfTwoOrders {} "Shop" ∧
    generate { itemOfTwoOrders with relations := [⟨"sold", "i", "o", .association, none⟩,
        ⟨"kind", "i", "o", .inheritance, none⟩, ⟨"returned", "i", "o", .association, none⟩] }
      {} "Shop" = generate itemOfTwoOrders {} "Shop" ∧
    (relationshipFields "i" itemOfTwoOrders (.ofSnapshot itemOfTwoOrders)).map
      RelationshipField.fieldName = ["order", "order2"] := by
  have hlost : itemOfTwoOrders.Ignores ⟨"lost", "i", "x", .association, none⟩ := by decide
  have hkind : itemOfTwoOrders.Ignores ⟨"kind", "i", "o", .inheritance, none⟩ := by decide
  obtain ⟨hinsert, -⟩ := generate_ignored itemOfTwoOrders {} "Shop"
  refine ⟨hlost, hkind, ?_, ?_, by decide +kernel⟩
  · exact hinsert _ hlost [⟨"sold", "i", "o", .association, none⟩]
      [⟨"returned", "i", "o", .association, none⟩] rfl
  · exact hinsert _ hkind [⟨"sold", "i", "o", .association, none⟩]
      [⟨"returned", "i", "o", .association, none⟩] rfl

end CrudScaffold

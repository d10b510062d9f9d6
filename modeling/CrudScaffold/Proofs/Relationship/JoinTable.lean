import CrudScaffold.Proofs.Naming.WordText
import CrudScaffold.Proofs.Relationship.Pairing

/-!
# Join tables

A many-to-many relation keeps its pairs in a join table, and two relations that shared one would mix
their pairs. Without an association class the table is called after the target, the source and, for
a repeated relation, its number, with underscores between them. No name of a class has an
underscore, so the parts can be read off the table again (`Link.NamedByEnds.splitOn_joinTable`).
They tell the relation as long as lower case tells the classes: target and source say what it joins,
and the number which of the relations it is that join the same (`countP_take_lt`).
-/

namespace CrudScaffold

open Naming

/-! ### Numbers and places -/

section Places

variable {α : Type*} {l : List α} {p : α → Bool} {a : α} {i j : Nat}

/-- An element that is counted makes the number grow behind its place. -/
lemma countP_take_lt (hi : l[i]? = some a) (ha : p a) (hij : i < j) :
    (l.take i).countP p < (l.take j).countP p := by
  have hsucc : (l.take (i + 1)).countP p = (l.take i).countP p + 1 := by
    rw [List.take_add_one, hi, Option.toList_some, List.countP_append, List.countP_singleton,
      if_pos ha]
  have hle : (l.take (i + 1)).countP p ≤ (l.take j).countP p :=
    (List.take_sublist_take_left hij).countP_le
  omega

/-- An element that is picked stands behind the earlier ones that are. -/
lemma getElem?_filter_countP (hi : l[i]? = some a) (ha : p a) :
    (l.filter p)[(l.take i).countP p]? = some a := by
  obtain ⟨hlt, hget⟩ := List.getElem?_eq_some_iff.mp hi
  have hsplit : l = l.take i ++ a :: l.drop (i + 1) := by
    rw [← hget, List.getElem_cons_drop, List.take_append_drop]
  conv_lhs => rw [hsplit]
  rw [List.filter_append, List.filter_cons_of_pos ha, List.countP_eq_length_filter, ← hsplit]
  simp

/-- Where a value is found for every element, it is at the place of the element. -/
lemma getElem?_filterMap {β : Type*} {f : α → Option β} (h : ∀ a ∈ l, (f a).isSome) :
    (l.filterMap f)[i]? = l[i]?.bind f := by
  induction l generalizing i with
  | nil => rfl
  | cons a l ih =>
    obtain ⟨ha, hl⟩ := List.forall_mem_cons.mp h
    obtain ⟨b, hb⟩ := Option.isSome_iff_exists.mp ha
    rw [List.filterMap_cons_some hb]
    cases i with
    | zero => simp [hb]
    | succ i => exact ih hl

end Places

/-! ### The name of a table -/

namespace Link

variable {names : ClassNames} {l : Link}

/-- What a join table is called after: target, source and the number of a repeated relation. -/
def tableParts (l : Link) : List (List Char) :=
  (Text.lowercase l.targetType).toList :: (Text.lowercase l.sourceType).toList ::
    if l.suffix.isEmpty then [] else [l.suffix.toList]

/-- The name of a join table consists of its parts with underscores between them. -/
lemma toList_joinTable (h : l.relation.associationClassId = none) :
    (l.joinTable names).toList = List.intercalate ['_'] l.tableParts := by
  rw [joinTable, associationTable, h, tableParts]
  by_cases hsuffix : l.suffix.isEmpty <;> simp [hsuffix, List.intercalate_cons_cons]

/-- A link without an association class, between classes with names of letters and digits. -/
structure NamedByEnds (l : Link) : Prop where
  associationClassId : l.relation.associationClassId = none
  targetType : IsWordText l.targetType
  sourceType : IsWordText l.sourceType
  suffix : IsWordText l.suffix

/-- The links of a diagram are between such classes. -/
lemma namedByEnds {s : Snapshot} {r : RelationDef} {n : Nat} (hr : r.associationClassId = none)
    (hl : of? (.ofSnapshot s) (r, n) = some l) : l.NamedByEnds := by
  obtain ⟨hrelation, hsource, htarget, hsuffix⟩ := of?_eq_some_iff.mp hl
  constructor
  · rw [hrelation, hr]
  · exact (ClassNames.isName_of_typeName? htarget).isWordText
  · exact (ClassNames.isName_of_typeName? hsource).isWordText
  · exact hsuffix ▸ isWordText_repeatSuffix n

/-- The parts can be read off the name of the table. -/
lemma NamedByEnds.splitOn_joinTable (h : l.NamedByEnds) :
    (l.joinTable names).toList.splitOn '_' = l.tableParts := by
  rw [toList_joinTable h.associationClassId]
  refine List.splitOn_intercalate '_' (fun part hpart => ?_) (List.cons_ne_nil _ _)
  unfold tableParts at hpart
  rcases List.mem_cons.mp hpart with rfl | hpart
  · exact h.targetType.lowercase.notMem '_' rfl
  rcases List.mem_cons.mp hpart with rfl | hpart
  · exact h.sourceType.lowercase.notMem '_' rfl
  split_ifs at hpart
  · exact absurd hpart List.not_mem_nil
  · rw [List.mem_singleton.mp hpart]
    exact h.suffix.notMem '_' rfl

/-- Links with one table have the same target and source in lower case, and the same suffix. -/
lemma NamedByEnds.joinTable_inj {l' : Link} (h : l.NamedByEnds) (h' : l'.NamedByEnds)
    (htable : l.joinTable names = l'.joinTable names) :
    Text.lowercase l.targetType = Text.lowercase l'.targetType ∧
      Text.lowercase l.sourceType = Text.lowercase l'.sourceType ∧ l.suffix = l'.suffix := by
  have hparts : l.tableParts = l'.tableParts := by
    rw [← @splitOn_joinTable names l h, htable, h'.splitOn_joinTable]
  unfold tableParts at hparts
  obtain ⟨htarget, hrest⟩ := List.cons.inj hparts
  obtain ⟨hsource, hsuffix⟩ := List.cons.inj hrest
  refine ⟨String.toList_injective htarget, String.toList_injective hsource, ?_⟩
  split_ifs at hsuffix with hl hl' hl'
  · rw [String.isEmpty_iff.mp hl, String.isEmpty_iff.mp hl']
  · exact String.toList_injective (List.cons.inj hsuffix).1

/-- The owning end of a many-to-many link has the join table. -/
lemma exists_owningField_set (h : l.relation.kind = .associationNtoN) :
    ∃ f, l.owningField names = some f ∧ f.joinName = l.joinTable names := by
  unfold owningField
  rw [h]
  exact ⟨_, rfl, rfl⟩

end Link

/-! ### Tables of a diagram -/

/-- A relation is many-to-many and joins two classes of the diagram. -/
def Snapshot.JoinsSets (s : Snapshot) (r : RelationDef) : Prop :=
  r.kind = .associationNtoN ∧ r.sourceId ∈ s.classIds ∧ r.targetId ∈ s.classIds

/-- The type name of a class, all letters small. -/
def Snapshot.smallName? (s : Snapshot) (id : String) : Option (List Char) :=
  ((ClassNames.ofSnapshot s).typeName? id).map fun name => name.toList.map Char.toLower

/-- Classes with different ids have type names that differ in more than the case of letters. -/
def Snapshot.NamesApart (s : Snapshot) : Prop :=
  ∀ a ∈ s.classIds, ∀ b ∈ s.classIds, a ≠ b → s.smallName? a ≠ s.smallName? b

/-- Ids whose classes have the same name in lower case are the same. -/
lemma Snapshot.NamesApart.eq_of_lowercase {s : Snapshot} (h : s.NamesApart) {a b A B : String}
    (ha : (ClassNames.ofSnapshot s).typeName? a = some A)
    (hb : (ClassNames.ofSnapshot s).typeName? b = some B)
    (hsmall : Text.lowercase A = Text.lowercase B) : a = b := by
  have hid : ∀ {id n}, (ClassNames.ofSnapshot s).typeName? id = some n → id ∈ s.classIds :=
    fun hn => (ClassNames.typeName?_isSome_iff s _).mp (by rw [hn]; rfl)
  have hword : ∀ {id n}, (ClassNames.ofSnapshot s).typeName? id = some n →
      s.smallName? id = some (Text.lowercase n).toList := by
    intro id n hn
    rw [smallName?, hn, (ClassNames.isName_of_typeName? hn).isWordText.toList_lowercase,
      Option.map_some]
  by_contra hab
  apply h a (hid ha) b (hid hb) hab
  rw [hword ha, hword hb, hsmall]

/-- The owning field of the many-to-many relation at a place of the diagram: among the fields that
lead from its source to its target it stands behind those of the earlier relations that it
repeats. -/
def RelationshipIndex.owningSet? (index : RelationshipIndex) (s : Snapshot) (i : Nat) :
    Option RelationshipField :=
  s.relations[i]?.bind fun r =>
    (index.fieldsBetween .manyToMany .owning r.sourceId r.targetId)[
      (s.relations.take i).countP r.repeats]?

namespace RelationshipIndex

variable {s : Snapshot} {i : Nat} {r : RelationDef}

/-- The owning field of a many-to-many relation names the join table of its link. -/
lemma owningSet?_build (hi : s.relations[i]? = some r) (hr : s.JoinsSets r) :
    ∃ l f, Link.of? (.ofSnapshot s) (r, (s.relations.take i).countP r.repeats) = some l ∧
      (build s (.ofSnapshot s)).owningSet? s i = some f ∧
      f.joinName = l.joinTable (.ofSnapshot s) := by
  obtain ⟨hkind, hsource, htarget⟩ := hr
  obtain ⟨S, hS⟩ :=
    Option.isSome_iff_exists.mp ((ClassNames.typeName?_isSome_iff s _).mpr hsource)
  obtain ⟨T, hT⟩ :=
    Option.isSome_iff_exists.mp ((ClassNames.typeName?_isSome_iff s _).mpr htarget)
  have hjoins : r.joins .associationNtoN r.sourceId r.targetId := decide_eq_true ⟨hkind, rfl, rfl⟩
  obtain ⟨n, hn⟩ : ∃ n, n = (s.relations.take i).countP r.repeats := ⟨_, rfl⟩
  obtain ⟨f, hf, hjoin⟩ :=
    @Link.exists_owningField_set (.ofSnapshot s) ⟨r, S, T, repeatSuffix n⟩ hkind
  rw [owningSet?, hi, Option.bind_some, ← hn]
  refine ⟨⟨r, S, T, repeatSuffix n⟩, f, Link.of?_eq_some_iff.mpr ⟨rfl, hS, hT, rfl⟩, ?_, hjoin⟩
  -- the links between the two classes are numbered, and the one at its number is that of `r`
  have hlink : (Link.between .associationNtoN r.sourceId r.targetId
      (Link.all s (.ofSnapshot s)))[n]? = some ⟨r, S, T, repeatSuffix n⟩ := by
    rw [Link.all, Link.between_filterMap hS hT, filter_numberRepeats, List.countP_nil,
      List.getElem?_map, List.getElem?_zipIdx, hn, RelationDef.repeats_eq_joins hjoins,
      getElem?_filter_countP hi hjoins, Nat.zero_add]
    rfl
  have howning : RelationKind.associationNtoN.fieldKind? .owning = some .manyToMany := rfl
  have hfields := @fieldsBetween_build s .associationNtoN .owning .manyToMany howning
    r.sourceId r.targetId
  change fieldsBetween _ _ _ r.sourceId r.targetId = _ at hfields
  rw [hfields, getElem?_filterMap fun l hl => isSome_owning_of_mem_between howning hl _, hlink]
  exact hf

end RelationshipIndex

/-- **Join tables are not shared.** Where the names of classes can be told apart in lower case and
no many-to-many relation asks for an association class, any two many-to-many relations of a diagram
have owning fields with different join tables, be they relations of a class with itself, relations
in the two directions between two classes, or repeated ones. -/
theorem RelationshipIndex.joinName_ne {s : Snapshot} (hnames : s.NamesApart)
    (hplain : ∀ r ∈ s.relations, r.kind = .associationNtoN → r.associationClassId = none)
    {i j : Nat} (hij : i ≠ j) {r r' : RelationDef} (hi : s.relations[i]? = some r)
    (hj : s.relations[j]? = some r') (hr : s.JoinsSets r) (hr' : s.JoinsSets r') :
    let index := build s (.ofSnapshot s)
    ∃ f g, index.owningSet? s i = some f ∧ index.owningSet? s j = some g ∧
      f.joinName ≠ g.joinName := by
  intro index
  obtain ⟨l, f, hl, hf, hfjoin⟩ := owningSet?_build hi hr
  obtain ⟨l', g, hl', hg, hgjoin⟩ := owningSet?_build hj hr'
  refine ⟨f, g, hf, hg, fun hjoin => ?_⟩
  rw [hfjoin, hgjoin] at hjoin
  have hends := Link.namedByEnds (hplain r (List.mem_of_getElem? hi) hr.1) hl
  have hends' := Link.namedByEnds (hplain r' (List.mem_of_getElem? hj) hr'.1) hl'
  obtain ⟨htarget, hsource, hsuffix⟩ := hends.joinTable_inj hends' hjoin
  obtain ⟨-, hS, hT, hn⟩ := Link.of?_eq_some_iff.mp hl
  obtain ⟨-, hS', hT', hn'⟩ := Link.of?_eq_some_iff.mp hl'
  -- the table tells what is joined, and so the two relations repeat each other
  have hjoins : r.joins .associationNtoN r.sourceId r.targetId := decide_eq_true ⟨hr.1, rfl, rfl⟩
  have hjoins' : r'.joins .associationNtoN r.sourceId r.targetId :=
    decide_eq_true ⟨hr'.1, (hnames.eq_of_lowercase hS hS' hsource).symm,
      (hnames.eq_of_lowercase hT hT' htarget).symm⟩
  -- but the later one of them has the greater number
  have hcount := repeatSuffix_injective ((hn.symm.trans hsuffix).trans hn')
  rw [RelationDef.repeats_eq_joins hjoins, RelationDef.repeats_eq_joins hjoins'] at hcount
  rcases Nat.lt_or_gt_of_ne hij with hlt | hlt
  · exact absurd hcount (Nat.ne_of_lt (countP_take_lt hi hjoins hlt))
  · exact absurd hcount (Nat.ne_of_gt (countP_take_lt hj hjoins' hlt))

/-- Items and tags with a set of each other, items with a second set of tags, and tags with a set of
tags; the class `Tag_2` is called so to see whether it comes into the way of the second set. -/
def Snapshot.taggedItems : Snapshot where
  classes := [{ id := "i", name := "Item" }, { id := "t", name := "Tag" },
    { id := "x", name := "Tag_2" }]
  relations :=
    [⟨"r1", "i", "t", .associationNtoN, none⟩, ⟨"r2", "t", "i", .associationNtoN, none⟩,
      ⟨"r3", "i", "t", .associationNtoN, none⟩, ⟨"r4", "t", "t", .associationNtoN, none⟩,
      ⟨"r5", "i", "x", .associationNtoN, none⟩]

/-- The two sets of tags that an item has are kept in two tables. -/
theorem RelationshipIndex.joinName_ne_taggedItems :
    let s := Snapshot.taggedItems
    let index := build s (.ofSnapshot s)
    s.NamesApart ∧
      (∀ r ∈ s.relations, r.kind = .associationNtoN → r.associationClassId = none) ∧
      s.JoinsSets ⟨"r1", "i", "t", .associationNtoN, none⟩ ∧
      s.JoinsSets ⟨"r3", "i", "t", .associationNtoN, none⟩ ∧
      (index.owningSet? s 0).map RelationshipField.joinName = some "tag_item" ∧
      (index.owningSet? s 2).map RelationshipField.joinName = some "tag_item_2" ∧
      ∃ f g, index.owningSet? s 0 = some f ∧ index.owningSet? s 2 = some g ∧
        f.joinName ≠ g.joinName := by
  intro s index
  have hnames : s.NamesApart := by
    unfold Snapshot.NamesApart
    decide +kernel
  have hplain : ∀ r ∈ s.relations, r.kind = .associationNtoN → r.associationClassId = none := by
    decide
  have hfirst : s.JoinsSets ⟨"r1", "i", "t", .associationNtoN, none⟩ :=
    ⟨rfl, by decide, by decide⟩
  have hsecond : s.JoinsSets ⟨"r3", "i", "t", .associationNtoN, none⟩ :=
    ⟨rfl, by decide, by decide⟩
  exact ⟨hnames, hplain, hfirst, hsecond, by decide +kernel, by decide +kernel,
    joinName_ne hnames hplain (by decide) rfl rfl hfirst hsecond⟩

end CrudScaffold

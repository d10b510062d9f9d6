import Std.Data.String.ToNat
import CrudScaffold.Proofs.Relationship.Index

/-!
# Pairing of relationship fields

A relation of the diagram shows up twice, as the owning field of its source and as the inverse field
of its target. The two are found in the lists of two classes, each in the order of the relations,
and nothing but their names connects them. Here the connection is made: between any two classes the
owning fields of the one and the inverse fields of the other stand side by side, one pair for each
relation.

Both lists are read off the same list, `Link.between`, the links of one kind from one class to
another. What tells the fields of one list apart is the number of the link, and these numbers are
`0, 1, 2, …` because a relation counts exactly the earlier ones from the same class to the same
class (`map_snd_filter_numberRepeats`).
-/

namespace CrudScaffold

open Naming

/-! ### Numbers of repeated relations -/

/-- A relation of one kind from one class to another. -/
def RelationDef.joins (kind : RelationKind) (a b : String) (r : RelationDef) : Bool :=
  r.kind = kind ∧ r.sourceId = a ∧ r.targetId = b

/-- The relations of one kind from one class to another. -/
def Snapshot.relationsBetween (s : Snapshot) (kind : RelationKind) (a b : String) :
    List RelationDef :=
  s.relations.filter (·.joins kind a b)

section Numbering

variable {kind : RelationKind} {a b : String}

/-- A relation repeats exactly those that join the same classes in the same way. -/
lemma RelationDef.repeats_eq_joins {r : RelationDef} (h : r.joins kind a b) :
    r.repeats = RelationDef.joins kind a b := by
  obtain ⟨rfl, rfl, rfl⟩ := of_decide_eq_true h
  funext x
  simp [repeats, joins, Bool.beq_eq_decide_eq, Bool.and_assoc, eq_comm]

/-- The relations of one kind from one class to another are numbered one after the other. -/
lemma filter_numberRepeats (kind : RelationKind) (a b : String) (earlier rs : List RelationDef) :
    ((numberRepeats earlier rs).filter fun r => r.1.joins kind a b) =
      (rs.filter (·.joins kind a b)).zipIdx (earlier.countP (·.joins kind a b)) := by
  induction rs generalizing earlier with
  | nil => rfl
  | cons r rs ih =>
    rw [numberRepeats]
    by_cases h : r.joins kind a b
    · rw [List.filter_cons_of_pos (by exact h), List.filter_cons_of_pos (by exact h),
        List.zipIdx_cons, ih, List.countP_cons_of_pos h, RelationDef.repeats_eq_joins h]
    · rw [List.filter_cons_of_neg (by exact h), List.filter_cons_of_neg (by exact h), ih,
        List.countP_cons_of_neg h]

/-- Their numbers have no gaps. -/
lemma map_snd_filter_numberRepeats (kind : RelationKind) (a b : String)
    (earlier rs : List RelationDef) :
    ((numberRepeats earlier rs).filter fun r => r.1.joins kind a b).map Prod.snd =
      List.range' (earlier.countP (·.joins kind a b)) (rs.countP (·.joins kind a b)) := by
  rw [filter_numberRepeats, List.zipIdx_map_snd, ← List.countP_eq_length_filter]

/-- Different numbers leave different marks in a name. -/
lemma repeatSuffix_injective : Function.Injective repeatSuffix := by
  intro m n h
  unfold repeatSuffix at h
  split_ifs at h with hm hn hn
  · omega
  · exact absurd h.symm Nat.repr_ne_empty
  · exact absurd h Nat.repr_ne_empty
  · have := Nat.repr_injective h
    omega

end Numbering

/-! ### Links between two classes -/

namespace Link

/-- The links of one kind from one class to another. -/
def between (kind : RelationKind) (a b : String) (links : List Link) : List Link :=
  links.filter fun l => l.relation.joins kind a b

variable {names : ClassNames} {kind : RelationKind} {a b S T : String}

/-- A link between two classes is one of theirs. -/
lemma between_cons_of_pos {l : Link} {links : List Link} (h : l.relation.joins kind a b) :
    between kind a b (l :: links) = l :: between kind a b links :=
  List.filter_cons_of_pos (by exact h)

/-- Any other link is passed over. -/
lemma between_cons_of_neg {l : Link} {links : List Link} (h : ¬ l.relation.joins kind a b) :
    between kind a b (l :: links) = between kind a b links :=
  List.filter_cons_of_neg (by exact h)

/-- Between two known classes every relation is a link. -/
lemma between_filterMap (hS : names.typeName? a = some S) (hT : names.typeName? b = some T)
    (rs : List (RelationDef × Nat)) :
    between kind a b (rs.filterMap (of? names)) =
      (rs.filter fun r => r.1.joins kind a b).map fun r => ⟨r.1, S, T, repeatSuffix r.2⟩ := by
  induction rs with
  | nil => rfl
  | cons r rs ih =>
    by_cases h : r.1.joins kind a b
    · obtain ⟨-, ha, hb⟩ := of_decide_eq_true h
      have hr : of? names r = some ⟨r.1, S, T, repeatSuffix r.2⟩ :=
        of?_eq_some_iff.mpr ⟨rfl, ha ▸ hS, hb ▸ hT, rfl⟩
      rw [List.filterMap_cons_some hr, between_cons_of_pos h, ih,
        List.filter_cons_of_pos (by exact h), List.map_cons]
    · rw [List.filter_cons_of_neg (by exact h), ← ih]
      cases hr : of? names r with
      | none => rw [List.filterMap_cons_none hr]
      | some l =>
        have hl : ¬ l.relation.joins kind a b := (of?_eq_some_iff.mp hr).1 ▸ h
        rw [List.filterMap_cons_some hr, between_cons_of_neg hl]

/-- The links between two classes carry the marks of the numbers from zero on, one for each
relation. -/
lemma map_suffix_between (s : Snapshot) (kind : RelationKind) (hS : names.typeName? a = some S)
    (hT : names.typeName? b = some T) :
    (between kind a b (all s names)).map suffix =
      (List.range (s.relationsBetween kind a b).length).map repeatSuffix := by
  rw [all, between_filterMap hS hT, List.map_map, Snapshot.relationsBetween,
    ← List.countP_eq_length_filter, List.range_eq_range']
  have h := map_snd_filter_numberRepeats kind a b [] s.relations
  rw [List.countP_nil] at h
  rw [← h, List.map_map]
  rfl

/-- What is known of a link between two classes. -/
lemma of_mem_between {links : List Link} {l : Link} (h : l ∈ between kind a b links) :
    l.relation.kind = kind ∧ l.relation.sourceId = a ∧ l.relation.targetId = b :=
  of_decide_eq_true (List.mem_filter.mp h).2

end Link

/-! ### Fields between two classes -/

/-- A field of one kind and side that leads to one class. -/
def RelationshipField.leadsTo (kind : RelationshipKind) (side : Side) (b : String)
    (f : RelationshipField) : Bool :=
  f.kind = kind ∧ f.side = side ∧ f.relatedClassId = b

/-- Of a source and a target the one at this end. -/
def Side.of (a b : String) : Side → String
  | .owning => a
  | .inverse => b

/-- The fields of one kind and side that a class has because of another one. -/
def RelationshipIndex.fieldsBetween (index : RelationshipIndex) (kind : RelationshipKind)
    (side : Side) (a b : String) : List RelationshipField :=
  (index.fieldsFor a).filter (·.leadsTo kind side b)

namespace Link

/-- If one link at a time gives one end to a class or none, so do all links. -/
lemma filter_fieldsAmong {p : RelationshipField → Bool} {id : String}
    {pick : Link → Option RelationshipField}
    (h : ∀ l : Link, (l.fieldsOf names id).filter p =
      if l.relation.joins kind a b then (pick l).toList else []) (links : List Link) :
    (fieldsAmong names links id).filter p = (between kind a b links).filterMap pick := by
  induction links with
  | nil => rfl
  | cons l links ih =>
    rw [fieldsAmong, List.flatMap_cons, List.filter_append, h, ← fieldsAmong, ih]
    by_cases hl : l.relation.joins kind a b
    · rw [if_pos hl, between_cons_of_pos hl]
      cases hp : pick l with
      | none => rw [List.filterMap_cons_none hp]; rfl
      | some f => rw [List.filterMap_cons_some hp]; rfl
    · rw [if_neg hl, between_cons_of_neg hl, List.nil_append]

/-- Among the fields that a link gives to a class at one end only that of the wanted side counts. -/
lemma filter_fieldAt {side : Side} {r : RelationshipKind} (hr : kind.fieldKind? side = some r)
    (id other : String) (l : Link) (side' : Side) :
    (l.fieldAt names id side').filter (·.leadsTo r side other) =
      if side' = side ∧ l.relation.kind = kind ∧ l.relation.endId side = id ∧
        l.relation.endId side.opposite = other then (l.field names side).toList else [] := by
  cases hf : l.field names side' with
  | none =>
    by_cases hs : side' = side
    · subst hs
      simp [fieldAt, hf]
    · simp [fieldAt, hf, hs]
  | some f =>
    obtain ⟨hside, -, hrel, -, hk, -⟩ := field_eq_some hf
    have hp : f.leadsTo r side other ↔
        side' = side ∧ l.relation.kind = kind ∧ l.relation.endId side.opposite = other := by
      simp only [RelationshipField.leadsTo, hside, hrel, decide_eq_true_eq]
      constructor
      · rintro ⟨rfl, rfl, ho⟩
        exact ⟨rfl, RelationKind.fieldKind?_inj hk hr, ho⟩
      · rintro ⟨rfl, rfl, ho⟩
        exact ⟨Option.some.inj (hk.symm.trans hr), rfl, ho⟩
    by_cases hs : side' = side
    · subst hs
      by_cases hid : l.relation.endId side' = id <;> by_cases hl : f.leadsTo r side' other <;>
        simp_all [fieldAt]
    · by_cases hid : l.relation.endId side' = id <;> simp_all [fieldAt]

/-- Of the fields of the class at one end a link gives the one that leads to the other end. -/
lemma filter_fieldsOf {side : Side} {r : RelationshipKind} (hr : kind.fieldKind? side = some r)
    (id other : String) (l : Link) :
    (l.fieldsOf names id).filter (·.leadsTo r side other) =
      if l.relation.kind = kind ∧ l.relation.endId side = id ∧
        l.relation.endId side.opposite = other then (l.field names side).toList else [] := by
  rw [fieldsOf_eq, List.filter_append, filter_fieldAt hr, filter_fieldAt hr]
  cases side <;> simp

/-- The fields of the class at one end of the links between two classes that lead to the class at
the other end. -/
lemma filter_fieldsAmong_between {side : Side} {r : RelationshipKind}
    (hr : kind.fieldKind? side = some r) (a b : String) (links : List Link) :
    (fieldsAmong names links (side.of a b)).filter (·.leadsTo r side (side.opposite.of a b)) =
      (between kind a b links).filterMap (·.field names side) := by
  refine filter_fieldsAmong (fun l => ?_) links
  rw [filter_fieldsOf hr]
  refine if_congr ?_ rfl rfl
  cases side <;> simp [RelationDef.joins, RelationDef.endId, Side.opposite, Side.of, and_comm]

/-- The names of fields that come from the links between two classes differ in the marks of the
links only. -/
lemma map_fieldName_filterMap {pick : Link → Option RelationshipField} (base : String)
    {links : List Link}
    (h : ∀ l ∈ links, ∃ f, pick l = some f ∧ f.fieldName = base ++ l.suffix) :
    (links.filterMap pick).map RelationshipField.fieldName =
      (links.map suffix).map (base ++ ·) := by
  induction links with
  | nil => rfl
  | cons l links ih =>
    obtain ⟨f, hf, hn⟩ := h l (by simp)
    rw [List.filterMap_cons_some hf, List.map_cons, List.map_cons, List.map_cons, hn,
      ih fun l' hl' => h l' (List.mem_cons_of_mem l hl')]

end Link

/-! ### Pairs -/

/-- An inverse field refers to the field that owns the mapping, and both name the same column or
table. -/
def RelationshipField.Mirrors (inverse owning : RelationshipField) : Prop :=
  inverse.mappedBy = some owning.fieldName ∧ inverse.joinName = owning.joinName

/-- Owning and inverse fields stand side by side, `n` of each, and no name is there twice on
either side. -/
structure RelationshipField.Paired (n : Nat) (owning inverse : List RelationshipField) : Prop where
  owning_length : owning.length = n
  inverse_length : inverse.length = n
  mirrors : List.Forall₂ (fun o i => i.Mirrors o) owning inverse
  owning_names : (owning.map RelationshipField.fieldName).Nodup
  inverse_names : (inverse.map RelationshipField.fieldName).Nodup

namespace RelationshipIndex

variable {s : Snapshot} {kind : RelationKind} {a b : String}

/-- The fields of the index that lead from one class to another are ends of the links between
them. -/
lemma fieldsBetween_build {side : Side} {r : RelationshipKind} (hr : kind.fieldKind? side = some r)
    (a b : String) :
    (build s (.ofSnapshot s)).fieldsBetween r side (side.of a b) (side.opposite.of a b) =
      (Link.between kind a b (Link.all s (.ofSnapshot s))).filterMap
        (·.field (.ofSnapshot s) side) := by
  rw [fieldsBetween, fieldsFor_build]
  exact Link.filter_fieldsAmong_between hr a b _

/-- The fields that lead from one class to another are called after the second and numbered, one for
each relation, if every link has the end. -/
lemma map_fieldName_fieldsBetween {side : Side} {r : RelationshipKind}
    (hr : kind.fieldKind? side = some r) (ha : a ∈ s.classIds) (hb : b ∈ s.classIds)
    (hsome : ∀ l ∈ Link.between kind a b (Link.all s (.ofSnapshot s)),
      (l.field (.ofSnapshot s) side).isSome) :
    ∃ base : String,
      ((build s (.ofSnapshot s)).fieldsBetween r side (side.of a b) (side.opposite.of a b)).map
          RelationshipField.fieldName =
        ((List.range (s.relationsBetween kind a b).length).map repeatSuffix).map (base ++ ·) := by
  obtain ⟨S, hS⟩ := Option.isSome_iff_exists.mp ((ClassNames.typeName?_isSome_iff s a).mpr ha)
  obtain ⟨T, hT⟩ := Option.isSome_iff_exists.mp ((ClassNames.typeName?_isSome_iff s b).mpr hb)
  refine ⟨lowerFirst (side.opposite.of S T) ++ r.ending, ?_⟩
  rw [fieldsBetween_build hr, ← Link.map_suffix_between s kind hS hT]
  refine Link.map_fieldName_filterMap _ fun l hl => ?_
  obtain ⟨f, hf⟩ := Option.isSome_iff_exists.mp (hsome l hl)
  obtain ⟨-, -, -, htype, hk, hname⟩ := Link.field_eq_some hf
  obtain ⟨hkind, hsource, htarget⟩ := Link.of_mem_between hl
  have hof : (ClassNames.ofSnapshot s).typeName? (l.relation.endId side.opposite) =
      some (side.opposite.of S T) := by
    cases side with
    | owning => exact (congrArg _ htarget).trans hT
    | inverse => exact (congrArg _ hsource).trans hS
  have hend : l.endType side.opposite = side.opposite.of S T :=
    Option.some.inj ((Link.typeName?_endId (List.mem_filter.mp hl).1 _).symm.trans hof)
  rw [hkind, hr] at hk
  exact ⟨f, hf, by rw [hname, htype, hend, ← Option.some.inj hk]⟩

/-- There are as many fields that lead from one class to another as relations between them. -/
lemma length_fieldsBetween {side : Side} {r : RelationshipKind}
    (hr : kind.fieldKind? side = some r) (ha : a ∈ s.classIds) (hb : b ∈ s.classIds)
    (hsome : ∀ l ∈ Link.between kind a b (Link.all s (.ofSnapshot s)),
      (l.field (.ofSnapshot s) side).isSome) :
    ((build s (.ofSnapshot s)).fieldsBetween r side (side.of a b) (side.opposite.of a b)).length =
      (s.relationsBetween kind a b).length := by
  obtain ⟨base, hnames⟩ := map_fieldName_fieldsBetween hr ha hb hsome
  have := congrArg List.length hnames
  rwa [List.length_map, List.length_map, List.length_map, List.length_range] at this

/-- No two fields that lead from one class to another share a name. -/
lemma nodup_fieldsBetween {side : Side} {r : RelationshipKind}
    (hr : kind.fieldKind? side = some r) (ha : a ∈ s.classIds) (hb : b ∈ s.classIds)
    (hsome : ∀ l ∈ Link.between kind a b (Link.all s (.ofSnapshot s)),
      (l.field (.ofSnapshot s) side).isSome) :
    (((build s (.ofSnapshot s)).fieldsBetween r side (side.of a b) (side.opposite.of a b)).map
      RelationshipField.fieldName).Nodup := by
  obtain ⟨base, hnames⟩ := map_fieldName_fieldsBetween hr ha hb hsome
  rw [hnames]
  refine List.Nodup.map (fun x y h => (String.append_right_inj base).mp h) ?_
  exact List.Nodup.map repeatSuffix_injective List.nodup_range

/-- Every link between two classes has its owning end. -/
lemma isSome_owning_of_mem_between {l : Link} {links : List Link} {r : RelationshipKind}
    (ho : kind.fieldKind? .owning = some r) (hl : l ∈ Link.between kind a b links)
    (names : ClassNames) : (l.field names .owning).isSome :=
  Link.isSome_owningField (by rw [(Link.of_mem_between hl).1, ho]; rfl)

/-- Every link between two classes has its inverse end, unless it is many-to-many and leads from a
class to itself. -/
lemma isSome_inverse_of_mem_between {l : Link} {links : List Link} {r : RelationshipKind}
    (hi : kind.fieldKind? .inverse = some r) (hself : kind = .associationNtoN → a ≠ b)
    (hl : l ∈ Link.between kind a b links) (names : ClassNames) :
    (l.field names .inverse).isSome := by
  obtain ⟨hk, hsource, htarget⟩ := Link.of_mem_between hl
  exact Link.isSome_inverseField (by rw [hk, hi]; rfl) (by rw [hk, hsource, htarget]; exact hself)

/-- Between two classes of a diagram the two ends of each relation of a kind make a pair, if the
relation has both. -/
lemma paired {ro ri : RelationshipKind} (ho : kind.fieldKind? .owning = some ro)
    (hi : kind.fieldKind? .inverse = some ri) (ha : a ∈ s.classIds) (hb : b ∈ s.classIds)
    (hself : kind = .associationNtoN → a ≠ b) :
    RelationshipField.Paired (s.relationsBetween kind a b).length
      ((build s (.ofSnapshot s)).fieldsBetween ro .owning a b)
      ((build s (.ofSnapshot s)).fieldsBetween ri .inverse b a) where
  owning_length :=
    length_fieldsBetween ho ha hb fun _ hl => isSome_owning_of_mem_between ho hl _
  inverse_length :=
    length_fieldsBetween hi ha hb fun _ hl => isSome_inverse_of_mem_between hi hself hl _
  mirrors := by
    have hends : ∀ l ∈ Link.between kind a b (Link.all s (.ofSnapshot s)), ∃ f g,
        l.field (.ofSnapshot s) .owning = some f ∧ l.field (.ofSnapshot s) .inverse = some g ∧
          g.Mirrors f := by
      intro l hl
      obtain ⟨g, hg⟩ := Option.isSome_iff_exists.mp
        (isSome_inverse_of_mem_between hi hself hl (.ofSnapshot s))
      obtain ⟨f, hf, hm, hj⟩ := Link.exists_owningField hg
      exact ⟨f, g, hf, hg, hm, hj⟩
    have hpairs := forall₂_filterMap hends
    rwa [← fieldsBetween_build ho, ← fieldsBetween_build hi] at hpairs
  owning_names :=
    nodup_fieldsBetween ho ha hb fun _ hl => isSome_owning_of_mem_between ho hl _
  inverse_names :=
    nodup_fieldsBetween hi ha hb fun _ hl => isSome_inverse_of_mem_between hi hself hl _

/-- Many-to-many relations of a class with itself leave no inverse field. -/
lemma fieldsBetween_self_eq_nil (s : Snapshot) (a : String) :
    (build s (.ofSnapshot s)).fieldsBetween .manyToMany .inverse a a = [] := by
  have hkind : RelationKind.associationNtoN.fieldKind? .inverse = some .manyToMany := rfl
  refine (fieldsBetween_build hkind a a).trans (List.filterMap_eq_nil_iff.mpr fun l hl => ?_)
  obtain ⟨hk, hsource, htarget⟩ := Link.of_mem_between hl
  exact Link.inverseField_eq_none hk (hsource.trans htarget.symm)

/-- What an index holds belongs to the class it is listed under, leads to a class, and is an owning
or an inverse end of an association or the like of a many-to-many relation. -/
lemma of_mem_fieldsFor {id : String} {f : RelationshipField}
    (hf : f ∈ (build s (.ofSnapshot s)).fieldsFor id) :
    f.ownerClassId = id ∧ f.relatedClassId ∈ s.classIds ∧
      (f.kind = .manyToOne ∧ f.side = .owning ∨ f.kind = .oneToMany ∧ f.side = .inverse ∨
        f.kind = .manyToMany) := by
  rw [fieldsFor_build] at hf
  obtain ⟨l, hl, hlf⟩ := mem_relationshipFields.mp hf
  obtain ⟨side, rfl, hfield⟩ := Link.mem_fieldsOf.mp hlf
  obtain ⟨hside, howner, hrel, -, hk, -⟩ := Link.field_eq_some hfield
  refine ⟨howner, ?_, ?_⟩
  · rw [hrel, ← ClassNames.typeName?_isSome_iff, Link.typeName?_endId hl]
    rfl
  · rw [hside]
    cases side <;> cases hkind : l.relation.kind <;> simp_all [RelationKind.fieldKind?]

end RelationshipIndex

/-- **Pairing and conservation.** Between any two classes of a diagram, which may be the same, there
is for every association one field at its source and one at its target, and likewise for every
many-to-many relation, but that such a relation of a class with itself has the owning field only.
The two fields of one relation stand at the same place in their lists, the inverse one refers to the
owning one by its name, and both name the same column or table. There are no other fields, and the
fields of a class are listed once. -/
theorem RelationshipIndex.fields_paired (s : Snapshot) :
    let index := build s (.ofSnapshot s)
    (∀ a ∈ s.classIds, ∀ b ∈ s.classIds,
      RelationshipField.Paired (s.relationsBetween .association a b).length
        (index.fieldsBetween .manyToOne .owning a b)
        (index.fieldsBetween .oneToMany .inverse b a)) ∧
    (∀ a ∈ s.classIds, ∀ b ∈ s.classIds, a ≠ b →
      RelationshipField.Paired (s.relationsBetween .associationNtoN a b).length
        (index.fieldsBetween .manyToMany .owning a b)
        (index.fieldsBetween .manyToMany .inverse b a)) ∧
    (∀ a ∈ s.classIds,
      (index.fieldsBetween .manyToMany .owning a a).length =
          (s.relationsBetween .associationNtoN a a).length ∧
        index.fieldsBetween .manyToMany .inverse a a = []) ∧
    (index.entries.map Prod.fst).Nodup ∧
    ∀ e ∈ index.entries, e.1 ∈ s.classIds ∧ e.2 = index.fieldsFor e.1 ∧
      ∀ f ∈ e.2, f.ownerClassId = e.1 ∧ f.relatedClassId ∈ s.classIds ∧
        (f.kind = .manyToOne ∧ f.side = .owning ∨ f.kind = .oneToMany ∧ f.side = .inverse ∨
          f.kind = .manyToMany) := by
  intro index
  refine ⟨?_, ?_, ?_, nodup_ids_build s _, ?_⟩
  · intro a ha b hb
    exact paired rfl rfl ha hb (by simp)
  · intro a ha b hb hab
    exact paired rfl rfl ha hb fun _ => hab
  · intro a ha
    refine ⟨?_, fieldsBetween_self_eq_nil s a⟩
    have hkind : RelationKind.associationNtoN.fieldKind? .owning = some .manyToMany := rfl
    exact length_fieldsBetween hkind ha ha fun _ hl => isSome_owning_of_mem_between hkind hl _
  · intro e he
    obtain ⟨hid, hfields⟩ := mem_entries_build he
    exact ⟨hid, hfields, fun f hf => of_mem_fieldsFor (hfields ▸ hf)⟩

/-- A diagram with repeated relations, relations of a class with itself, one that leads nowhere, and
two classes with one id. -/
def Snapshot.repeatedRelations : Snapshot where
  classes := [{ id := "i", name := "Item" }, { id := "o", name := "Order" },
    { id := "t", name := "Tag" }, { id := "o", name := "Orders" }]
  relations :=
    [⟨"r1", "i", "o", .association, none⟩, ⟨"r2", "i", "t", .associationNtoN, none⟩,
      ⟨"r3", "i", "ghost", .association, none⟩, ⟨"r4", "i", "o", .association, none⟩,
      ⟨"r5", "o", "o", .association, none⟩, ⟨"r6", "t", "t", .associationNtoN, none⟩]

/-- The pairs of a diagram with repeated relations: two references from items to orders, one from
orders to orders, and one set that tags have of tags. -/
theorem RelationshipIndex.fields_paired_repeatedRelations :
    let s := Snapshot.repeatedRelations
    let index := build s (.ofSnapshot s)
    ("i" ∈ s.classIds ∧ "o" ∈ s.classIds ∧ "t" ∈ s.classIds ∧ "i" ≠ "t") ∧
    RelationshipField.Paired 2 (index.fieldsBetween .manyToOne .owning "i" "o")
      (index.fieldsBetween .oneToMany .inverse "o" "i") ∧
    RelationshipField.Paired 1 (index.fieldsBetween .manyToOne .owning "o" "o")
      (index.fieldsBetween .oneToMany .inverse "o" "o") ∧
    RelationshipField.Paired 1 (index.fieldsBetween .manyToMany .owning "i" "t")
      (index.fieldsBetween .manyToMany .inverse "t" "i") ∧
    (index.fieldsBetween .manyToMany .owning "t" "t").length = 1 ∧
    index.fieldsBetween .manyToMany .inverse "t" "t" = [] ∧
    index.entries.map Prod.fst = ["i", "o", "t"] ∧
    ∀ e ∈ index.entries, e.1 ∈ s.classIds := by
  intro s index
  have hi : "i" ∈ s.classIds := by decide
  have ho : "o" ∈ s.classIds := by decide
  have ht : "t" ∈ s.classIds := by decide
  obtain ⟨hone, hmany, hself, -, hentries⟩ := fields_paired s
  exact ⟨⟨hi, ho, ht, by decide⟩, hone "i" hi "o" ho, hone "o" ho "o" ho,
    hmany "i" hi "t" ht (by decide), (hself "t" ht).1, (hself "t" ht).2, by decide,
    fun e he => (hentries e he).1⟩

end CrudScaffold

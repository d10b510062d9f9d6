import CrudScaffold.Proofs.Entity.Basic

/-!
# Attributes and key of an entity

Which attributes of a class its entity keeps is settled by names alone: those that have a usable
name which no attribute before them has. Which of them is the key is settled in three steps. The
first flagged attribute is the key if it is kept. If it is not, or if none is flagged, the kept
attribute called `id` takes its place, and without one a key is added under that name.

A flagged attribute with a usable name can get lost in this way, because an attribute before it,
flagged or not, has the name already. `Entity.primaryKey_eq_flagged_iff` says when this happens and
what the key is then.
-/

namespace CrudScaffold

open Naming

/-! ### Attributes that are kept -/

/-- The attribute of an entity that an attribute of a class becomes. -/
def AttributeDef.attribute (d : AttributeDef) (isKey : Bool) : Attribute where
  fieldName := fieldName d.name
  java := .ofTag d.typeTag
  isPrimaryKey := isKey
  isRequired := d.isRequired
  maxLength := d.maxLength

/-- An attribute is carried over from one of a class, whether or not it is the key. -/
def Attribute.Carries (a : Attribute) (d : AttributeDef) : Prop :=
  a.fieldName = Naming.fieldName d.name ∧ a.java = .ofTag d.typeTag ∧ a.isRequired = d.isRequired ∧
    a.maxLength = d.maxLength

/-- The attributes of a class that have a usable name which no attribute before them has. -/
def ClassDef.newlyNamed (c : ClassDef) : List AttributeDef :=
  (c.attributes.zipIdx.filter fun (d, i) =>
    fieldName d.name ≠ "" ∧ ∀ d' ∈ c.attributes.take i, fieldName d'.name ≠ fieldName d.name).map
      Prod.fst

section Survey

variable {seen : List String} {flagged : Bool} {defs : List AttributeDef} {d : AttributeDef}

/-- An attribute that is kept is carried over, and it is the key if it is flagged and none before
it is. -/
lemma surveyed_cons_of_new (hname : fieldName d.name ≠ "") (hnew : fieldName d.name ∉ seen) :
    surveyed seen flagged (d :: defs) = d.attribute (d.isPrimaryKey && !flagged) ::
      surveyed (fieldName d.name :: seen) (flagged || d.isPrimaryKey) defs := by
  have hkept : ¬ ((fieldName d.name).isEmpty ∨ fieldName d.name ∈ seen) := by
    rintro (hempty | hseen)
    · exact hname (String.isEmpty_iff.mp hempty)
    · exact hnew hseen
  rw [surveyed_cons, if_neg hkept]
  rfl

/-- An attribute that is dropped leaves nothing but its flag. -/
lemma surveyed_cons_of_old (h : fieldName d.name = "" ∨ fieldName d.name ∈ seen) :
    surveyed seen flagged (d :: defs) = surveyed seen (flagged || d.isPrimaryKey) defs := by
  rw [surveyed_cons, if_pos (h.imp_left String.isEmpty_iff.mpr)]

/-- The survey keeps the attributes with new names. What has been surveyed before counts as far as
it has names. -/
lemma forall₂_surveyed (before : List AttributeDef)
    (hseen : ∀ m, m ≠ "" → (m ∈ seen ↔ m ∈ before.map fun d => fieldName d.name)) :
    List.Forall₂ Attribute.Carries (surveyed seen flagged defs)
      (((defs.zipIdx before.length).filter fun (d, i) =>
        fieldName d.name ≠ "" ∧
          ∀ d' ∈ (before ++ defs).take i, fieldName d'.name ≠ fieldName d.name).map Prod.fst) := by
  induction defs generalizing seen flagged before with
  | nil => exact .nil
  | cons d defs ih =>
    have hlength : (before ++ [d]).length = before.length + 1 := by simp
    have happend : before ++ d :: defs = (before ++ [d]) ++ defs := by simp
    have hbefore : (before ++ d :: defs).take before.length = before := List.take_left
    by_cases hkept : fieldName d.name ≠ "" ∧ fieldName d.name ∉ seen
    · obtain ⟨hname, hnew⟩ := hkept
      have htest : fieldName d.name ≠ "" ∧
          ∀ d' ∈ (before ++ d :: defs).take before.length,
            fieldName d'.name ≠ fieldName d.name := by
        refine ⟨hname, fun d' hd' he => ?_⟩
        rw [hbefore] at hd'
        exact hnew ((hseen _ hname).mpr (he ▸ List.mem_map_of_mem hd'))
      rw [surveyed_cons_of_new hname hnew, List.zipIdx_cons,
        List.filter_cons_of_pos (by exact decide_eq_true htest), List.map_cons, ← hlength, happend]
      refine .cons ⟨rfl, rfl, rfl, rfl⟩ (ih _ fun m hm => ?_)
      rw [List.mem_cons, hseen m hm, List.map_append, List.mem_append, List.map_singleton,
        List.mem_singleton]
      exact or_comm
    · have hold : fieldName d.name = "" ∨ fieldName d.name ∈ seen := by
        by_cases hname : fieldName d.name = ""
        · exact .inl hname
        · exact .inr (not_not.mp fun hnew => hkept ⟨hname, hnew⟩)
      have htest : ¬ (fieldName d.name ≠ "" ∧
          ∀ d' ∈ (before ++ d :: defs).take before.length,
            fieldName d'.name ≠ fieldName d.name) := by
        rintro ⟨hname, hnone⟩
        rw [hbefore] at hnone
        obtain ⟨d', hd', he⟩ := List.mem_map.mp ((hseen _ hname).mp (hold.resolve_left hname))
        exact hnone d' hd' he
      rw [surveyed_cons_of_old hold, List.zipIdx_cons,
        List.filter_cons_of_neg (by exact fun h => htest (of_decide_eq_true h)), ← hlength, happend]
      refine ih _ fun m hm => ?_
      rw [hseen m hm, List.map_append, List.mem_append, List.map_singleton, List.mem_singleton]
      refine ⟨.inl, ?_⟩
      rintro (hmem | rfl)
      · exact hmem
      · exact (hseen _ hm).mp (hold.resolve_left hm)

/-- Kept attributes have names. -/
lemma fieldName_ne_empty_of_mem_surveyed {a : Attribute} (h : a ∈ surveyed seen flagged defs) :
    a.fieldName ≠ "" := by
  obtain ⟨d, -, -, -, -, -, hname, -, rfl⟩ := surveyed_cases h
  exact hname

/-- The attribute that is kept under a name has the type of the first one that is given it. -/
lemma map_java_find?_surveyed {m : String} (hm : m ≠ "") (hnew : m ∉ seen) :
    ((surveyed seen flagged defs).find? fun a => a.fieldName = m).map Attribute.java =
      (defs.find? fun d => fieldName d.name = m).map fun d => .ofTag d.typeTag := by
  induction defs generalizing seen flagged with
  | nil => rfl
  | cons d defs ih =>
    by_cases hd : fieldName d.name = m
    · subst hd
      rw [surveyed_cons_of_new hm hnew, List.find?_cons_of_pos (by exact decide_eq_true rfl),
        List.find?_cons_of_pos (by exact decide_eq_true rfl)]
      rfl
    · rw [List.find?_cons_of_neg (by simpa using hd)]
      by_cases hold : fieldName d.name = "" ∨ fieldName d.name ∈ seen
      · rw [surveyed_cons_of_old hold]
        exact ih hnew
      · obtain ⟨hname, hnotMem⟩ := not_or.mp hold
        rw [surveyed_cons_of_new hname hnotMem,
          List.find?_cons_of_neg (by exact fun h => hd (of_decide_eq_true h))]
        exact ih fun hmem => (List.mem_cons.mp hmem).elim (Ne.symm hd) hnew

/-! ### Flagged attributes -/

/-- Behind a flagged attribute none is the key. -/
lemma not_isPrimaryKey_of_mem_surveyed {a : Attribute} (h : a ∈ surveyed seen true defs) :
    ¬ a.isPrimaryKey := by
  obtain ⟨d, -, -, flagged', -, hflagged, -, -, rfl⟩ := surveyed_cases h
  simp [hflagged rfl]

/-- At most one attribute that is kept is the key. -/
lemma countP_isPrimaryKey_surveyed (seen : List String) (flagged : Bool)
    (defs : List AttributeDef) :
    (surveyed seen flagged defs).countP Attribute.isPrimaryKey ≤ 1 := by
  have hnone : ∀ seen defs, (surveyed seen true defs).countP Attribute.isPrimaryKey = 0 :=
    fun seen defs => List.countP_eq_zero.mpr fun _ => not_isPrimaryKey_of_mem_surveyed
  induction defs generalizing seen flagged with
  | nil => exact Nat.zero_le 1
  | cons d defs ih =>
    rw [surveyed_cons]
    split_ifs with hold
    · exact ih _ _
    · cases hkey : d.isPrimaryKey && !flagged with
      | false =>
        rw [List.countP_cons_of_neg Bool.false_ne_true]
        exact ih _ _
      | true =>
        have hflagged : (flagged || d.isPrimaryKey) = true := by
          rw [(Bool.and_eq_true_iff.mp hkey).1, Bool.or_true]
        rw [List.countP_cons_of_pos (by rfl), hflagged]
        exact Nat.succ_le_succ (Nat.le_of_eq (hnone _ _))

/-- The flagged attribute is kept as the key exactly if it is the first of its name. -/
lemma find?_isPrimaryKey_surveyed (hfirst : defs.find? AttributeDef.isPrimaryKey = some d)
    (hname : fieldName d.name ≠ "") :
    (surveyed seen false defs).find? Attribute.isPrimaryKey =
      if fieldName d.name ∉ seen ∧
          (defs.find? fun b => fieldName b.name = fieldName d.name) = some d
        then some (d.attribute true) else none := by
  have hnone : ∀ seen defs, (surveyed seen true defs).find? Attribute.isPrimaryKey = none :=
    fun seen defs => List.find?_eq_none.mpr fun _ => not_isPrimaryKey_of_mem_surveyed
  induction defs generalizing seen with
  | nil => cases hfirst
  | cons b defs ih =>
    cases hb : b.isPrimaryKey with
    | true =>
      rw [List.find?_cons_of_pos hb] at hfirst
      obtain rfl := Option.some.inj hfirst
      rw [List.find?_cons_of_pos (by exact decide_eq_true rfl)]
      by_cases hseen : fieldName b.name ∈ seen
      · rw [surveyed_cons_of_old (.inr hseen), hb, Bool.false_or, hnone,
          if_neg fun h => h.1 hseen]
      · rw [surveyed_cons_of_new hname hseen, hb, Bool.not_false, Bool.and_true,
          List.find?_cons_of_pos rfl, if_pos ⟨hseen, rfl⟩]
    | false =>
      rw [List.find?_cons_of_neg (by rw [hb]; exact Bool.false_ne_true)] at hfirst
      have hbd : b ≠ d := by
        rintro rfl
        rw [List.find?_some hfirst] at hb
        cases hb
      by_cases hold : fieldName b.name = "" ∨ fieldName b.name ∈ seen
      · rw [surveyed_cons_of_old hold, hb, Bool.or_false, ih hfirst]
        refine if_congr (and_congr_right fun hseen => ?_) rfl rfl
        -- a name that is dropped is not that of the flagged attribute
        have hne : fieldName b.name ≠ fieldName d.name := by
          intro he
          rcases hold with hempty | hmem
          · exact hname (he ▸ hempty)
          · exact hseen (he ▸ hmem)
        rw [List.find?_cons_of_neg (by simpa using hne)]
      · obtain ⟨hbname, hbseen⟩ := not_or.mp hold
        rw [surveyed_cons_of_new hbname hbseen, hb, Bool.or_false, Bool.false_and,
          List.find?_cons_of_neg Bool.false_ne_true, ih hfirst]
        refine if_congr ?_ rfl rfl
        by_cases he : fieldName b.name = fieldName d.name
        · rw [List.find?_cons_of_pos (by simpa using he)]
          constructor
          · rintro ⟨hseen, -⟩
            exact absurd (List.mem_cons.mpr (.inl he.symm)) hseen
          · rintro ⟨-, hsome⟩
            exact absurd (Option.some.inj hsome) hbd
        · rw [List.find?_cons_of_neg (by simpa using he), List.mem_cons,
            or_iff_right (Ne.symm he)]

end Survey

/-! ### The choice of a key -/

section Key

variable {attributes : List Attribute}

/-- If no attribute is the key, the promotion makes the first one called `id` the key, and no
other. -/
lemma filter_isPrimaryKey_promoteId (h : ∀ a ∈ attributes, ¬ a.isPrimaryKey) :
    (promoteId attributes).filter Attribute.isPrimaryKey =
      ((attributes.find? fun a => a.fieldName = surrogateField).map
        fun a => { a with isPrimaryKey := true }).toList := by
  induction attributes with
  | nil => rfl
  | cons a attributes ih =>
    obtain ⟨ha, hrest⟩ := List.forall_mem_cons.mp h
    rw [promoteId]
    split_ifs with hid
    · have hnone : attributes.filter Attribute.isPrimaryKey = [] := List.filter_eq_nil_iff.mpr hrest
      rw [List.filter_cons_of_pos (by rfl), hnone, List.find?_cons_of_pos (by simpa using hid)]
      rfl
    · rw [List.filter_cons_of_neg ha, ih hrest, List.find?_cons_of_neg (by simpa using hid)]

/-- The attributes that are the key after the choice: those that were it before, and without one
the first attribute called `id`. -/
lemma filter_isPrimaryKey_chooseKey (attributes : List Attribute) :
    (chooseKey attributes).filter Attribute.isPrimaryKey =
      if attributes.any Attribute.isPrimaryKey then attributes.filter Attribute.isPrimaryKey
      else ((attributes.find? fun a => a.fieldName = surrogateField).map
        fun a => { a with isPrimaryKey := true }).toList := by
  cases hany : attributes.any Attribute.isPrimaryKey with
  | true =>
    rw [chooseKey, needsPromotion, hany]
    rfl
  | false =>
    have hnone : ∀ a ∈ attributes, ¬ a.isPrimaryKey := List.any_eq_false.mp hany
    rw [chooseKey, needsPromotion, hany, Bool.not_false, Bool.true_and,
      if_neg Bool.false_ne_true]
    split_ifs with hid
    · exact filter_isPrimaryKey_promoteId hnone
    · have hfind : (attributes.find? fun a => a.fieldName = surrogateField) = none := by
        rw [List.find?_eq_none]
        intro a ha hname
        exact hid (List.any_eq_true.mpr ⟨a, ha, beq_iff_eq.mpr (of_decide_eq_true hname)⟩)
      rw [hfind, List.filter_eq_nil_iff.mpr hnone]
      rfl

/-- The choice leaves at most one key if there was at most one before. -/
lemma countP_isPrimaryKey_chooseKey (h : attributes.countP Attribute.isPrimaryKey ≤ 1) :
    (chooseKey attributes).countP Attribute.isPrimaryKey ≤ 1 := by
  rw [List.countP_eq_length_filter, filter_isPrimaryKey_chooseKey]
  split_ifs
  · rwa [← List.countP_eq_length_filter]
  · cases attributes.find? fun a => a.fieldName = surrogateField with
    | none => exact Nat.zero_le 1
    | some a => exact Nat.le_refl 1

/-- The key after the choice: the attribute that was it before, without one the first attribute
called `id`, and without that one too a key of its own. -/
lemma keyOf_chooseKey (attributes : List Attribute) :
    keyOf (chooseKey attributes) =
      match attributes.find? Attribute.isPrimaryKey with
      | some a => ⟨a.fieldName, a.java, false⟩
      | none =>
        match attributes.find? fun a => a.fieldName = surrogateField with
        | some a => ⟨surrogateField, a.java, false⟩
        | none => ⟨surrogateField, .surrogateKey, true⟩ := by
  have hhead : (chooseKey attributes).find? Attribute.isPrimaryKey =
      if attributes.any Attribute.isPrimaryKey then attributes.find? Attribute.isPrimaryKey
      else (attributes.find? fun a => a.fieldName = surrogateField).map
        fun a => { a with isPrimaryKey := true } := by
    rw [← List.head?_filter, filter_isPrimaryKey_chooseKey]
    split_ifs
    · exact List.head?_filter
    · exact Option.head?_toList
  rw [keyOf]
  change (match (chooseKey attributes).find? Attribute.isPrimaryKey with
    | some a => _
    | none => _) = _
  rw [hhead]
  cases hkey : attributes.find? Attribute.isPrimaryKey with
  | some a =>
    have hany : attributes.any Attribute.isPrimaryKey :=
      List.any_eq_true.mpr ⟨a, List.mem_of_find?_eq_some hkey, List.find?_some hkey⟩
    rw [if_pos hany]
  | none =>
    have hany : attributes.any Attribute.isPrimaryKey = false :=
      List.any_eq_false.mpr (List.find?_eq_none.mp hkey)
    rw [hany, if_neg Bool.false_ne_true]
    cases hid : attributes.find? fun a => a.fieldName = surrogateField with
    | none => rfl
    | some a =>
      have hname : a.fieldName = surrogateField := by simpa using List.find?_some hid
      rw [← hname]
      rfl

end Key

/-! ### Entities of classes -/

namespace Entity

variable {c : ClassDef} {n : String} {fields : List RelationshipField} {package : String}

/-- The choice of a key does not change what an attribute is carried over from. -/
lemma forall₂_promoteId {attributes : List Attribute} {defs : List AttributeDef}
    (h : List.Forall₂ Attribute.Carries attributes defs) :
    List.Forall₂ Attribute.Carries (promoteId attributes) defs := by
  induction h with
  | nil => exact .nil
  | cons hcarries hrest ih =>
    rw [promoteId]
    split_ifs
    · exact .cons hcarries hrest
    · exact .cons hcarries ih

/-- The attributes of an entity are carried over from those of its class that have new names. -/
lemma forall₂_attributes_ofClass :
    List.Forall₂ Attribute.Carries (ofClass c n fields package).attributes c.newlyNamed := by
  have hkept : List.Forall₂ Attribute.Carries (keptAttributes c) c.newlyNamed := by
    rw [keptAttributes_eq]
    exact forall₂_surveyed [] fun m _ => ⟨fun h => absurd h List.not_mem_nil,
      fun h => absurd h List.not_mem_nil⟩
  change List.Forall₂ Attribute.Carries (chooseKey (keptAttributes c)) c.newlyNamed
  rw [chooseKey]
  split_ifs
  · exact forall₂_promoteId hkept
  · exact hkept

/-- The attributes of an entity have names. -/
lemma fieldName_ne_empty_of_mem_attributes {a : Attribute}
    (ha : a ∈ (ofClass c n fields package).attributes) : a.fieldName ≠ "" := by
  have hname : a.fieldName ∈ (keptAttributes c).map Attribute.fieldName := by
    rw [← map_fieldName_ofClass]
    exact List.mem_map_of_mem ha
  obtain ⟨b, hb, hab⟩ := List.mem_map.mp hname
  exact hab ▸ fieldName_ne_empty_of_mem_surveyed (keptAttributes_eq c ▸ hb)

/-- At most one attribute of an entity is the key. -/
lemma countP_isPrimaryKey_ofClass :
    (ofClass c n fields package).attributes.countP Attribute.isPrimaryKey ≤ 1 :=
  countP_isPrimaryKey_chooseKey (countP_isPrimaryKey_surveyed [] false c.attributes)

/-- Of several attributes that are the key all are the same. -/
lemma eq_of_isPrimaryKey {attributes : List Attribute} {a b : Attribute}
    (h : attributes.countP Attribute.isPrimaryKey ≤ 1) (ha : a ∈ attributes) (hb : b ∈ attributes)
    (hkeyA : a.isPrimaryKey) (hkeyB : b.isPrimaryKey) : a = b := by
  rw [List.countP_eq_length_filter] at h
  have hmemA : a ∈ attributes.filter Attribute.isPrimaryKey := List.mem_filter.mpr ⟨ha, hkeyA⟩
  have hmemB : b ∈ attributes.filter Attribute.isPrimaryKey := List.mem_filter.mpr ⟨hb, hkeyB⟩
  match hfilter : attributes.filter Attribute.isPrimaryKey with
  | [] => exact absurd (hfilter ▸ hmemA) List.not_mem_nil
  | [k] =>
    rw [hfilter] at hmemA hmemB
    rw [List.mem_singleton.mp hmemA, List.mem_singleton.mp hmemB]
  | _ :: _ :: _ =>
    rw [hfilter] at h
    simp at h

/-- **What an entity is made of.** The attributes of the entity of a class are, in order, those of
the class that have a usable name which no attribute before them has, each with its own type and
rules. Their names are not empty and all different. At most one of them is the key, and exactly if
one is, the key of the entity is not an added one; it is that attribute then. An added key is called
`id` like no attribute, and it is a `Long`. -/
theorem ofClass_invariants (c : ClassDef) (n : String) (fields : List RelationshipField)
    (package : String) :
    let e := ofClass c n fields package
    List.Forall₂ Attribute.Carries e.attributes c.newlyNamed ∧
      (∀ a ∈ e.attributes, a.fieldName ≠ "") ∧
      (e.attributes.map Attribute.fieldName).Nodup ∧
      e.attributes.countP Attribute.isPrimaryKey ≤ 1 ∧
      (e.primaryKey.synthesized = false ↔ e.attributes.countP Attribute.isPrimaryKey = 1) ∧
      (∀ a ∈ e.attributes, a.isPrimaryKey → e.primaryKey = ⟨a.fieldName, a.java, false⟩) ∧
      (e.primaryKey.synthesized = true → "id" ∉ e.attributes.map Attribute.fieldName ∧
        e.primaryKey = ⟨"id", ⟨"Long", none, .integer⟩, true⟩) := by
  intro e
  have hcount : e.attributes.countP Attribute.isPrimaryKey ≤ 1 := countP_isPrimaryKey_ofClass
  refine ⟨forall₂_attributes_ofClass, fun a ha => fieldName_ne_empty_of_mem_attributes ha,
    nodup_fieldName_ofClass, hcount, ?_⟩
  rcases keyOf_cases e.attributes with ⟨a, ha, hkey, heq⟩ | ⟨hnone, heq⟩
  · have hone : e.attributes.countP Attribute.isPrimaryKey = 1 :=
      Nat.le_antisymm hcount (List.countP_pos_iff.mpr ⟨a, ha, hkey⟩)
    have heq' : e.primaryKey = ⟨a.fieldName, a.java, false⟩ := heq
    rw [heq']
    refine ⟨iff_of_true rfl hone, fun b hb hkeyB => ?_, fun h => absurd h Bool.false_ne_true⟩
    rw [eq_of_isPrimaryKey hcount ha hb hkey hkeyB]
  · have hzero : e.attributes.countP Attribute.isPrimaryKey = 0 :=
      List.countP_eq_zero.mpr hnone
    have heq' : e.primaryKey = ⟨surrogateField, .surrogateKey, true⟩ := heq
    rw [heq', hzero]
    exact ⟨iff_of_false (Ne.symm Bool.false_ne_true) Nat.zero_ne_one,
      fun b hb hkeyB => absurd hkeyB (hnone b hb),
      fun _ => ⟨surrogateField_notMem_of_forall hnone, rfl⟩⟩

/-! ### The flagged attribute -/

/-- The key of a class whose first flagged attribute has a usable name: that attribute if it is the
first of its name, and what there would be without any flag if it is not. -/
lemma primaryKey_ofClass_of_flagged {d : AttributeDef} (hd : c.primaryKey = some d)
    (hname : fieldName d.name ≠ "") :
    (ofClass c n fields package).primaryKey =
      if (c.attributes.find? fun b => fieldName b.name = fieldName d.name) = some d then
        ⟨fieldName d.name, .ofTag d.typeTag, false⟩
      else
        match c.attributes.find? fun b => fieldName b.name = "id" with
        | some b => ⟨"id", .ofTag b.typeTag, false⟩
        | none => ⟨"id", ⟨"Long", none, .integer⟩, true⟩ := by
  have hid : surrogateField ≠ "" := by decide
  have hjava : ((surveyed [] false c.attributes).find? fun a => a.fieldName = surrogateField).map
        Attribute.java =
      (c.attributes.find? fun b => fieldName b.name = surrogateField).map
        fun b => .ofTag b.typeTag :=
    map_java_find?_surveyed hid List.not_mem_nil
  change keyOf (chooseKey (surveyed [] false c.attributes)) = _
  rw [keyOf_chooseKey, find?_isPrimaryKey_surveyed hd hname]
  by_cases hfirst : (c.attributes.find? fun b => fieldName b.name = fieldName d.name) = some d
  · rw [if_pos hfirst, if_pos ⟨List.not_mem_nil, hfirst⟩]
    rfl
  · rw [if_neg hfirst, if_neg fun h => hfirst h.2]
    cases hkept : (surveyed [] false c.attributes).find? fun a => a.fieldName = surrogateField with
    | none =>
      rw [hkept] at hjava
      have hnone : (c.attributes.find? fun b => fieldName b.name = "id") = none :=
        Option.map_eq_none_iff.mp hjava.symm
      rw [hnone]
      rfl
    | some a =>
      rw [hkept, Option.map_some] at hjava
      obtain ⟨b, hb, htype⟩ := Option.map_eq_some_iff.mp hjava.symm
      have hsome : (c.attributes.find? fun b => fieldName b.name = "id") = some b := hb
      rw [hsome]
      change (⟨surrogateField, a.java, false⟩ : PrimaryKey) = ⟨"id", .ofTag b.typeTag, false⟩
      rw [htype]
      rfl

/-- **When the flagged attribute is the key.** Let the first flagged attribute of a class have a
usable name. It gives the key of the entity its name and its type exactly if it is the first
attribute of its name, or if it is called `id` and the first one called so has the same type. If
another attribute comes first, the flag has no effect: the first attribute called `id` is the key,
or one is added. -/
theorem primaryKey_eq_flagged_iff (c : ClassDef) (n : String) (fields : List RelationshipField)
    (package : String) (d : AttributeDef) (hd : c.primaryKey = some d)
    (hname : fieldName d.name ≠ "") :
    let key := (ofClass c n fields package).primaryKey
    ∃ first, (c.attributes.find? fun b => fieldName b.name = fieldName d.name) = some first ∧
      (key = ⟨fieldName d.name, .ofTag d.typeTag, false⟩ ↔
        first = d ∨ fieldName d.name = "id" ∧
          JavaType.ofTag first.typeTag = .ofTag d.typeTag) ∧
      (first ≠ d → key =
        match c.attributes.find? fun b => fieldName b.name = "id" with
        | some b => ⟨"id", .ofTag b.typeTag, false⟩
        | none => ⟨"id", ⟨"Long", none, .integer⟩, true⟩) := by
  intro key
  have hkey : key = _ := primaryKey_ofClass_of_flagged hd hname
  obtain ⟨first, hfirst⟩ : ∃ first,
      (c.attributes.find? fun b => fieldName b.name = fieldName d.name) = some first := by
    refine Option.isSome_iff_exists.mp (List.find?_isSome.mpr ⟨d, ?_, decide_eq_true rfl⟩)
    exact List.mem_of_find?_eq_some hd
  rw [hfirst] at hkey
  refine ⟨first, hfirst, ?_, fun hne => ?_⟩
  · by_cases he : first = d
    · rw [hkey, if_pos (congrArg some he)]
      exact iff_of_true rfl (.inl he)
    · rw [hkey, if_neg fun h => he (Option.some.inj h), or_iff_right he]
      cases hid : c.attributes.find? fun b => fieldName b.name = "id" with
      | none =>
        refine iff_of_false (fun h => ?_) fun ⟨hisId, _⟩ => ?_
        · exact absurd (congrArg PrimaryKey.synthesized h) Bool.noConfusion
        · rw [← hisId, hfirst] at hid
          cases hid
      | some b =>
        rw [PrimaryKey.mk.injEq]
        constructor
        · rintro ⟨hisId, htype, -⟩
          rw [hisId, hfirst] at hid
          exact ⟨hisId.symm, Option.some.inj hid ▸ htype⟩
        · rintro ⟨hisId, htype⟩
          rw [← hisId, hfirst] at hid
          exact ⟨hisId.symm, Option.some.inj hid ▸ htype, rfl⟩
  · rw [hkey, if_neg fun h => hne (Option.some.inj h)]

/-- A class whose second attribute is flagged, next to one called `id`. -/
def stockItem : ClassDef where
  id := "i"
  name := "Item"
  attributes := [{ name := "label" }, { name := "Sku code", typeTag := .int, isPrimaryKey := true },
    { name := "id", typeTag := .long }, { name := "Label", typeTag := .date }]

/-- The flagged attribute of an item is its key. -/
theorem primaryKey_eq_flagged_iff_stockItem :
    stockItem.primaryKey = some { name := "Sku code", typeTag := .int, isPrimaryKey := true } ∧
    fieldName "Sku code" ≠ "" ∧
    (ofClass stockItem "Item" [] "shop").primaryKey =
      ⟨"skuCode", ⟨"Integer", none, .integer⟩, false⟩ := by
  have hd : stockItem.primaryKey =
      some { name := "Sku code", typeTag := .int, isPrimaryKey := true } := rfl
  have hname : fieldName "Sku code" = "skuCode" := by decide +kernel
  have hne : fieldName "Sku code" ≠ "" := by decide +kernel
  obtain ⟨first, hfirst, hiff, -⟩ :=
    primaryKey_eq_flagged_iff stockItem "Item" [] "shop" _ hd hne
  have hflagged : (stockItem.attributes.find? fun b => fieldName b.name = fieldName "Sku code") =
      some { name := "Sku code", typeTag := .int, isPrimaryKey := true } := by decide +kernel
  have hkey := hiff.mpr (.inl (Option.some.inj (hfirst.symm.trans hflagged)))
  rw [hname] at hkey
  exact ⟨hd, hne, hkey⟩

/-- A class whose flagged attribute has the field name of the attribute before it. -/
def codedTwice : ClassDef where
  id := "i"
  name := "Item"
  attributes := [{ name := "code" }, { name := "Code", typeTag := .int, isPrimaryKey := true }]

/-- Its flag is lost: the flagged attribute is dropped, and the key is added though an attribute is
flagged. -/
theorem flagLost_codedTwice :
    codedTwice.primaryKey = some { name := "Code", typeTag := .int, isPrimaryKey := true } ∧
    fieldName "Code" = "code" ∧
    (ofClass codedTwice "Item" [] "shop").primaryKey =
      ⟨"id", ⟨"Long", none, .integer⟩, true⟩ := by
  decide +kernel

end Entity

end CrudScaffold

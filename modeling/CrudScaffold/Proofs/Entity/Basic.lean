import Mathlib.Data.List.Nodup
import Mathlib.Tactic.Lemma
import Mathlib.Tactic.SplitIfs
import CrudScaffold.Entity.Basic

/-!
# Laws of entities

The attributes of an entity are those that the survey keeps. Each of them comes from an attribute of
the diagram, under a name that no earlier one has; the choice of a key changes nothing but which of
them is the key. The key is an attribute, or else it is added under a name that no attribute has.
-/

namespace CrudScaffold

open Naming

/-! ### The survey -/

section Survey

variable {seen : List String} {flagged : Bool} {defs : List AttributeDef} {a : Attribute}

/-- The attributes that a survey keeps. -/
def surveyed (seen : List String) (flagged : Bool) (defs : List AttributeDef) : List Attribute :=
  (survey seen flagged defs).filterMap Finding.attribute?

/-- The kept attributes of a class are those of its survey. -/
lemma keptAttributes_eq (c : ClassDef) : Entity.keptAttributes c = surveyed [] false c.attributes :=
  rfl

/-- An attribute is kept if it has a name, and a new one. -/
lemma surveyed_cons (d : AttributeDef) :
    surveyed seen flagged (d :: defs) =
      if (fieldName d.name).isEmpty ∨ fieldName d.name ∈ seen then
        surveyed seen (flagged || d.isPrimaryKey) defs
      else
        { fieldName := fieldName d.name, java := .ofTag d.typeTag,
          isPrimaryKey := d.isPrimaryKey && !flagged, isRequired := d.isRequired,
          maxLength := d.maxLength } ::
        surveyed (fieldName d.name :: seen) (flagged || d.isPrimaryKey) defs := by
  rw [surveyed, survey]
  by_cases hempty : (fieldName d.name).isEmpty
  · rw [if_pos hempty, if_pos (.inl hempty)]
    rfl
  · by_cases hseen : fieldName d.name ∈ seen
    · rw [if_neg hempty, if_pos hseen, if_pos (.inr hseen)]
      rfl
    · rw [if_neg hempty, if_neg hseen, if_neg (not_or.mpr ⟨hempty, hseen⟩)]
      rfl

/-- A kept attribute is made of one of the diagram with a name that is new where the survey reaches
it. It is the key if it is flagged and none has been flagged until then. -/
lemma surveyed_cases (h : a ∈ surveyed seen flagged defs) :
    ∃ d ∈ defs, ∃ (seen' : List String) (flagged' : Bool), seen ⊆ seen' ∧ (flagged → flagged') ∧
      fieldName d.name ≠ "" ∧ fieldName d.name ∉ seen' ∧
      a = { fieldName := fieldName d.name, java := .ofTag d.typeTag,
            isPrimaryKey := d.isPrimaryKey && !flagged', isRequired := d.isRequired,
            maxLength := d.maxLength } := by
  induction defs generalizing seen flagged with
  | nil => exact absurd h List.not_mem_nil
  | cons d defs ih =>
    have hflagged : flagged → (flagged || d.isPrimaryKey) := fun h => by rw [h, Bool.true_or]
    rw [surveyed_cons] at h
    split_ifs at h with hskip
    · obtain ⟨d', hd', seen', flagged', hseen, hlater, hrest⟩ := ih h
      exact ⟨d', List.mem_cons_of_mem d hd', seen', flagged', hseen, hlater ∘ hflagged, hrest⟩
    · obtain ⟨hname, hnew⟩ := not_or.mp hskip
      rcases List.mem_cons.mp h with rfl | h
      · exact ⟨d, List.mem_cons_self, seen, flagged, List.Subset.refl _, id,
          mt String.isEmpty_iff.mpr hname, hnew, rfl⟩
      · obtain ⟨d', hd', seen', flagged', hseen, hlater, hrest⟩ := ih h
        exact ⟨d', List.mem_cons_of_mem d hd', seen', flagged',
          List.Subset.trans (List.subset_cons_self _ _) hseen, hlater ∘ hflagged, hrest⟩

/-- A kept attribute comes from one of the diagram. -/
lemma exists_of_mem_surveyed (h : a ∈ surveyed seen flagged defs) :
    ∃ d ∈ defs, a.fieldName = fieldName d.name ∧ a.java = .ofTag d.typeTag ∧
      a.isRequired = d.isRequired ∧ a.maxLength = d.maxLength := by
  obtain ⟨d, hd, -, -, -, -, -, -, rfl⟩ := surveyed_cases h
  exact ⟨d, hd, rfl, rfl, rfl, rfl⟩

/-- No kept attribute has a name that has been seen before. -/
lemma fieldName_notMem_of_mem_surveyed (h : a ∈ surveyed seen flagged defs) :
    a.fieldName ∉ seen := by
  obtain ⟨d, -, seen', -, hseen, -, -, hnew, rfl⟩ := surveyed_cases h
  exact fun hmem => hnew (hseen hmem)

/-- The kept attributes have different names. -/
lemma nodup_fieldName_surveyed (seen : List String) (flagged : Bool) (defs : List AttributeDef) :
    ((surveyed seen flagged defs).map Attribute.fieldName).Nodup := by
  induction defs generalizing seen flagged with
  | nil => exact List.nodup_nil
  | cons d defs ih =>
    rw [surveyed_cons]
    split_ifs with hskip
    · exact ih _ _
    · rw [List.map_cons, List.nodup_cons]
      refine ⟨fun hmem => ?_, ih _ _⟩
      obtain ⟨a, ha, hname⟩ := List.mem_map.mp hmem
      refine fieldName_notMem_of_mem_surveyed ha ?_
      rw [hname]
      exact List.mem_cons_self

end Survey

/-! ### The key -/

section Key

variable {attributes : List Attribute}

/-- What the choice of a key leaves alone is the same for every attribute. -/
lemma map_promoteId {α : Type*} {g : Attribute → α}
    (hg : ∀ a, g { a with isPrimaryKey := true } = g a) (attributes : List Attribute) :
    (promoteId attributes).map g = attributes.map g := by
  induction attributes with
  | nil => rfl
  | cons a attributes ih =>
    rw [promoteId]
    split_ifs
    · rw [List.map_cons, List.map_cons, hg]
    · rw [List.map_cons, List.map_cons, ih]

/-- The choice of a key changes nothing else of an attribute. -/
lemma map_chooseKey {α : Type*} {g : Attribute → α}
    (hg : ∀ a, g { a with isPrimaryKey := true } = g a) (attributes : List Attribute) :
    (chooseKey attributes).map g = attributes.map g := by
  rw [chooseKey]
  split_ifs
  · exact map_promoteId hg attributes
  · rfl

/-- If an attribute is called `id`, the promotion makes one the key. -/
lemma exists_isPrimaryKey_promoteId (h : surrogateField ∈ attributes.map Attribute.fieldName) :
    ∃ a ∈ promoteId attributes, a.isPrimaryKey := by
  induction attributes with
  | nil => exact absurd h List.not_mem_nil
  | cons a attributes ih =>
    rw [promoteId]
    split_ifs with ha
    · exact ⟨_, List.mem_cons_self, rfl⟩
    · rw [List.map_cons, List.mem_cons] at h
      obtain ⟨b, hb, hkey⟩ := ih (h.resolve_left (Ne.symm ha))
      exact ⟨b, List.mem_cons_of_mem a hb, hkey⟩

/-- Where no attribute is the key, none is called `id`. -/
lemma surrogateField_notMem_of_forall (h : ∀ a ∈ chooseKey attributes, ¬ a.isPrimaryKey) :
    surrogateField ∉ (chooseKey attributes).map Attribute.fieldName := by
  intro hid
  rw [map_chooseKey (fun _ => rfl)] at hid
  have hnone : ∀ a ∈ attributes, ¬ a.isPrimaryKey := by
    intro a ha hkey
    have hany : attributes.any (·.isPrimaryKey) := List.any_eq_true.mpr ⟨a, ha, hkey⟩
    refine h a ?_ hkey
    rw [chooseKey, needsPromotion, hany]
    exact ha
  have hneeds : needsPromotion attributes := by
    obtain ⟨a, ha, hname⟩ := List.mem_map.mp hid
    have hany : attributes.any (·.isPrimaryKey) = false := by
      rw [List.any_eq_false]
      exact hnone
    rw [needsPromotion, hany, Bool.not_false, Bool.true_and, List.any_eq_true]
    exact ⟨a, ha, beq_iff_eq.mpr hname⟩
  rw [chooseKey, if_pos hneeds] at h
  obtain ⟨a, ha, hkey⟩ := exists_isPrimaryKey_promoteId hid
  exact h a ha hkey

/-- The key is one of the attributes, or it is added because none of them is the key. -/
lemma keyOf_cases (attributes : List Attribute) :
    (∃ a ∈ attributes, a.isPrimaryKey ∧ keyOf attributes = ⟨a.fieldName, a.java, false⟩) ∨
      ((∀ a ∈ attributes, ¬ a.isPrimaryKey) ∧
        keyOf attributes = ⟨surrogateField, .surrogateKey, true⟩) := by
  unfold keyOf
  cases hfind : attributes.find? (·.isPrimaryKey) with
  | some a => exact .inl ⟨a, List.mem_of_find?_eq_some hfind, List.find?_some hfind, rfl⟩
  | none => exact .inr ⟨fun a ha => by simpa using List.find?_eq_none.mp hfind a ha, rfl⟩

end Key

/-! ### Entities of classes -/

namespace Entity

variable {c : ClassDef} {n : String} {fields : List RelationshipField} {package : String}

@[simp] lemma map_fieldName_ofClass :
    (ofClass c n fields package).attributes.map Attribute.fieldName =
      (keptAttributes c).map Attribute.fieldName :=
  map_chooseKey (fun _ => rfl) _

/-- The attributes of an entity have different names. -/
lemma nodup_fieldName_ofClass :
    ((ofClass c n fields package).attributes.map Attribute.fieldName).Nodup := by
  rw [map_fieldName_ofClass, keptAttributes_eq]
  exact nodup_fieldName_surveyed [] false c.attributes

/-- The type of an attribute of an entity is that of a tag. -/
lemma exists_java_eq_ofTag {a : Attribute} (h : a ∈ (ofClass c n fields package).attributes) :
    ∃ tag, a.java = .ofTag tag := by
  have hjava : a.java ∈ (keptAttributes c).map Attribute.java := by
    rw [← map_chooseKey (fun _ => rfl)]
    exact List.mem_map_of_mem h
  obtain ⟨b, hb, hab⟩ := List.mem_map.mp hjava
  obtain ⟨d, -, -, htag, -, -⟩ := exists_of_mem_surveyed (keptAttributes_eq c ▸ hb)
  exact ⟨d.typeTag, hab ▸ htag⟩

/-- The key of an entity is one of its attributes, or it is added under a name that none has. -/
lemma primaryKey_cases (c : ClassDef) (n : String) (fields : List RelationshipField)
    (package : String) :
    let e := ofClass c n fields package
    (∃ a ∈ e.attributes, a.isPrimaryKey ∧ e.primaryKey = ⟨a.fieldName, a.java, false⟩) ∨
      (surrogateField ∉ e.attributes.map Attribute.fieldName ∧
        e.primaryKey = ⟨surrogateField, .surrogateKey, true⟩) := by
  intro e
  rcases keyOf_cases e.attributes with hkey | ⟨hnone, hkey⟩
  · exact .inl hkey
  · exact .inr ⟨surrogateField_notMem_of_forall hnone, hkey⟩

end Entity

end CrudScaffold

import Mathlib.Tactic.Lemma
import CrudScaffold.Naming.ClassNames

/-!
# Laws of names

Names are made of words, and a word is a run of ASCII letters and digits. `Naming.IsWord` states
this once; the building blocks of names keep it, so that everything that is later put into a path,
a package or a line of source text is known to hold letters and digits only.

Of the names of classes two facts are needed: an id has a name exactly if some class has the id, and
the name is that of a class at its position, which is always a word.
-/

namespace CrudScaffold

namespace Naming

/-! ### Characters of words -/

/-- Letters and digits by their codes. -/
lemma isWordChar_iff {c : Char} :
    isWordChar c ↔ (48 ≤ c.toNat ∧ c.toNat ≤ 57) ∨ (65 ≤ c.toNat ∧ c.toNat ≤ 90) ∨
      (97 ≤ c.toNat ∧ c.toNat ≤ 122) := by
  have hranges : isWordChar c = ((decide (65 ≤ c.val ∧ c.val ≤ 90) ||
      (decide (97 ≤ c.val) && decide (c.val ≤ 122))) ||
      (decide (48 ≤ c.val) && decide (c.val ≤ 57))) := rfl
  rw [hranges]
  simp only [Bool.or_eq_true, Bool.and_eq_true, decide_eq_true_eq, UInt32.le_iff_toNat_le]
  change ((65 ≤ c.toNat ∧ c.toNat ≤ 90 ∨ 97 ≤ c.toNat ∧ c.toNat ≤ 122) ∨
    48 ≤ c.toNat ∧ c.toNat ≤ 57) ↔ _
  omega

/-- A letter or digit stays one in upper case. -/
lemma isWordChar_toUpper {c : Char} (h : isWordChar c) : isWordChar c.toUpper := by
  rw [isWordChar_iff] at h ⊢
  unfold Char.toUpper
  split
  · rename_i hc
    have hlow : 97 ≤ c.toNat := hc.1
    have hhigh : c.toNat ≤ 122 := hc.2
    have hval : (c.val + ('A'.val - 'a'.val)).toNat = c.toNat - 32 := by
      rw [UInt32.toNat_add]
      change (c.toNat + 4294967264) % 4294967296 = c.toNat - 32
      omega
    simp only [Char.toNat, hval] at hlow hhigh ⊢
    omega
  · exact h

/-- A letter or digit is a small letter or a digit in lower case. -/
lemma isLower_or_isDigit_toLower {c : Char} (h : isWordChar c) :
    c.toLower.isLower ∨ c.toLower.isDigit := by
  rw [isWordChar_iff] at h
  have hlower : ∀ d : Char, d.isLower ↔ 97 ≤ d.toNat ∧ d.toNat ≤ 122 := by
    intro d
    unfold Char.isLower
    simp only [Bool.and_eq_true, decide_eq_true_eq, UInt32.le_iff_toNat_le]
    rfl
  have hdigit : ∀ d : Char, d.isDigit ↔ 48 ≤ d.toNat ∧ d.toNat ≤ 57 := by
    intro d
    simp only [Char.isDigit, Bool.and_eq_true, decide_eq_true_eq, UInt32.le_iff_toNat_le]
    rfl
  rw [hlower, hdigit]
  unfold Char.toLower
  split
  · rename_i hc
    have hlow : 65 ≤ c.toNat := hc.1
    have hhigh : c.toNat ≤ 90 := hc.2
    have hval : (c.val + ('a'.val - 'A'.val)).toNat = c.toNat + 32 := by
      rw [UInt32.toNat_add]
      change (c.toNat + 32) % 4294967296 = c.toNat + 32
      omega
    simp only [Char.toNat, hval] at hlow hhigh ⊢
    omega
  · rename_i hc
    have hupper : ¬ (65 ≤ c.toNat ∧ c.toNat ≤ 90) := hc
    omega

/-- Small letters and digits may stand in a word. -/
lemma isWordChar_of_isLower_or_isDigit {c : Char} (h : c.isLower ∨ c.isDigit) : isWordChar c := by
  unfold isWordChar Char.isAlphanum Char.isAlpha
  rw [Bool.or_eq_true, Bool.or_eq_true]
  exact h.imp_left .inr

/-! ### Words -/

/-- A run of letters and digits that is not empty. -/
structure IsWord (w : List Char) : Prop where
  ne_nil : w ≠ []
  chars : ∀ c ∈ w, isWordChar c

/-- A word with a capital first letter is a word. -/
lemma IsWord.capitalize {w : List Char} (h : IsWord w) : IsWord (capitalize w) := by
  cases w with
  | nil => exact absurd rfl h.ne_nil
  | cons c r =>
    refine ⟨by simp [Naming.capitalize], fun d hd => ?_⟩
    rcases List.mem_cons.mp hd with rfl | hr
    · exact isWordChar_toUpper (h.chars c (by simp))
    · exact h.chars d (List.mem_cons_of_mem c hr)

/-- A word of small letters and digits. -/
structure IsSmallWord (w : List Char) : Prop where
  ne_nil : w ≠ []
  chars : ∀ c ∈ w, c.isLower ∨ c.isDigit

/-- A word of small letters and digits is a word. -/
lemma IsSmallWord.isWord {w : List Char} (h : IsSmallWord w) : IsWord w :=
  ⟨h.ne_nil, fun c hc => isWordChar_of_isLower_or_isDigit (h.chars c hc)⟩

/-- A word in lower case consists of small letters and digits. -/
lemma IsWord.lower {w : List Char} (h : IsWord w) : IsSmallWord (w.map Char.toLower) := by
  refine ⟨by simpa using h.ne_nil, fun d hd => ?_⟩
  obtain ⟨c, hc, rfl⟩ := List.mem_map.mp hd
  exact isLower_or_isDigit_toLower (h.chars c hc)

/-- A word with letters and digits behind it is a word. -/
lemma IsWord.append {w r : List Char} (h : IsWord w) (hr : ∀ c ∈ r, isWordChar c) :
    IsWord (w ++ r) := by
  refine ⟨by simp [h.ne_nil], fun c hc => ?_⟩
  rcases List.mem_append.mp hc with hw | hr'
  · exact h.chars c hw
  · exact hr c hr'

/-- Runs are words. The run that is continued has only letters and digits so far. -/
lemma isWord_of_mem_runs {current s w : List Char} (hc : ∀ c ∈ current, isWordChar c)
    (hw : w ∈ runs current s) : IsWord w := by
  induction s generalizing current with
  | nil =>
    unfold runs at hw
    cases current with
    | nil => simp at hw
    | cons c r => exact List.mem_singleton.mp hw ▸ ⟨by simp, hc⟩
  | cons d s ih =>
    unfold runs at hw
    by_cases hd : isWordChar d
    · rw [if_pos hd] at hw
      refine ih (fun c hm => ?_) hw
      rcases List.mem_append.mp hm with hm | hm
      · exact hc c hm
      · exact List.mem_singleton.mp hm ▸ hd
    · rw [if_neg hd] at hw
      cases current with
      | nil => exact ih (List.forall_mem_nil _) hw
      | cons c r =>
        rcases List.mem_cons.mp (by simpa using hw) with rfl | hs
        · exact ⟨by simp, hc⟩
        · exact ih (by simp) hs

/-- The words of a text are words. -/
lemma isWord_of_mem_words {text : String} {w : List Char} (h : w ∈ words text) : IsWord w :=
  isWord_of_mem_runs (by simp) h

/-! ### Names -/

/-- A text that is a word. -/
def IsName (s : String) : Prop := IsWord s.toList

/-- A text that has been put together from words is empty or a word. -/
lemma isName_typeName {text : String} (h : (typeName text).isEmpty = false) :
    IsName (typeName text) := by
  refine ⟨fun hn => ?_, fun c hc => ?_⟩
  · simp [String.toList_eq_nil_iff.mp hn] at h
  · rw [typeName, String.toList_ofList] at hc
    obtain ⟨w, hw, hcw⟩ := List.mem_flatMap.mp hc
    exact (isWord_of_mem_words hw).capitalize.chars c hcw

/-- A name with letters and digits behind it is a name. -/
lemma IsName.append {s t : String} (h : IsName s) (ht : ∀ c ∈ t.toList, isWordChar c) :
    IsName (s ++ t) := by
  rw [IsName, String.toList_append]
  exact IsWord.append h ht

/-- The digits of a number may stand in a name. -/
lemma isWordChar_of_mem_toString {n : Nat} {c : Char} (h : c ∈ (toString n).toList) :
    isWordChar c := by
  rw [Nat.toString_eq_repr, Nat.toList_repr] at h
  have hd := Nat.isDigit_of_mem_toDigits (by decide) (by decide) h
  simp [isWordChar, Char.isAlphanum, hd]

@[simp] lemma isName_entity : IsName "Entity" := ⟨by simp, by simp; decide⟩

end Naming

open Naming

/-- A class is called by a word, whatever the diagram calls it. -/
lemma ClassDef.isName_resolvedName (c : ClassDef) (i : Nat) : IsName (c.resolvedName i) := by
  unfold resolvedName
  by_cases h : (Naming.typeName c.name).isEmpty
  · rw [if_pos h]
    exact IsName.append isName_entity fun c hc => isWordChar_of_mem_toString hc
  · rw [if_neg h]
    exact isName_typeName (by simpa using h)

/-- The ids of the classes of a diagram. -/
def Snapshot.classIds (s : Snapshot) : List String := s.classes.map ClassDef.id

namespace ClassNames

/-- The ids with names are those of the classes, in order. -/
lemma map_fst_entries (s : Snapshot) : (ofSnapshot s).entries.map Prod.fst = s.classIds := by
  apply List.ext_getElem <;> simp [ofSnapshot, Snapshot.classIds]

/-- An id has a name exactly if a class has it. -/
lemma typeName?_isSome_iff (s : Snapshot) (id : String) :
    ((ofSnapshot s).typeName? id).isSome ↔ id ∈ s.classIds := by
  rw [← map_fst_entries, typeName?, List.lookup_isSome_iff, List.mem_map]
  constructor
  · rintro ⟨e, he, hid⟩
    exact ⟨e, List.mem_reverse.mp he, (beq_iff_eq.mp hid).symm⟩
  · rintro ⟨e, he, hid⟩
    exact ⟨e, List.mem_reverse.mpr he, beq_iff_eq.mpr hid.symm⟩

/-- The name of an id is that of the class at some position that has the id. -/
lemma exists_getElem?_of_typeName? {s : Snapshot} {id n : String}
    (h : (ofSnapshot s).typeName? id = some n) :
    ∃ (i : Nat) (c : ClassDef), s.classes[i]? = some c ∧ c.id = id ∧ n = c.resolvedName i := by
  rw [typeName?, List.lookup_eq_some_iff] at h
  obtain ⟨before, after, he, -⟩ := h
  have hm : (id, n) ∈ (ofSnapshot s).entries := by
    rw [← List.mem_reverse, he]
    simp
  obtain ⟨i, hi, hp⟩ := List.mem_mapIdx.mp hm
  obtain ⟨hid, hn⟩ := Prod.mk.inj hp
  exact ⟨i, s.classes[i], List.getElem?_eq_getElem hi, hid, hn.symm⟩

/-- Every name of a class is a word. -/
lemma isName_of_typeName? {s : Snapshot} {id n : String}
    (h : (ofSnapshot s).typeName? id = some n) :
    IsName n := by
  obtain ⟨i, c, -, -, hn⟩ := exists_getElem?_of_typeName? h
  rw [hn]
  exact c.isName_resolvedName i

end ClassNames

end CrudScaffold

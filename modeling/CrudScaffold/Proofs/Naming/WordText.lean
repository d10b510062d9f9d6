import Mathlib.Tactic.SplitIfs
import CrudScaffold.Proofs.Naming
import CrudScaffold.Relationship.Basic

/-!
# Texts of letters and digits

Names of types and fields, of columns and of tables are put together from words, and what they are
put through on the way keeps letters and digits: the first letter is made small or capital, a number
is put behind, or the whole is written in lower case. Lower case of free text is another matter; of
words it is lower case letter by letter, since the rules that look at neighbours are about letters
that words do not have.
-/

namespace CrudScaffold

open Naming

namespace Naming

/-- A text of ASCII letters and digits only. -/
def IsWordText (s : String) : Prop := ∀ c ∈ s.toList, isWordChar c

/-- Whether a text consists of letters and digits can be decided. -/
instance : DecidablePred IsWordText := fun s =>
  List.decidableBAll (fun c => isWordChar c = true) s.toList

/-- Nothing but letters and digits is in a text of letters and digits. -/
lemma IsWordText.notMem {s : String} (h : IsWordText s) (c : Char) (hc : isWordChar c = false) :
    c ∉ s.toList := by
  intro hmem
  rw [h c hmem] at hc
  exact Bool.noConfusion hc

/-- A name is a text of letters and digits. -/
lemma IsName.isWordText {s : String} (h : IsName s) : IsWordText s :=
  h.chars

/-- A name does not begin with a blank. -/
lemma IsName.exists_toList_eq_cons {s : String} (h : IsName s) :
    ∃ c cs, s.toList = c :: cs ∧ c ≠ ' ' := by
  obtain ⟨c, cs, hcs⟩ := List.exists_cons_of_ne_nil h.ne_nil
  refine ⟨c, cs, hcs, ?_⟩
  rintro rfl
  exact h.isWordText.notMem ' ' (by decide) (hcs ▸ List.mem_cons_self)

/-- Type names are texts of letters and digits, the empty one included. -/
lemma isWordText_typeName (text : String) : IsWordText (typeName text) := by
  intro c hc
  rw [typeName, String.toList_ofList] at hc
  obtain ⟨w, hw, hcw⟩ := List.mem_flatMap.mp hc
  exact (isWord_of_mem_words hw).capitalize.chars c hcw

@[simp] lemma isWordText_toString (n : Nat) : IsWordText (toString n) :=
  fun _ hc => isWordChar_of_mem_toString hc

/-- So is the number of a repeated relation. -/
lemma isWordText_repeatSuffix (n : Nat) : IsWordText (repeatSuffix n) := by
  rw [repeatSuffix]
  split_ifs
  · decide
  · exact isWordText_toString (n + 1)

namespace IsWordText

variable {s t : String}

/-- Letters and digits can be put behind one another. -/
lemma append (hs : IsWordText s) (ht : IsWordText t) : IsWordText (s ++ t) := by
  intro c hc
  rw [String.toList_append] at hc
  exact (List.mem_append.mp hc).elim (hs c) (ht c)

/-- A letter or digit can take the place of the first one. -/
lemma modifyHead (h : IsWordText s) {f : Char → Char}
    (hf : ∀ c, isWordChar c → isWordChar (f c)) :
    IsWordText (String.ofList (s.toList.modifyHead f)) := by
  rw [IsWordText] at h ⊢
  rw [String.toList_ofList]
  cases hs : s.toList with
  | nil => exact List.forall_mem_nil _
  | cons d ds =>
    rw [hs] at h
    obtain ⟨hd, hds⟩ := List.forall_mem_cons.mp h
    exact List.forall_mem_cons.mpr ⟨hf d hd, hds⟩

/-- The first letter can be made a capital one. -/
lemma upperFirst (h : IsWordText s) : IsWordText (upperFirst s) := by
  have hhead : ∀ w, capitalize w = w.modifyHead Char.toUpper := fun w => by cases w <;> rfl
  rw [Naming.upperFirst, hhead]
  exact h.modifyHead fun c hc => isWordChar_toUpper hc

/-- The first letter can be made a small one. -/
lemma lowerFirst (h : IsWordText s) : IsWordText (lowerFirst s) := by
  have hhead : ∀ w, uncapitalize w = w.modifyHead Char.toLower := fun w => by cases w <;> rfl
  rw [Naming.lowerFirst, hhead]
  exact h.modifyHead fun c hc => isWordChar_of_isLower_or_isDigit (isLower_or_isDigit_toLower hc)

/-- Letters and digits are written in lower case one by one. -/
lemma toList_lowercase (h : IsWordText s) :
    (Text.lowercase s).toList = s.toList.map Char.toLower := by
  have hafter : ∀ (cs before : List Char), (∀ c ∈ cs, isWordChar c) →
      Text.lowerAfter before cs = cs.map Char.toLower := by
    intro cs
    induction cs with
    | nil => exact fun _ _ => rfl
    | cons c cs ih =>
      intro before hcs
      obtain ⟨hc, hcs⟩ := List.forall_mem_cons.mp hcs
      have hcode := isWordChar_iff.mp hc
      have hsigma : c ≠ 'Σ' := by
        rintro rfl
        exact absurd hc (by decide)
      have hchar : Text.lowerChar c = [c.toLower] := if_pos (by omega)
      rw [Text.lowerAfter, if_neg hsigma, hchar, ih _ hcs]
      rfl
  rw [Text.lowercase, String.toList_ofList]
  exact hafter s.toList [] h

/-- What is written in lower case consists of letters and digits as before. -/
lemma lowercase (h : IsWordText s) : IsWordText (Text.lowercase s) := by
  intro c hc
  rw [h.toList_lowercase] at hc
  obtain ⟨d, hd, rfl⟩ := List.mem_map.mp hc
  exact isWordChar_of_isLower_or_isDigit (isLower_or_isDigit_toLower (h d hd))

end IsWordText

@[simp] lemma isWordText_fieldName (text : String) : IsWordText (fieldName text) :=
  (isWordText_typeName text).lowerFirst

end Naming

end CrudScaffold

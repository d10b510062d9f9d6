import Mathlib.Data.List.Basic
import CrudScaffold.Proofs.Naming
import CrudScaffold.Proofs.Text.Decomposition

/-!
# Words of texts

The words of a text are found after its marks have been put in order and dropped, and the order of
marks is a matter of the whole text. Since they are dropped, it does not show: without accents a
text is what its characters are without accents, one after the other (`foldAccents_eq`). So marks
may be put in anywhere (`words_mark`), and an ASCII character that is neither letter nor digit cuts
the text into two texts whose words are found apart (`words_append`).

Names are put together from words one by one. What holds of the words of a text in two parts holds
of its names: the name of the whole is put together from the names of the parts (`names_of_parts`).
-/

namespace CrudScaffold.Naming

open Text

/-! ### Accents -/

/-- A text loses its accents character by character. -/
lemma foldAccents_eq (s : List Char) :
    foldAccents s = s.flatMap fun c => (decompose c).filter fun d => !isMark d := by
  rw [foldAccents, canonicalForm, filter_canonicalOrder, List.filter_flatMap]

@[simp] lemma foldAccents_append (s t : List Char) :
    foldAccents (s ++ t) = foldAccents s ++ foldAccents t := by
  rw [foldAccents_eq, foldAccents_eq, foldAccents_eq, List.flatMap_append]

/-- Characters below 0xC0 have no accents. -/
lemma foldAccents_of_lt {s : List Char} (h : ∀ c ∈ s, c.toNat < 0xC0) : foldAccents s = s := by
  have hchar : ∀ c ∈ s, ((decompose c).filter fun d => !isMark d) = [c] := by
    intro c hc
    have hmark : isMark c = false := isMark_of_lt (Nat.lt_trans (h c hc) (by decide))
    rw [decompose_of_lt (h c hc), List.filter_cons_of_pos (by simp [hmark]), List.filter_nil]
  rw [foldAccents_eq, List.flatMap_congr hchar, List.flatMap_singleton']

/-- Letters and digits are below 0xC0. -/
lemma lt_of_isWordChar {c : Char} (h : isWordChar c) : c.toNat < 0xC0 := by
  have := isWordChar_iff.mp h
  omega

/-- Of a mark nothing is left. -/
lemma foldAccents_mark {m : Char} (h : isMark m) : foldAccents [m] = [] := by
  rw [foldAccents_eq, List.flatMap_singleton, List.filter_eq_nil_iff]
  intro c hc
  simp [isMark_of_mem_decompose h hc]

/-! ### Words -/

/-- A character that may not stand in a word ends the run before it. -/
lemma runs_append_cons {c : Char} (h : isWordChar c = false) (current s t : List Char) :
    runs current (s ++ c :: t) = runs current s ++ runs [] t := by
  induction s generalizing current with
  | nil =>
    rw [List.nil_append, runs, runs, h, if_neg Bool.false_ne_true]
    split_ifs <;> rfl
  | cons d s ih =>
    rw [List.cons_append, runs, runs]
    split_ifs
    · exact ih _
    · exact ih _
    · rw [ih, List.cons_append]

/-- Words on the two sides of a separator are found apart. -/
lemma words_append (a b : String) {c : Char} (hc : c.toNat < 0x80) (h : isWordChar c = false) :
    words (a ++ String.singleton c ++ b) = words a ++ words b := by
  have hlist : (a ++ String.singleton c ++ b).toList = a.toList ++ ([c] ++ b.toList) := by
    rw [String.toList_append, String.toList_append, String.toList_singleton, List.append_assoc]
  have hfold : foldAccents [c] = [c] :=
    foldAccents_of_lt fun d hd => by rw [List.mem_singleton.mp hd]; omega
  rw [words, hlist, foldAccents_append, foldAccents_append, hfold, List.singleton_append,
    runs_append_cons h, words, words]

/-- A mark does not change the words, wherever it stands. -/
lemma words_mark (a b : String) {m : Char} (h : isMark m) :
    words (a ++ String.singleton m ++ b) = words (a ++ b) := by
  have hlist : (a ++ String.singleton m ++ b).toList = a.toList ++ ([m] ++ b.toList) := by
    rw [String.toList_append, String.toList_append, String.toList_singleton, List.append_assoc]
  rw [words, words, hlist, foldAccents_append, foldAccents_append, foldAccents_mark h,
    List.nil_append, String.toList_append, foldAccents_append]

/-! ### Names and their words -/

section Names

variable {t : String}

/-- Nothing but a text without words has an empty type name. -/
lemma isEmpty_typeName_iff : (typeName t).isEmpty ↔ words t = [] := by
  rw [String.isEmpty_iff, typeName, String.ofList_eq_empty_iff, List.flatMap_eq_nil_iff]
  constructor
  · intro h
    rw [List.eq_nil_iff_forall_not_mem]
    intro w hw
    exact (isWord_of_mem_words hw).capitalize.ne_nil (h w hw)
  · intro h w hw
    rw [h] at hw
    exact absurd hw List.not_mem_nil

/-- Words of small letters and digits with dots between them, one word at least. -/
def IsPackagePath (s : String) : Prop :=
  ∃ ws ≠ [], (∀ w ∈ ws, IsSmallWord w) ∧ s.toList = List.intercalate ['.'] ws

/-- The characters of a package path are those of the words in lower case, and dots. -/
lemma toList_packagePath (t : String) :
    (packagePath t).toList = List.intercalate ['.'] ((words t).map (·.map Char.toLower)) :=
  String.toList_ofList

/-- The words of a package path are small. -/
lemma isSmallWord_of_mem_map_words {w : List Char} (h : w ∈ (words t).map (·.map Char.toLower)) :
    IsSmallWord w := by
  obtain ⟨v, hv, rfl⟩ := List.mem_map.mp h
  exact (isWord_of_mem_words hv).lower

/-- A package path has the shape of one if there is a word to make it of. -/
lemma isPackagePath_packagePath (h : words t ≠ []) : IsPackagePath (packagePath t) := by
  refine ⟨(words t).map (·.map Char.toLower), ?_, fun w hw => ?_, toList_packagePath t⟩
  · simpa using h
  · exact isSmallWord_of_mem_map_words hw

/-- A package path is put together from texts, as the paths of two parts are. -/
lemma packagePath_eq (t : String) :
    packagePath t =
      ".".intercalate ((words t).map fun w => String.ofList (w.map Char.toLower)) := by
  apply String.toList_injective
  rw [toList_packagePath, String.toList_intercalate, List.map_map]
  congr 1
  simp

/-- Nothing but a text without words has an empty package path. -/
lemma isEmpty_packagePath_iff : (packagePath t).isEmpty ↔ words t = [] := by
  rw [String.isEmpty_iff, packagePath, String.ofList_eq_empty_iff]
  constructor
  · intro h
    cases hwords : words t with
    | nil => rfl
    | cons w ws =>
      have hw : w ≠ [] := (isWord_of_mem_words (hwords ▸ List.mem_cons_self)).ne_nil
      rw [hwords] at h
      cases ws <;> simp [List.intercalate_cons_cons, hw] at h
  · intro h
    rw [h]
    rfl

end Names

/-! ### Names of texts in two parts -/

section Parts

variable {t a b : String}

/-- The type name of the whole is the type names of the parts. -/
lemma typeName_of_words (h : words t = words a ++ words b) :
    typeName t = typeName a ++ typeName b := by
  rw [typeName, h, List.flatMap_append, String.ofList_append, typeName, typeName]

/-- Of two paths the ones that are not empty are joined. -/
lemma intercalate_filter_pair (x y : String) :
    ".".intercalate ([x, y].filter fun path => !path.isEmpty) =
      if x.isEmpty then y else if y.isEmpty then x else x ++ "." ++ y := by
  by_cases hx : x.isEmpty <;> by_cases hy : y.isEmpty
  · rw [String.isEmpty_iff.mp hx, String.isEmpty_iff.mp hy]
    rfl
  all_goals simp [hx, hy, String.intercalate_cons_cons]

/-- The package path of the whole is the package paths of the parts that have one. -/
lemma packagePath_of_words (h : words t = words a ++ words b) :
    packagePath t =
      ".".intercalate ([packagePath a, packagePath b].filter fun path => !path.isEmpty) := by
  rw [intercalate_filter_pair]
  split_ifs with ha hb
  · rw [packagePath, h, isEmpty_packagePath_iff.mp ha, List.nil_append, packagePath]
  · rw [packagePath, h, isEmpty_packagePath_iff.mp hb, List.append_nil, packagePath]
  · rw [isEmpty_packagePath_iff] at ha hb
    rw [packagePath_eq, h, List.map_append, String.intercalate_append_of_ne_nil (by simpa using ha)
      (by simpa using hb), ← packagePath_eq, ← packagePath_eq]

/-- The first letter of a text is that of its first part. -/
lemma lowerFirst_append (ha : a.isEmpty = false) (b : String) :
    lowerFirst (a ++ b) = lowerFirst a ++ b := by
  apply String.toList_injective
  rw [lowerFirst, String.toList_ofList, String.toList_append, String.toList_append, lowerFirst,
    String.toList_ofList]
  cases hlist : a.toList with
  | nil => simp [String.toList_eq_nil_iff.mp hlist] at ha
  | cons c s => rfl

/-- The field name of the whole is the field name of the first part that has one, and the type name
of what comes behind. -/
lemma fieldName_of_words (h : words t = words a ++ words b) :
    fieldName t =
      if (typeName a).isEmpty then fieldName b else fieldName a ++ typeName b := by
  rw [fieldName, typeName_of_words h]
  split_ifs with ha
  · rw [String.isEmpty_iff.mp ha, String.empty_append, fieldName]
  · rw [lowerFirst_append (by simpa using ha), fieldName]

end Parts

/-- **Names of a text are put together from the names of its parts.** An ASCII character that is
neither letter nor digit cuts a text in two. The type name of the whole is that of the first part
and then that of the second; the package path is the paths of both, if they have one, with a dot
between them; and the field name begins with the first part that has a name. Marks do not count:
names are the same with a mark put in anywhere. -/
theorem names_of_parts :
    (∀ (a b : String) (c : Char), c.toNat < 0x80 → c.isAlphanum = false →
      typeName (a ++ String.singleton c ++ b) = typeName a ++ typeName b ∧
      packagePath (a ++ String.singleton c ++ b) =
        ".".intercalate ([packagePath a, packagePath b].filter fun path => !path.isEmpty) ∧
      fieldName (a ++ String.singleton c ++ b) =
        if (typeName a).isEmpty then fieldName b else fieldName a ++ typeName b) ∧
    ∀ (a b : String) (m : Char), isMark m →
      typeName (a ++ String.singleton m ++ b) = typeName (a ++ b) ∧
      fieldName (a ++ String.singleton m ++ b) = fieldName (a ++ b) ∧
      packagePath (a ++ String.singleton m ++ b) = packagePath (a ++ b) := by
  constructor
  · intro a b c hc halphanum
    have hwords := words_append a b hc halphanum
    exact ⟨typeName_of_words hwords, packagePath_of_words hwords, fieldName_of_words hwords⟩
  · intro a b m hm
    have hwords := words_mark a b hm
    have htype : typeName (a ++ String.singleton m ++ b) = typeName (a ++ b) := by
      rw [typeName, hwords, typeName]
    refine ⟨htype, ?_, ?_⟩
    · rw [fieldName, htype, fieldName]
    · rw [packagePath, hwords, packagePath]

/-- `Línea` and `de Pedido` with a blank between them, and a text that a second accent is put in. -/
theorem names_of_parts_orderLine :
    (' '.toNat < 0x80 ∧ ' '.isAlphanum = false ∧ isMark '\u0301') ∧
    typeName ("Línea" ++ String.singleton ' ' ++ "de Pedido") = "LineaDePedido" ∧
    packagePath ("Línea" ++ String.singleton ' ' ++ "de Pedido") = "linea.de.pedido" ∧
    fieldName ("Línea" ++ String.singleton ' ' ++ "de Pedido") = "lineaDePedido" ∧
    typeName ("Lí" ++ String.singleton '\u0301' ++ "nea") = "Linea" := by
  have hblank : ' '.toNat < 0x80 ∧ ' '.isAlphanum = false := by decide
  have hmark : isMark '\u0301' := by decide +kernel
  obtain ⟨htype, hpath, hfield⟩ := names_of_parts.1 "Línea" "de Pedido" ' ' hblank.1 hblank.2
  obtain ⟨haccent, -, -⟩ := names_of_parts.2 "Lí" "nea" '\u0301' hmark
  rw [htype, hpath, hfield, haccent]
  refine ⟨⟨hblank.1, hblank.2, hmark⟩, ?_, ?_, ?_, ?_⟩ <;> decide +kernel

end CrudScaffold.Naming

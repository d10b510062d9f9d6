import Mathlib
import CrudScaffold.Proofs.List
import CrudScaffold.Proofs.Naming.Accessor
import CrudScaffold.Proofs.Naming.WordText
import CrudScaffold.Proofs.Naming.Words
import CrudScaffold.Proofs.Project.FileMap

/-!
# Normal forms of names

Names are made once and then passed on, put behind others and made again from each other. This works
because they are in a normal form: a type name is one word with a capital first letter, if it has a
letter there, and a package path is small words with dots between them. The words of a name are
known (`words_of_isWordText`, `words_packagePath`), so that a name of a name is computed from its
word or words alone. Nothing changes when a name is made a second time, type and field names can be
made from each other, and a type name without its capitals is the package path without its dots.

Where the first letter is made small or capital the name can be told from the result: two fields do
not share an accessor, nor two types a route.
-/

namespace CrudScaffold

namespace Naming

open Text

/-! ### Type names -/

/-- A capital letter or a digit with letters and digits behind it. -/
def IsTypeName (s : String) : Prop :=
  ∃ c r, s.toList = c :: r ∧ (c.isUpper ∨ c.isDigit) ∧ ∀ d ∈ r, d.isAlphanum

/-- A letter or digit is a capital letter or a digit in upper case. -/
lemma isUpper_or_isDigit_toUpper {c : Char} (h : isWordChar c) :
    c.toUpper.isUpper ∨ c.toUpper.isDigit := by
  unfold isWordChar Char.isAlphanum at h
  by_cases halpha : c.isAlpha
  · left
    rw [Char.isUpper_toUpper_eq_isAlpha, halpha]
  · right
    have hlower : ¬ c.isLower := by
      intro hlower
      rw [Char.isAlpha, hlower, Bool.or_true] at halpha
      exact halpha rfl
    rw [Char.toUpper_eq_of_not_isLower hlower]
    exact (Bool.or_eq_true_iff.mp h).resolve_left halpha

/-- The characters of a type name are those of the words, the first of each in upper case. -/
lemma toList_typeName (t : String) : (typeName t).toList = (words t).flatMap capitalize :=
  String.toList_ofList

/-- A type name begins with the first letter or digit of its text, in upper case. -/
lemma exists_typeName_eq_cons {t : String} {w : List Char} {ws : List (List Char)}
    (h : words t = w :: ws) :
    ∃ c r, isWordChar c ∧ w = c :: r ∧
      (typeName t).toList = c.toUpper :: (r ++ ws.flatMap capitalize) := by
  have hw : IsWord w := isWord_of_mem_words (h ▸ List.mem_cons_self)
  obtain ⟨c, r, rfl⟩ := List.exists_cons_of_ne_nil hw.ne_nil
  refine ⟨c, r, hw.chars c List.mem_cons_self, rfl, ?_⟩
  rw [toList_typeName, h]
  rfl

/-- A type name has the shape of one if there is a word to make it of. -/
lemma isTypeName_typeName {t : String} (h : words t ≠ []) : IsTypeName (typeName t) := by
  obtain ⟨w, ws, hwords⟩ := List.exists_cons_of_ne_nil h
  obtain ⟨c, r, hc, -, hlist⟩ := exists_typeName_eq_cons hwords
  refine ⟨c.toUpper, _, hlist, isUpper_or_isDigit_toUpper hc, fun d hd => ?_⟩
  exact isWordText_typeName t d (hlist ▸ List.mem_cons_of_mem _ hd)

/-! ### The words of a name -/

/-- Letters and digits behind a run continue it to the end. -/
lemma runs_of_forall {s : List Char} (h : ∀ c ∈ s, isWordChar c) {current : List Char}
    (hne : current ++ s ≠ []) : runs current s = [current ++ s] := by
  induction s generalizing current with
  | nil =>
    rw [List.append_nil] at hne ⊢
    rw [runs, if_neg (by simpa using hne)]
  | cons c s ih =>
    obtain ⟨hc, hs⟩ := List.forall_mem_cons.mp h
    rw [runs, if_pos hc, ih hs (by simp), List.append_assoc, List.singleton_append]

/-- A text of letters and digits is its own only word. -/
lemma words_of_isWordText {s : String} (h : IsWordText s) (hne : s ≠ "") :
    words s = [s.toList] := by
  have hlow : ∀ c ∈ s.toList, c.toNat < 0xC0 := fun c hc => lt_of_isWordChar (h c hc)
  have hlist : s.toList ≠ [] := by simpa using hne
  rw [words, foldAccents_of_lt hlow, runs_of_forall h (by simpa using hlist), List.nil_append]

/-- Words with dots between them are found again. -/
lemma runs_intercalate {ws : List (List Char)} (h : ∀ w ∈ ws, IsWord w) :
    runs [] (List.intercalate ['.'] ws) = ws := by
  induction ws with
  | nil => rfl
  | cons w ws ih =>
    obtain ⟨hw, hws⟩ := List.forall_mem_cons.mp h
    have hrun : runs [] w = [w] := runs_of_forall hw.chars (by simpa using hw.ne_nil)
    cases ws with
    | nil => rw [List.intercalate_singleton, hrun]
    | cons v ws =>
      rw [List.intercalate_cons_cons, List.append_assoc, List.singleton_append,
        runs_append_cons (by decide), hrun, ih hws, List.singleton_append]

/-- The words of a package path are those of the text in lower case. -/
lemma words_packagePath (t : String) :
    words (packagePath t) = (words t).map (·.map Char.toLower) := by
  have hwords : ∀ w ∈ (words t).map (·.map Char.toLower), IsWord w :=
    fun w hw => (isSmallWord_of_mem_map_words hw).isWord
  have hlow : ∀ c ∈ (packagePath t).toList, c.toNat < 0xC0 := by
    intro c hc
    rcases mem_intercalate (toList_packagePath t ▸ hc) with rfl | ⟨w, hw, hcw⟩
    · decide
    · exact lt_of_isWordChar ((hwords w hw).chars c hcw)
  rw [words, foldAccents_of_lt hlow, toList_packagePath, runs_intercalate hwords]

/-! ### Names of names -/

variable {s : String}

/-- The type name of a text of letters and digits is the text with a capital first letter. -/
lemma typeName_of_isWordText (h : IsWordText s) : typeName s = upperFirst s := by
  by_cases hs : s = ""
  · subst hs
    rfl
  · rw [typeName, words_of_isWordText h hs, List.flatMap_singleton, upperFirst]

/-- Type names do not begin with small letters. -/
lemma isCapital_typeName (t : String) : IsCapital (typeName t) := by
  apply String.toList_injective
  rw [upperFirst, String.toList_ofList]
  cases hwords : words t with
  | nil =>
    rw [toList_typeName, hwords]
    rfl
  | cons w ws =>
    obtain ⟨c, r, -, -, hlist⟩ := exists_typeName_eq_cons hwords
    rw [hlist, capitalize, Char.toUpper_toUpper_eq_toUpper]

/-- A type name is its own type name. -/
lemma typeName_typeName (t : String) : typeName (typeName t) = typeName t := by
  rw [typeName_of_isWordText (isWordText_typeName t), isCapital_typeName t]

/-- A field name is made into the type name that it was made from. -/
lemma typeName_fieldName (t : String) : typeName (fieldName t) = typeName t := by
  rw [typeName_of_isWordText (isWordText_fieldName t), fieldName, upperFirst_lowerFirst,
    isCapital_typeName t]

/-- A package path is its own package path. -/
lemma packagePath_packagePath (t : String) : packagePath (packagePath t) = packagePath t := by
  have hlower : ∀ w : List Char, (w.map Char.toLower).map Char.toLower = w.map Char.toLower := by
    intro w
    rw [List.map_map]
    exact List.map_congr_left fun c _ => Char.toLower_toLower_eq_toLower c
  rw [packagePath, words_packagePath, List.map_map, packagePath]
  congr 2
  exact List.map_congr_left fun w _ => hlower w

/-- A type name without its capitals is the package path without its dots. -/
lemma map_toLower_typeName (t : String) :
    (typeName t).toList.map Char.toLower = (packagePath t).toList.filter (· ≠ '.') := by
  have hdot : ∀ w ∈ (words t).map (·.map Char.toLower), '.' ∉ w := by
    intro w hw hmem
    exact absurd ((isSmallWord_of_mem_map_words hw).isWord.chars _ hmem) (by decide)
  have hcapital : ∀ w : List Char, (capitalize w).map Char.toLower = w.map Char.toLower := by
    intro w
    cases w with
    | nil => rfl
    | cons c r => rw [capitalize, List.map_cons, List.map_cons, Char.toLower_toUpper_eq_toLower]
  rw [toList_packagePath, filter_intercalate hdot, toList_typeName,
    List.map_flatMap, ← List.flatMap_def]
  exact List.flatMap_congr fun w _ => hcapital w

/-- A field name is its own field name. -/
lemma fieldName_fieldName (t : String) : fieldName (fieldName t) = fieldName t := by
  rw [fieldName, typeName_fieldName, fieldName]

/-- A type name is made into the field name of the same text. -/
lemma fieldName_typeName (t : String) : fieldName (typeName t) = fieldName t := by
  rw [fieldName, typeName_typeName, fieldName]

end Naming

/-! ### Names of types in a diagram -/

open Naming

/-- The name of a class does not begin with a small letter, and neither does the one that stands in
for it. -/
lemma ClassDef.isCapital_resolvedName (c : ClassDef) (i : Nat) : IsCapital (c.resolvedName i) := by
  unfold resolvedName
  by_cases h : (Naming.typeName c.name).isEmpty
  · rw [if_pos h]
    apply String.toList_injective
    simp [upperFirst, capitalize]
  · rw [if_neg h]
    exact isCapital_typeName c.name

namespace Snapshot

variable {s : Snapshot} {package : String} {e e' : Entity}

/-- The names of types do not begin with small letters. -/
lemma isCapital_of_mem_entities (he : e ∈ s.entities package) : IsCapital e.typeName := by
  have hname : e.typeName ∈ s.typeNames := by
    rw [← map_typeName_entities s package]
    exact List.mem_map_of_mem he
  obtain ⟨c, -, hc⟩ := mem_typeNames.mp hname
  obtain ⟨i, d, -, -, hd⟩ := ClassNames.exists_getElem?_of_typeName? hc
  rw [hd]
  exact d.isCapital_resolvedName i

/-- Types have a route of their own. -/
lemma resourcePath_inj (he : e ∈ s.entities package) (he' : e' ∈ s.entities package) :
    e.resourcePath = e'.resourcePath ↔ e.typeName = e'.typeName := by
  rw [Entity.resourcePath, Entity.resourcePath, String.append_right_inj]
  exact lowerFirst_inj (isCapital_of_mem_entities he) (isCapital_of_mem_entities he')

end Snapshot

namespace Naming

/-- **Names are in a normal form.** A type name is one word with a capital letter or a digit in
front, and a package path is words of small letters and digits with dots between them, if anything
is left of the text. Names made of names are the names again: type names, field names and package
paths stay as they are, type names and field names are made from each other, and a type name in
lower case is the package path without its dots. Fields share accessors only if they have the same
name, and types share a route only if they have the same name, also those that are called by their
number. -/
theorem names_normalForm :
    (∀ t : String,
      (typeName t = "" ∨ IsTypeName (typeName t)) ∧
      (packagePath t = "" ∨ IsPackagePath (packagePath t)) ∧
      typeName (typeName t) = typeName t ∧
      fieldName (fieldName t) = fieldName t ∧
      packagePath (packagePath t) = packagePath t ∧
      typeName (fieldName t) = typeName t ∧
      fieldName (typeName t) = fieldName t ∧
      (typeName t).toList.map Char.toLower = (packagePath t).toList.filter (· ≠ '.')) ∧
    (∀ t u : String,
      (getter (fieldName t) = getter (fieldName u) ↔ fieldName t = fieldName u) ∧
      (setter (fieldName t) = setter (fieldName u) ↔ fieldName t = fieldName u) ∧
      (lowerFirst (typeName t) = lowerFirst (typeName u) ↔ typeName t = typeName u)) ∧
    ∀ (s : Snapshot) (package : String), ∀ e ∈ s.entities package, ∀ e' ∈ s.entities package,
      e.resourcePath = e'.resourcePath ↔ e.typeName = e'.typeName := by
  refine ⟨fun t => ⟨?_, ?_, typeName_typeName t, fieldName_fieldName t, packagePath_packagePath t,
    typeName_fieldName t, fieldName_typeName t, map_toLower_typeName t⟩, fun t u => ?_,
    fun s package e he e' he' => Snapshot.resourcePath_inj he he'⟩
  · by_cases hwords : words t = []
    · exact .inl (String.isEmpty_iff.mp (isEmpty_typeName_iff.mpr hwords))
    · exact .inr (isTypeName_typeName hwords)
  · by_cases hwords : words t = []
    · exact .inl (String.isEmpty_iff.mp (isEmpty_packagePath_iff.mpr hwords))
    · exact .inr (isPackagePath_packagePath hwords)
  · have ht : IsSmall (fieldName t) := isSmall_lowerFirst (typeName t)
    have hu : IsSmall (fieldName u) := isSmall_lowerFirst (typeName u)
    exact ⟨getter_inj ht hu, setter_inj ht hu,
      lowerFirst_inj (isCapital_typeName t) (isCapital_typeName u)⟩

/-- A diagram with a class whose name has nothing that names are made of. -/
def orderLines : Snapshot where
  classes := [{ id := "l", name := "Línea de Pedido" }, { id := "q", name := "¿?" }]

/-- The class without a usable name has a route of its own. -/
theorem names_normalForm_orderLines :
    ∃ e ∈ orderLines.entities "shop", ∃ e' ∈ orderLines.entities "shop",
      e.typeName = "LineaDePedido" ∧ e'.typeName = "Entity2" ∧
      e.resourcePath = "/lineaDePedido" ∧ e.resourcePath ≠ e'.resourcePath := by
  have hname : (ClassNames.ofSnapshot orderLines).typeName? "l" = some "LineaDePedido" := by
    decide +kernel
  have hname' : (ClassNames.ofSnapshot orderLines).typeName? "q" = some "Entity2" := by
    decide +kernel
  have hl : orderLines.entity "shop" { id := "l", name := "Línea de Pedido" } "LineaDePedido" ∈
      orderLines.entities "shop" :=
    Snapshot.entity_mem_entities List.mem_cons_self hname "shop"
  have hq : orderLines.entity "shop" { id := "q", name := "¿?" } "Entity2" ∈
      orderLines.entities "shop" :=
    Snapshot.entity_mem_entities (List.mem_cons_of_mem _ List.mem_cons_self) hname' "shop"
  have hroute := names_normalForm.2.2 orderLines "shop" _ hl _ hq
  have htype : "LineaDePedido" ≠ "Entity2" := by decide
  exact ⟨_, hl, _, hq, rfl, rfl, by decide, fun h => htype (hroute.mp h)⟩

end Naming

end CrudScaffold
